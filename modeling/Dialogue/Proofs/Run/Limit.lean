import Dialogue.Proofs.Run.Path
import Dialogue.Script
/-!
Runs under different limits of steps. A limit takes a run off at a node or is of no effect on it: a
run that needs no more steps than it has is the same under every limit that allows for them.
-/
namespace Dialogue

open Turn

namespace Run

def Setting.limited (setting : Setting) (limit : Nat) : Setting :=
  { setting with maxSteps := limit }

section Worlds

variable {σ : Type} (world : σ → (c : Call) → c.Answer × σ)

/-- What a walk comes to, the path to it, and the world after it. -/
def walkIn (context : Node.Context) (remaining steps : Nat) (next : Option Node) (slots : Slots)
    (events : List Event) (path : List Footstep) (s : σ) :
    (Except Fault Result × List Footstep) × σ :=
  ((walkStepped context remaining steps next slots events).run path).run world s

/-- What a run comes to under a limit, the path to it, and the world after it. -/
def performIn (setting : Setting) (state : State) (input : Input) (s : σ) (limit : Nat) :
    (Except Fault Result × List Footstep) × σ :=
  ((performStepped (setting.limited limit) state input).run []).run world s

end Worlds

/-- Where a run begins to walk: the slots and the first node, if it comes to one. -/
def outset? (setting : Setting) (state : State) (input : Input) : Option (Slots × Node) :=
  match entry setting state input with
  | .ok (.admitted draft) =>
      if draft.misnamed then none
      else
        match setting.context.scenario.next state.node input.handle draft.slots with
        | .ok first => first.map (draft.slots, ·)
        | .error _ => none
  | _ => none

/-- The path stops short of a node that it leads to. -/
def ShortOf (setting : Setting) (state : State) (input : Input) (path : List Footstep)
    (node : Node) : Prop :=
  ∃ slots first, outset? setting state input = some (slots, first) ∧
    ahead setting.context.language (some first) path = some node

theorem steps_of_finish {context : Node.Context} {slots : Slots} {events : List Event} {steps : Nat}
    {result : Result} (h : finish context slots events steps = .ok result) :
    result.steps = steps := by
  obtain ⟨message, _, h⟩ := exists_of_bind_ok h
  cases h
  rfl

theorem steps_of_ends {step : Footstep} {language : String} {ending : Ending}
    (h : step.turning language = .ends ending) (slots : Slots) (events : List Event)
    (steps : Nat) : (ending.result slots events steps).steps = steps := by
  cases ending with
  | halted status message => rfl
  | resting shown awaiting => rfl
  | refused shown message =>
      unfold Footstep.turning at h
      split at h
      · cases h
      · split at h
        · cases h
        · split at h
          · split at h
            · cases h
            · split at h <;> cases h
          · cases h

namespace Walks

variable {context : Node.Context} {remaining steps : Nat} {next : Option Node} {slots : Slots}
  {events : List Event} {path : List Footstep} {outcome : Except Fault Result}

theorem length_le (h : Walks context remaining steps next slots events path outcome) :
    path.length ≤ remaining := by
  induction h with
  | arrives => exact Nat.zero_le _
  | halts => exact Nat.zero_le _
  | ends step turns => exact Nat.succ_le_succ (Nat.zero_le _)
  | shows step turns => exact Nat.succ_le_succ (Nat.zero_le _)
  | leads step turns goes ih => exact Nat.succ_le_succ ih

/-- A result counts the nodes of its path. -/
theorem steps_eq (h : Walks context remaining steps next slots events path outcome)
    {result : Result} (hresult : outcome = .ok result) : result.steps = steps + path.length := by
  induction h with
  | arrives => exact steps_of_finish hresult
  | halts =>
      cases hresult
      rfl
  | ends step turns =>
      cases hresult
      exact steps_of_ends turns _ _ _
  | shows step turns =>
      cases hresult
      rfl
  | leads step turns goes ih =>
      rw [ih hresult, List.length_cons]
      omega

/-- Only a walk that may go no further stops short of a node. -/
theorem halted (h : Walks context remaining steps next slots events path outcome) {node : Node}
    (hahead : ahead context.language next path = some node) :
    path.length = remaining ∧
      outcome = .ok (failed context.language .unexpected (leftBy slots path)
        (events ++ toldBy path) (steps + remaining)) := by
  induction h with
  | arrives => cases hahead
  | halts => exact ⟨rfl, by simp [leftBy, toldBy]⟩
  | ends step turns => simp [ahead, turns] at hahead
  | shows step turns => simp [ahead, turns] at hahead
  | leads step turns goes ih =>
      rw [ahead_of_leads turns] at hahead
      obtain ⟨hlength, houtcome⟩ := ih hahead
      refine ⟨congrArg Nat.succ hlength, ?_⟩
      rw [houtcome, leftBy_cons, toldBy_cons, List.append_assoc]
      congr 2
      omega

theorem begins {node : Node}
    (h : Walks context (remaining + 1) steps (some node) slots events path outcome) :
    ∃ step more, step.node = node ∧ path = step :: more := by
  cases h with
  | ends step turns => exact ⟨step, [], rfl, rfl⟩
  | shows step turns => exact ⟨step, [], rfl, rfl⟩
  | leads step turns goes => exact ⟨step, _, rfl, rfl⟩

end Walks

section Worlds

variable {σ : Type} (world : σ → (c : Call) → c.Answer × σ) (context : Node.Context)

theorem walkIn_step {step : Footstep} {s later : σ}
    (hstep : (step.node.execute context step.found).run.run world s = (step.outcome, later))
    (remaining steps : Nat) (events : List Event) (path : List Footstep) :
    walkIn world context (remaining + 1) steps (some step.node) step.found events path s =
      match step.turning context.language with
      | .ends ending =>
          ((.ok (ending.result step.left (events ++ step.events) (steps + 1)),
            path ++ [step]), later)
      | .leads next =>
          walkIn world context remaining (steps + 1) next step.left (events ++ step.events)
            (path ++ [step]) later
      | .shows shown =>
          ((.ok (.surfaced shown false step.left (events ++ step.events) (steps + 1)),
            path ++ [step]), later) := by
  rw [walkIn, walkStepped_step]
  refine (Program.run_bind world s _ _).trans ?_
  rw [hstep]
  simp only
  cases step.turning context.language <;> rfl

theorem walkIn_last {step : Footstep} {s later : σ}
    (hstep : (step.node.execute context step.found).run.run world s = (step.outcome, later))
    (hlast : ∀ next, step.turning context.language ≠ .leads next) (steps : Nat)
    (events : List Event) (path : List Footstep) :
    ∃ result, (∀ remaining,
        walkIn world context (remaining + 1) steps (some step.node) step.found events path s =
          ((.ok result, path ++ [step]), later)) ∧
      ahead context.language (some step.node) [step] = none := by
  refine (exists_and_right).2 ⟨?_, ahead_of_last hlast _ _⟩
  simp only [walkIn_step world context hstep]
  cases hturn : step.turning context.language with
  | ends ending => exact ⟨_, fun _ => rfl⟩
  | shows shown => exact ⟨_, fun _ => rfl⟩
  | leads next => exact absurd hturn (hlast next)

theorem walkIn_end (remaining steps : Nat) (slots : Slots) (events : List Event)
    (path : List Footstep) (s : σ) :
    walkIn world context remaining steps none slots events path s =
      ((finish context slots events steps, path), s) := by
  rw [walkIn, walkStepped_end]
  rfl

theorem walkIn_walks (remaining steps : Nat) (next : Option Node) (slots : Slots)
    (events : List Event) (path : List Footstep) (s : σ) :
    ∃ rest, (walkIn world context remaining steps next slots events path s).1.2 = path ++ rest ∧
      Walks context remaining steps next slots events rest
        (walkIn world context remaining steps next slots events path s).1.1 :=
  (walk_walks context remaining steps next slots events path).run world s

/-- A walk under two limits. If it stops short of a node under the one it goes on to it under any
greater one; otherwise it is the same under any that allows for its path. -/
theorem walkIn_other (remaining steps : Nat) (next : Option Node) (slots : Slots)
    (events : List Event) (path : List Footstep) (s : σ) :
    ∃ rest, (walkIn world context remaining steps next slots events path s).1.2 = path ++ rest ∧
      (ahead context.language next rest = none → ∀ other, rest.length ≤ other →
        walkIn world context other steps next slots events path s =
          walkIn world context remaining steps next slots events path s) ∧
      ∀ node, ahead context.language next rest = some node → ∀ other, remaining < other →
        ∃ step more, step.node = node ∧
          (walkIn world context other steps next slots events path s).1.2 =
            path ++ rest ++ step :: more := by
  -- On the nodes that may still be executed under the first limit. Each step takes one from both
  -- limits, so at a node it is decided under which of them the walk can go on.
  induction remaining generalizing steps next slots events path s with
  | zero =>
      cases next with
      | none =>
          refine ⟨[], by rw [walkIn_end, List.append_nil], fun _ other _ => ?_, nofun⟩
          rw [walkIn_end, walkIn_end]
      | some node =>
          refine ⟨[], (List.append_nil _).symm, nofun, ?_⟩
          rintro _ ⟨⟩ other hother
          obtain ⟨other, rfl⟩ := Nat.exists_eq_succ_of_ne_zero (Nat.ne_of_gt hother)
          obtain ⟨rest, hrest, hwalks⟩ :=
            walkIn_walks world context (other + 1) steps (some node) slots events path s
          obtain ⟨step, more, hnode, rfl⟩ := hwalks.begins
          exact ⟨step, more, hnode, by rw [hrest, List.append_nil]⟩
  | succ remaining ih =>
      cases next with
      | none =>
          refine ⟨[], by rw [walkIn_end, List.append_nil], fun _ other _ => ?_, nofun⟩
          rw [walkIn_end, walkIn_end]
      | some node =>
          obtain ⟨step, later, rfl, rfl, hexecute⟩ : ∃ step : Footstep, ∃ later, step.node = node ∧
              step.found = slots ∧
              (step.node.execute context step.found).run.run world s = (step.outcome, later) :=
            ⟨⟨node, slots, ((node.execute context slots).run.run world s).1⟩, _, rfl, rfl, rfl⟩
          have hstep (remaining : Nat) :=
            walkIn_step world context hexecute remaining steps events path
          by_cases hleads : ∃ next, step.turning context.language = .leads next
          · obtain ⟨next, hturn⟩ := hleads
            simp only [hturn] at hstep
            obtain ⟨rest, hrest, hsame, hfurther⟩ := ih (steps + 1) next step.left
              (events ++ step.events) (path ++ [step]) later
            refine ⟨step :: rest, by rw [hstep, hrest]; simp, fun hnone other hother => ?_, ?_⟩
            · obtain ⟨other, rfl⟩ := Nat.exists_eq_add_of_le' (Nat.one_le_of_lt hother)
              rw [ahead_of_leads hturn] at hnone
              rw [hstep, hstep]
              exact hsame hnone other (Nat.le_of_succ_le_succ hother)
            · intro node hnode other hother
              obtain ⟨other, rfl⟩ := Nat.exists_eq_add_of_le' (Nat.one_le_of_lt hother)
              rw [ahead_of_leads hturn] at hnode
              obtain ⟨following, more, hid, hmore⟩ :=
                hfurther node hnode other (Nat.lt_of_succ_lt_succ hother)
              exact ⟨following, more, hid, by rw [hstep, hmore]; simp⟩
          · obtain ⟨result, hlast, hahead⟩ :=
              walkIn_last world context hexecute (not_exists.1 hleads) steps events path
            refine ⟨[step], by rw [hlast], fun _ other hother => ?_, by simp [hahead]⟩
            obtain ⟨other, rfl⟩ := Nat.exists_eq_add_of_le' hother
            rw [List.length_singleton, hlast, hlast]

end Worlds

section Worlds

variable {σ : Type} (world : σ → (c : Call) → c.Answer × σ) {setting : Setting} {state : State}
  {input : Input}

/-- A limit has a say only once a run walks. -/
theorem performIn_admitted {draft : Slot.Draft}
    (hentered : entry setting state input = .ok (.admitted draft))
    (hnamed : ¬ draft.misnamed = true) (s : σ) (limit : Nat) :
    performIn world setting state input s limit =
      match setting.context.scenario.next state.node input.handle draft.slots with
      | .ok first => walkIn world setting.context limit 0 first draft.slots [] [] s
      | .error _ =>
          ((.ok (failed setting.context.language .unexpected draft.slots [] 0), []), s) := by
  have hentry : entry (setting.limited limit) state input = .ok (.admitted draft) := hentered
  rw [performIn, performStepped_entry, hentry]
  simp only [if_neg hnamed, Setting.limited]
  cases setting.context.scenario.next state.node input.handle draft.slots <;> rfl

theorem performIn_walks {slots : Slots} {first : Node}
    (houtset : outset? setting state input = some (slots, first)) (s : σ) (limit : Nat) :
    performIn world setting state input s limit =
      walkIn world setting.context limit 0 (some first) slots [] [] s := by
  unfold outset? at houtset
  split at houtset
  · rename_i draft hentered
    split at houtset
    · cases houtset
    · rename_i hnamed
      rw [performIn_admitted world hentered hnamed]
      split at houtset
      · obtain ⟨node, rfl, hnode⟩ := Option.map_eq_some_iff.1 houtset
        cases hnode
        rfl
      · cases houtset
  · cases houtset

theorem stumbleBy_error (setting : Setting) (state : State) (input : Input) (slots : Slots)
    (path : List Footstep) :
    ((stumbleBy (executeStepped setting.context) setting state input slots).run.run path).Always
      fun told => told.1 = .error .invalidRecord :=
  (stumbleBy_notes (notes_stepped setting.context) setting state input slots path).mono
    fun _ h => h.1

/-- A run that does not come to a node has nothing to do with its limit. -/
theorem performIn_still (houtset : outset? setting state input = none) (s : σ) (limit : Nat)
    {result : Result} (hresult : (performIn world setting state input s limit).1.1 = .ok result) :
    result.steps = 0 ∧ ∀ other, performIn world setting state input s other = ((.ok result, []), s)
    := by
  unfold outset? at houtset
  cases hentered : entry setting state input with
  | error fault =>
      have hentry : entry (setting.limited limit) state input = .error fault := hentered
      rw [performIn, performStepped_entry, hentry] at hresult
      cases hresult
  | ok entered =>
      have hentry (limit : Nat) : entry (setting.limited limit) state input = .ok entered :=
        hentered
      rw [hentered] at houtset
      cases entered with
      | refused shown message =>
          simp only [performIn, performStepped_entry, hentry] at hresult ⊢
          cases hresult
          exact ⟨rfl, fun _ => rfl⟩
      | lost =>
          simp only [performIn, performStepped_entry, hentry] at hresult ⊢
          cases hresult
          exact ⟨rfl, fun _ => rfl⟩
      | admitted draft =>
          by_cases hnamed : draft.misnamed = true
          · simp only [performIn, performStepped_entry, hentry, if_pos hnamed] at hresult
            have herror := (stumbleBy_error (setting.limited limit) state input draft.slots []).run world s
            cases hresult.symm.trans herror
          · simp only [performIn_admitted world hentered hnamed] at hresult ⊢
            simp only [if_neg hnamed] at houtset
            cases hnext : setting.context.scenario.next state.node input.handle draft.slots with
            | error fault =>
                rw [hnext] at hresult
                cases hresult
                exact ⟨rfl, fun _ => rfl⟩
            | ok first =>
                rw [hnext] at houtset hresult
                obtain rfl := Option.map_eq_none_iff.1 houtset
                simp only [walkIn_end] at hresult ⊢
                exact ⟨steps_of_finish hresult, fun _ => by rw [hresult]⟩

theorem fst_performIn (setting : Setting) (state : State) (input : Input) (s : σ) (limit : Nat) :
    (perform (setting.limited limit) state input).run.run world s =
      ((performIn world setting state input s limit).1.1,
        (performIn world setting state input s limit).2) := by
  rw [← fst_performStepped _ state input []]
  exact Program.run_bind world s _ _

end Worlds

/-- The limit of steps only guards a run. A run that it does not stop is the same under every limit
that allows for the steps it counts. A run that it stops short of a node has failed after just as
many nodes as the limit allows; they come first under every greater limit, and then the node that
was left out. -/
theorem limit_only_guards {σ : Type} (world : σ → (c : Call) → c.Answer × σ) (setting : Setting)
    (state : State) (input : Input) (s : σ) :
    let run := performIn world setting state input s
    (∀ limit, (perform (setting.limited limit) state input).run.run world s =
        ((run limit).1.1, (run limit).2)) ∧
      ∀ limit result, (run limit).1.1 = .ok result →
        let path := (run limit).1.2
        result.steps = path.length ∧
        ((∀ node, ¬ ShortOf setting state input path node) →
          result.steps ≤ limit ∧ ∀ other, result.steps ≤ other → run other = run limit) ∧
        ∀ node, ShortOf setting state input path node →
          path.length = limit ∧
          (∃ outset, (outset? setting state input).map Prod.fst = some outset ∧
            result = .ended .failed (Notice.unexpected.text setting.context.language)
              (leftBy outset path) (toldBy path) limit) ∧
          ∀ other, limit < other →
            ∃ step more, step.node = node ∧ (run other).1.2 = path ++ step :: more := by
  refine ⟨fst_performIn world setting state input s, fun limit result hresult => ?_⟩
  simp only
  cases houtset : outset? setting state input with
  | none =>
      obtain ⟨hsteps, hsame⟩ := performIn_still world houtset s limit hresult
      rw [hsame limit]
      refine ⟨hsteps, fun _ => ⟨by omega, fun other _ => hsame other⟩, ?_⟩
      rintro node ⟨slots, first, hsome, -⟩
      cases houtset.symm.trans hsome
  | some outset =>
      obtain ⟨slots, first⟩ := outset
      simp only [performIn_walks world houtset] at hresult ⊢
      obtain ⟨path, hpath, hwalks⟩ :=
        walkIn_walks world setting.context limit 0 (some first) slots [] [] s
      obtain ⟨path', hpath', hsame, hfurther⟩ :=
        walkIn_other world setting.context limit 0 (some first) slots [] [] s
      cases hpath.symm.trans hpath'
      have hsteps : result.steps = path.length := by
        rw [hwalks.steps_eq hresult, Nat.zero_add]
      rw [hpath, List.nil_append]
      refine ⟨hsteps, fun hnever => ?_, ?_⟩
      · have hnone : ahead setting.context.language (some first) path = none := by
          refine Option.eq_none_iff_forall_ne_some.2 fun node hnode => ?_
          exact hnever node ⟨slots, first, houtset, hnode⟩
        rw [hsteps]
        exact ⟨hwalks.length_le, hsame hnone⟩
      · rintro node ⟨_, _, hsome, hnode⟩
        cases houtset.symm.trans hsome
        obtain ⟨hlength, hhalted⟩ := hwalks.halted hnode
        refine ⟨hlength, ⟨slots, rfl, ?_⟩, hfurther node hnode⟩
        cases hresult.symm.trans hhalted
        rw [List.nil_append, Nat.zero_add]
        rfl

namespace Sample

/-- Two nodes that never wait lead to each other. -/
def carousel : Scenario where
  id := "carousel"
  name := "Carousel"
  description := ""
  nodes := [
    ⟨"ring", "toast", [("message", .text "Ding")]⟩,
    ⟨"turn", "setSlot", [("assignments", .list [
      .object [("key", .text "turned"), ("value", .text "yes")]])]⟩]
  edges := [⟨"e1", "ring", "turn", none⟩, ⟨"e2", "turn", "ring", none⟩]
  start := some "ring"

def fairground : Setting := ⟨⟨carousel, "s1", "en", ""⟩, ⟨2024, 1, 1⟩, 10⟩

def menu : State := ⟨some "menu", false, []⟩

end Sample

/-- The carousel is stopped after three nodes and would turn on; the greeting is shown after one. -/
theorem limit_stops_carousel_not_greeting :
    let ride := performIn Script.answer Sample.fairground .initial .none Script.empty
    let visit := performIn Script.answer Sample.lobby Sample.menu Sample.go Script.empty
    (∃ result node, (ride 3).1.1 = .ok result ∧
        ShortOf Sample.fairground .initial .none (ride 3).1.2 node ∧ node.id = "turn" ∧
        result = .ended .failed (Notice.unexpected.text "en") [("turned", .text "yes")]
          [.toast "s1" "Ding" "info", .toast "s1" "Ding" "info"] 3 ∧
        ∃ step more, step.node = node ∧ (ride 5).1.2 = (ride 3).1.2 ++ step :: more) ∧
      ∃ result, (visit 10).1.1 = .ok result ∧ result.steps = 1 ∧
        (∀ node, ¬ ShortOf Sample.lobby Sample.menu Sample.go (visit 10).1.2 node) ∧
        visit 1 = visit 10 := by
  intro ride visit
  constructor
  · obtain ⟨result, node, hresult, hshort, hid, hslots, hevents⟩ :
        ∃ result node, (ride 3).1.1 = .ok result ∧
          ShortOf Sample.fairground .initial .none (ride 3).1.2 node ∧ node.id = "turn" ∧
          leftBy [] (ride 3).1.2 = [("turned", .text "yes")] ∧
          toldBy (ride 3).1.2 = [.toast "s1" "Ding" "info", .toast "s1" "Ding" "info"] :=
      ⟨_, _, rfl, ⟨_, _, rfl, rfl⟩, rfl, rfl, rfl⟩
    obtain ⟨-, ⟨outset, houtset, hfailed⟩, hfurther⟩ :=
      ((limit_only_guards Script.answer Sample.fairground .initial .none Script.empty).2 3 result
        hresult).2.2 node hshort
    obtain rfl : outset = [] := (Option.some.inj houtset).symm
    rw [hslots, hevents] at hfailed
    exact ⟨result, node, hresult, hshort, hid, hfailed, hfurther 5 (by decide)⟩
  · have hnever (node : Node) :
        ¬ ShortOf Sample.lobby Sample.menu Sample.go (visit 10).1.2 node := by
      rintro ⟨slots, first, houtset, hahead⟩
      cases houtset
      cases hahead
    obtain ⟨result, hresult, hsteps⟩ :
        ∃ result, (visit 10).1.1 = .ok result ∧ result.steps = 1 := ⟨_, rfl, rfl⟩
    have hsame := ((limit_only_guards Script.answer Sample.lobby Sample.menu Sample.go
      Script.empty).2 10 result hresult).2.1 hnever
    exact ⟨result, hresult, hsteps, hnever, hsame.2 1 hsteps.le⟩

end Run

end Dialogue
