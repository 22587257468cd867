import Dialogue.Proofs.Run.Logged
/-!
The path of a run: the nodes that it executes, each with the slots that it found and what came of
it. What a walk comes to can be read off its path.
-/
namespace Dialogue.Run

open Turn

abbrev Stepped := StateT (List Footstep) Program

/-- Executes a node and adds the step to the path. -/
def executeStepped (context : Node.Context) (node : Node) (slots : Slots) :
    Stepped (Except Fault Node.Effect) := do
  let outcome ← StateT.lift (node.execute context slots).run
  modify (· ++ [⟨node, slots, outcome⟩])
  return outcome

def walkStepped (context : Node.Context) (remaining steps : Nat) (next : Option Node)
    (slots : Slots) (events : List Event) : Stepped (Except Fault Result) :=
  (walkBy (executeStepped context) context remaining steps next slots events).run

/-- A run with its path. -/
def performStepped (setting : Setting) (state : State) (input : Input) :
    Stepped (Except Fault Result) :=
  (performBy (executeStepped setting.context) setting state input).run

/-- The slots as the nodes of a path leave them. A node that fails leaves them as they are. -/
def leftBy (slots : Slots) (path : List Footstep) : Slots :=
  path.foldl (fun slots step => step.outcome.toOption.elim slots Node.Effect.slots) slots

/-- The events of the nodes of a path. A node that fails has none. -/
def toldBy (path : List Footstep) : List Event := path.flatMap Footstep.events

theorem leftBy_cons (step : Footstep) (path : List Footstep) :
    leftBy step.found (step :: path) = leftBy step.left path := rfl

theorem toldBy_cons (step : Footstep) (path : List Footstep) :
    toldBy (step :: path) = step.events ++ toldBy path := List.flatMap_cons

/-- The node that comes after a path, if a node comes. -/
def ahead (language : String) : (first : Option Node) → (path : List Footstep) → Option Node
  | first, [] => first
  | _, step :: rest =>
      match step.turning language with
      | .leads next => ahead language next rest
      | _ => none

theorem ahead_of_leads {language : String} {step : Footstep} {next : Option Node}
    (h : step.turning language = .leads next) (first : Option Node) (rest : List Footstep) :
    ahead language first (step :: rest) = ahead language next rest := by
  rw [ahead, h]

theorem ahead_of_last {language : String} {step : Footstep}
    (h : ∀ next, step.turning language ≠ .leads next) (first : Option Node)
    (rest : List Footstep) : ahead language first (step :: rest) = none := by
  cases hturn : step.turning language with
  | ends ending => rw [ahead, hturn]
  | shows shown => rw [ahead, hturn]
  | leads next => exact absurd hturn (h next)

/-- A walk that may execute `remaining` nodes, the first of them `next`, takes a path and comes to
an outcome. -/
inductive Walks (context : Node.Context) :
    (remaining steps : Nat) → (next : Option Node) → Slots → List Event → List Footstep →
      Except Fault Result → Prop where
  | arrives {remaining steps : Nat} {slots : Slots} {events : List Event} :
      Walks context remaining steps none slots events [] (finish context slots events steps)
  | halts {steps : Nat} {node : Node} {slots : Slots} {events : List Event} :
      Walks context 0 steps (some node) slots events []
        (.ok (failed context.language .unexpected slots events steps))
  | ends {remaining steps : Nat} {events : List Event} (step : Footstep) {ending : Ending}
      (turns : step.turning context.language = .ends ending) :
      Walks context (remaining + 1) steps (some step.node) step.found events [step]
        (.ok (ending.result step.left (events ++ step.events) (steps + 1)))
  | shows {remaining steps : Nat} {events : List Event} (step : Footstep) {shown : Node}
      (turns : step.turning context.language = .shows shown) :
      Walks context (remaining + 1) steps (some step.node) step.found events [step]
        (.ok (.surfaced shown false step.left (events ++ step.events) (steps + 1)))
  | leads {remaining steps : Nat} {events : List Event} (step : Footstep) {next : Option Node}
      {rest : List Footstep} {outcome : Except Fault Result}
      (turns : step.turning context.language = .leads next)
      (goes : Walks context remaining (steps + 1) next step.left (events ++ step.events) rest
        outcome) :
      Walks context (remaining + 1) steps (some step.node) step.found events (step :: rest) outcome

section Equations

variable {context : Node.Context} {remaining steps : Nat} {node : Node} {slots : Slots}
  {events : List Event} {path : List Footstep}

theorem executeStepped_run (context : Node.Context) (node : Node) (slots : Slots)
    (path : List Footstep) :
    (executeStepped context node slots).run path =
      (node.execute context slots).run >>= fun outcome =>
        pure (outcome, path ++ [⟨node, slots, outcome⟩]) := by
  simp only [executeStepped, StateT.run_bind, StateT.run_lift, bind_assoc, pure_bind]
  rfl

/-- The path is only noted: without it the run is the run. -/
theorem fst_performStepped (setting : Setting) (state : State) (input : Input)
    (path : List Footstep) :
    Prod.fst <$> (performStepped setting state input).run path =
      (perform setting state input).run := by
  refine mirrors_perform mirrors_fst (fun node slots path => ?_) state input path
  rw [executeStepped_run, map_bind]
  simp only [map_pure, bind_pure]

theorem walkStepped_end :
    (walkStepped context remaining steps none slots events).run path =
      pure (finish context slots events steps, path) := by
  unfold walkStepped
  cases remaining <;> rfl

theorem walkBy_step {m : Type → Type} [Monad m]
    (execute : Node → Slots → m (Except Fault Node.Effect)) :
    walkBy execute context (remaining + 1) steps (some node) slots events =
      ExceptT.lift (execute node slots) >>= fun outcome =>
        let step : Footstep := ⟨node, slots, outcome⟩
        match step.turning context.language with
        | .ends ending => pure (ending.result step.left (events ++ step.events) (steps + 1))
        | .leads next =>
            walkBy execute context remaining (steps + 1) next step.left (events ++ step.events)
        | .shows shown =>
            pure (.surfaced shown false step.left (events ++ step.events) (steps + 1)) := by
  rw [walkBy]
  congr 1
  funext outcome
  cases outcome with
  | error fault =>
      simp [Footstep.turning, Footstep.left, Footstep.events, Ending.broken, Ending.result, failed,
        Except.toOption]
  | ok effect =>
      simp only [Footstep.turning, Footstep.left, Footstep.events, Except.toOption, Option.elim]
      split
      · rfl
      · obtain ⟨next, waits, after, all, error⟩ := effect
        cases waits with
        | false => rfl
        | true =>
            cases next with
            | none => rfl
            | some waiting =>
                simp only [surface]
                cases waiting.render after with
                | error fault => rfl
                | ok shown =>
                    by_cases hpasses : waiting.isDisplay = true
                    · simp [hpasses, (Node.kind_of_isDisplay hpasses).1]
                    · simp [hpasses, Ending.result]

theorem walkStepped_step :
    (walkStepped context (remaining + 1) steps (some node) slots events).run path =
      (node.execute context slots).run >>= fun outcome =>
        let step : Footstep := ⟨node, slots, outcome⟩
        match step.turning context.language with
        | .ends ending =>
            pure (.ok (ending.result step.left (events ++ step.events) (steps + 1)), path ++ [step])
        | .leads next =>
            (walkStepped context remaining (steps + 1) next step.left (events ++ step.events)).run
              (path ++ [step])
        | .shows shown =>
            pure (.ok (.surfaced shown false step.left (events ++ step.events) (steps + 1)),
              path ++ [step]) := by
  rw [walkStepped, walkBy_step, ExceptT.run_bind_lift, StateT.run_bind, executeStepped_run,
    bind_assoc]
  refine bind_congr fun outcome => ?_
  rw [pure_bind]
  simp only
  split <;> rfl

theorem performBy_entry {m : Type → Type} [Monad m] [LawfulMonad m]
    (execute : Node → Slots → m (Except Fault Node.Effect)) (setting : Setting) (state : State)
    (input : Input) :
    (performBy execute setting state input).run =
      match entry setting state input with
      | .error fault => pure (.error fault)
      | .ok (.refused shown message) => pure (.ok (.refused shown state.slots message))
      | .ok .lost =>
          pure (.ok (failed setting.context.language .unexpected
            (Mapping.update state.slots input.form) [] 0))
      | .ok (.admitted draft) =>
          if draft.misnamed then (stumbleBy execute setting state input draft.slots).run
          else
            match setting.context.scenario.next state.node input.handle draft.slots with
            | .ok first => (walkBy execute setting.context setting.maxSteps 0 first draft.slots []).run
            | .error _ =>
                pure (.ok (failed setting.context.language .unexpected draft.slots [] 0)) := by
  rw [performBy, ExceptT.run_bind]
  simp only [ExceptT.run_mk, pure_bind]
  cases entry setting state input with
  | error fault => rfl
  | ok entry =>
      cases entry with
      | refused shown message => rfl
      | lost => rfl
      | admitted draft =>
          simp only
          split
          · rfl
          · rw [proceedBy]
            cases setting.context.scenario.next state.node input.handle draft.slots <;> rfl

theorem performStepped_entry (setting : Setting) (state : State) (input : Input) :
    performStepped setting state input =
      match entry setting state input with
      | .error fault => pure (.error fault)
      | .ok (.refused shown message) => pure (.ok (.refused shown state.slots message))
      | .ok .lost =>
          pure (.ok (failed setting.context.language .unexpected
            (Mapping.update state.slots input.form) [] 0))
      | .ok (.admitted draft) =>
          if draft.misnamed then
            (stumbleBy (executeStepped setting.context) setting state input draft.slots).run
          else
            match setting.context.scenario.next state.node input.handle draft.slots with
            | .ok first => walkStepped setting.context setting.maxSteps 0 first draft.slots []
            | .error _ =>
                pure (.ok (failed setting.context.language .unexpected draft.slots [] 0)) :=
  performBy_entry _ setting state input

end Equations

/-- The slots that the run would start with have a name that is no text. -/
def Misnamed (setting : Setting) (state : State) (input : Input) : Prop :=
  ∃ draft, entry setting state input = .ok (.admitted draft) ∧ draft.misnamed = true

/-- The courses that a run may take: to where it is without executing a node, with slots that cannot
be used, and along a walk. -/
inductive Courses (setting : Setting) (state : State) (input : Input) :
    List Footstep → Except Fault Result → Prop where
  | stays {outcome : Except Fault Result} (named : ¬ Misnamed setting state input) :
      Courses setting state input [] outcome
  | stumbles {path : List Footstep} (misnamed : Misnamed setting state input)
      (short : path.length ≤ 1) : Courses setting state input path (.error .invalidRecord)
  | walks {first : Option Node} {slots : Slots} {path : List Footstep}
      {outcome : Except Fault Result} (named : ¬ Misnamed setting state input)
      (goes : Walks setting.context setting.maxSteps 0 first slots [] path outcome) :
      Courses setting state input path outcome

theorem misnamed_iff {setting : Setting} {state : State} {input : Input} {draft : Slot.Draft}
    (h : entry setting state input = .ok (.admitted draft)) :
    Misnamed setting state input ↔ draft.misnamed = true := by
  constructor
  · rintro ⟨other, hother, hmisnamed⟩
    cases h.symm.trans hother
    exact hmisnamed
  · exact fun hmisnamed => ⟨draft, h, hmisnamed⟩

/-- Only an answer to a question is stored under a name that may be none. -/
theorem not_misnamed_of_not_awaiting {setting : Setting} {state : State} {input : Input}
    (h : state.awaiting = false) : ¬ Misnamed setting state input := by
  rintro ⟨draft, hentry, hmisnamed⟩
  unfold entry at hentry
  simp only [h] at hentry
  split at hentry
  · cases hentry
    cases hmisnamed
  · split at hentry
    · cases hentry
    · cases hentry
      cases hmisnamed

section Notes

variable {E : Type} {step : E → Footstep} {P : E → Prop}
  {execute : Node → Slots → StateT (List E) Program (Except Fault Node.Effect)}

/-- Executing a node by `execute` adds one entry, which knows the step and has the property `P`. -/
def Notes (step : E → Footstep) (P : E → Prop)
    (execute : Node → Slots → StateT (List E) Program (Except Fault Node.Effect)) : Prop :=
  ∀ node slots path, ((execute node slots).run path).Always fun (outcome, later) =>
    ∃ entry, later = path ++ [entry] ∧ step entry = ⟨node, slots, outcome⟩ ∧ P entry

/-- The entries of a walk tell its path. -/
theorem walkBy_walks (hnotes : Notes step P execute) (context : Node.Context)
    (remaining steps : Nat) (next : Option Node) (slots : Slots) (events : List Event)
    (path : List E) :
    ((walkBy execute context remaining steps next slots events).run.run path).Always
      fun (outcome, later) => ∃ rest, later = path ++ rest ∧ (∀ entry ∈ rest, P entry) ∧
        Walks context remaining steps next slots events (rest.map step) outcome := by
  have hrefl : path = path ++ [] := (List.append_nil path).symm
  induction remaining generalizing steps next slots events path with
  | zero =>
      cases next with
      | none => exact ⟨[], hrefl, nofun, .arrives⟩
      | some node => exact ⟨[], hrefl, nofun, .halts⟩
  | succ remaining ih =>
      cases next with
      | none => exact ⟨[], hrefl, nofun, .arrives⟩
      | some node =>
          rw [walkBy_step, ExceptT.run_bind_lift, StateT.run_bind]
          refine Program.always_bind.2 ((hnotes node slots path).mono ?_)
          rintro ⟨outcome, later⟩ ⟨entry, rfl, hstep, hentry⟩
          have hlast : ∀ other ∈ [entry], P other := List.forall_mem_singleton.2 hentry
          rw [← hstep]
          obtain rfl : (step entry).node = node := by rw [hstep]
          obtain rfl : (step entry).found = slots := by rw [hstep]
          simp only
          cases hturn : (step entry).turning context.language with
          | ends ending => exact ⟨[entry], rfl, hlast, .ends _ hturn⟩
          | shows shown => exact ⟨[entry], rfl, hlast, .shows _ hturn⟩
          | leads next =>
              refine (ih _ next _ _ _ (List.append_nil _).symm).mono ?_
              rintro ⟨outcome, later⟩ ⟨rest, rfl, hrest, hwalks⟩
              exact ⟨entry :: rest, by simp, List.forall_mem_cons.2 ⟨hentry, hrest⟩,
                .leads _ hturn hwalks⟩

/-- A run that stumbles executes at most one node. -/
theorem stumbleBy_notes (hnotes : Notes step P execute) (setting : Setting) (state : State)
    (input : Input) (slots : Slots) (path : List E) :
    ((stumbleBy execute setting state input slots).run.run path).Always fun (outcome, later) =>
      outcome = .error .invalidRecord ∧
        ∃ rest, later = path ++ rest ∧ rest.length ≤ 1 ∧ ∀ entry ∈ rest, P entry := by
  unfold stumbleBy
  split
  · rename_i node _ _
    rw [ExceptT.run_bind_lift, StateT.run_bind]
    refine Program.always_bind.2 ((hnotes node slots path).mono ?_)
    rintro ⟨outcome, later⟩ ⟨entry, rfl, -, hentry⟩
    exact ⟨rfl, [entry], rfl, Nat.le_refl 1, List.forall_mem_singleton.2 hentry⟩
  · exact ⟨rfl, [], (List.append_nil path).symm, Nat.zero_le 1, nofun⟩

/-- The entries of a run tell its path. -/
theorem performBy_courses (hnotes : Notes step P execute) (setting : Setting) (state : State)
    (input : Input) (path : List E) :
    ((performBy execute setting state input).run.run path).Always fun (outcome, later) =>
      ∃ rest, later = path ++ rest ∧ (∀ entry ∈ rest, P entry) ∧
        Courses setting state input (rest.map step) outcome := by
  have hstays {outcome : Except Fault Result} (hnamed : ¬ Misnamed setting state input) :
      ∃ rest, path = path ++ rest ∧ (∀ entry ∈ rest, P entry) ∧
        Courses setting state input (rest.map step) outcome :=
    ⟨[], (List.append_nil path).symm, nofun, .stays hnamed⟩
  have hunadmitted (h : ∀ draft, entry setting state input ≠ .ok (.admitted draft)) :
      ¬ Misnamed setting state input := fun ⟨draft, hentry, _⟩ => h draft hentry
  rw [performBy_entry]
  cases hentry : entry setting state input with
  | error fault => exact hstays (hunadmitted (by simp [hentry]))
  | ok entered =>
      cases entered with
      | refused shown message => exact hstays (hunadmitted (by simp [hentry]))
      | lost => exact hstays (hunadmitted (by simp [hentry]))
      | admitted draft =>
          simp only
          split
          · rename_i hmisnamed
            refine (stumbleBy_notes hnotes setting state input draft.slots path).mono ?_
            rintro ⟨outcome, later⟩ ⟨rfl, rest, hlater, hshort, hrest⟩
            exact ⟨rest, hlater, hrest, .stumbles ((misnamed_iff hentry).2 hmisnamed) (by simpa)⟩
          · rename_i hmisnamed
            have hnamed := mt (misnamed_iff hentry).1 hmisnamed
            split
            · refine (walkBy_walks hnotes _ _ _ _ draft.slots [] path).mono ?_
              rintro ⟨outcome, later⟩ ⟨rest, hlater, hrest, hwalks⟩
              exact ⟨rest, hlater, hrest, .walks hnamed hwalks⟩
            · exact hstays hnamed

end Notes

theorem notes_stepped (context : Node.Context) :
    Notes id (fun _ => True) (executeStepped context) := by
  intro node slots path
  rw [executeStepped_run]
  refine Program.always_bind.2 (Program.always_of_forall (fun outcome => ?_) _)
  exact ⟨⟨node, slots, outcome⟩, rfl, rfl, trivial⟩

theorem walk_walks (context : Node.Context) (remaining steps : Nat) (next : Option Node)
    (slots : Slots) (events : List Event) (path : List Footstep) :
    ((walkStepped context remaining steps next slots events).run path).Always
      fun (outcome, later) => ∃ rest, later = path ++ rest ∧
        Walks context remaining steps next slots events rest outcome := by
  refine (walkBy_walks (notes_stepped context) context remaining steps next slots events path).mono ?_
  rintro ⟨outcome, later⟩ ⟨rest, hlater, -, hwalks⟩
  exact ⟨rest, hlater, List.map_id rest ▸ hwalks⟩

end Dialogue.Run
