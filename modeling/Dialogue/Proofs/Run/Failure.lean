import Dialogue.Proofs.Run.Path
/-!
Runs in which something is raised. Whatever node it comes from, the run ends as failed, with the
slots and the events as the nodes before have left them.
-/
namespace Dialogue

open Turn

/-- Something is raised in a step: by the node itself, or when the node that it waits at is to be
shown. -/
inductive Turn.Footstep.Raises (step : Footstep) : Prop where
  | handler {fault : Fault} (raised : step.outcome = .error fault)
  | rendering {effect : Node.Effect} {waiting : Node} {fault : Fault}
      (ran : step.outcome = .ok effect) (sound : effect.error.getD "" = "")
      (waits : effect.waits = true) (next : effect.next = some waiting)
      (raised : waiting.render effect.slots = .error fault)

namespace Run

variable {context : Node.Context} {remaining steps k : Nat} {next : Option Node} {slots : Slots}
  {events : List Event} {path : List Footstep} {outcome : Except Fault Result} {step : Footstep}
  {language : String}

theorem turning_of_raises (h : step.Raises) :
    step.turning language = .ends (.broken language .unexpected) := by
  cases h with
  | handler raised => simp [Footstep.turning, raised]
  | rendering ran sound waits next raised =>
      simp [Footstep.turning, ran, sound, waits, next, raised]

theorem turning_of_error {effect : Node.Effect} {reason : String} (ran : step.outcome = .ok effect)
    (failed : effect.error = some reason) (hreason : reason ≠ "") :
    step.turning language = .ends (.broken language (failureNotice step.node)) := by
  simp [Footstep.turning, ran, failed, hreason]

theorem leftBy_take_succ (slots : Slots) (hk : path[k]? = some step) :
    leftBy slots (path.take (k + 1)) =
      step.outcome.toOption.elim (leftBy slots (path.take k)) Node.Effect.slots := by
  rw [List.take_add_one, hk, Option.toList_some, leftBy, List.foldl_append]
  rfl

theorem toldBy_take_succ (hk : path[k]? = some step) :
    toldBy (path.take (k + 1)) = toldBy (path.take k) ++ step.events := by
  rw [List.take_add_one, hk, Option.toList_some, toldBy, List.flatMap_append, toldBy]
  simp

theorem drop_step (hk : path[k]? = some step) : path.drop k = step :: path.drop (k + 1) := by
  obtain ⟨hlt, rfl⟩ := List.getElem?_eq_some_iff.1 hk
  exact List.drop_eq_getElem_cons hlt

namespace Walks

theorem starts {rest : List Footstep}
    (h : Walks context remaining steps next slots events (step :: rest) outcome) :
    next = some step.node ∧ slots = step.found := by
  cases h <;> exact ⟨rfl, rfl⟩

/-- A step ends its walk, shows a node and thereby ends it, or leads on to the rest of it. -/
theorem step_cases {rest : List Footstep}
    (h : Walks context remaining steps next slots events (step :: rest) outcome) :
    (∃ ending, step.turning context.language = .ends ending ∧ rest = [] ∧
      outcome = .ok (ending.result step.left (events ++ step.events) (steps + 1))) ∨
    (∃ shown, step.turning context.language = .shows shown ∧ rest = []) ∨
    ∃ following left, step.turning context.language = .leads following ∧
      Walks context left (steps + 1) following step.left (events ++ step.events) rest outcome := by
  cases h with
  | ends _ turns => exact .inl ⟨_, turns, rfl, rfl⟩
  | shows _ turns => exact .inr (.inl ⟨_, turns, rfl⟩)
  | leads _ turns goes => exact .inr (.inr ⟨_, _, turns, goes⟩)

/-- Every step of a path finds the slots as those before have left them, and the walk from there is
one of its own. -/
theorem from_step (h : Walks context remaining steps next slots events path outcome)
    (hk : path[k]? = some step) :
    step.found = leftBy slots (path.take k) ∧
      ∃ left, Walks context left (steps + k) (some step.node) step.found
        (events ++ toldBy (path.take k)) (step :: path.drop (k + 1)) outcome := by
  induction k generalizing remaining steps next slots events path with
  | zero =>
      obtain ⟨rest, rfl⟩ : ∃ rest, path = step :: rest := ⟨_, drop_step hk⟩
      obtain ⟨rfl, rfl⟩ := h.starts
      exact ⟨rfl, remaining, by simpa [toldBy] using h⟩
  | succ k ih =>
      cases h with
      | arrives => cases hk
      | halts => cases hk
      | ends first turns => cases hk
      | shows first turns => cases hk
      | leads first turns goes =>
          obtain ⟨hfound, left, hwalks⟩ := ih goes hk
          rw [List.append_assoc, Nat.add_assoc, Nat.add_comm 1 k] at hwalks
          exact ⟨hfound, left, hwalks⟩

theorem found (h : Walks context remaining steps next slots events path outcome)
    (hk : path[k]? = some step) : step.found = leftBy slots (path.take k) := (h.from_step hk).1

theorem left_eq (h : Walks context remaining steps next slots events path outcome)
    (hk : path[k]? = some step) : step.left = leftBy slots (path.take (k + 1)) := by
  rw [leftBy_take_succ slots hk, ← h.found hk]
  rfl

/-- At a step that ends its walk nothing follows. -/
theorem ended (h : Walks context remaining steps next slots events path outcome)
    (hk : path[k]? = some step) {ending : Ending}
    (hturn : step.turning context.language = .ends ending) :
    outcome = .ok (ending.result (leftBy slots (path.take (k + 1)))
      (events ++ toldBy (path.take (k + 1))) (steps + (k + 1))) := by
  obtain ⟨-, left, hwalks⟩ := h.from_step hk
  rw [← h.left_eq hk, toldBy_take_succ hk, ← List.append_assoc, ← Nat.add_assoc]
  obtain ⟨_, hends, -, houtcome⟩ | ⟨_, hshows, -⟩ | ⟨_, _, hleads, -⟩ := hwalks.step_cases
  · cases hturn.symm.trans hends
    exact houtcome
  · cases hturn.symm.trans hshows
  · cases hturn.symm.trans hleads

/-- A step that leads to no other node is the last one. -/
theorem length_of_last (h : Walks context remaining steps next slots events path outcome)
    (hk : path[k]? = some step) (hlast : ∀ node, step.turning context.language ≠ .leads (some node)) :
    path.length = k + 1 := by
  obtain ⟨-, left, hwalks⟩ := h.from_step hk
  have hlt : k < path.length := (List.getElem?_eq_some_iff.1 hk).1
  suffices hnil : path.drop (k + 1) = [] from Nat.le_antisymm (List.drop_eq_nil_iff.1 hnil) hlt
  obtain ⟨_, -, hnil, -⟩ | ⟨_, -, hnil⟩ | ⟨following, _, hleads, hgoes⟩ := hwalks.step_cases
  · exact hnil
  · exact hnil
  · cases following with
    | some node => exact absurd hleads (hlast node)
    | none =>
        generalize path.drop (k + 1) = rest at hgoes
        cases hgoes
        rfl

/-- A step that leads nowhere lets its walk arrive at the end, with the slots as it leaves them. -/
theorem arrived (h : Walks context remaining steps next slots events path outcome)
    (hk : path[k]? = some step) (hturn : step.turning context.language = .leads none) :
    ∃ told, outcome = finish context step.left told (steps + (k + 1)) := by
  obtain ⟨-, left, hwalks⟩ := h.from_step hk
  obtain ⟨_, hends, -, -⟩ | ⟨_, hshows, -⟩ | ⟨following, _, hleads, hgoes⟩ := hwalks.step_cases
  · cases hturn.symm.trans hends
  · cases hturn.symm.trans hshows
  · cases hturn.symm.trans hleads
    generalize path.drop (k + 1) = rest at hgoes
    cases hgoes
    exact ⟨_, rfl⟩

end Walks

theorem notice_text_eq_iff (node : Node) (language : String) :
    (failureNotice node).text language = Notice.completionFailed.text language ↔
      node.kind? = some .llm := by
  have hdiffer : Notice.unexpected.text language ≠ Notice.completionFailed.text language := by
    simp only [Notice.text, Notice.template]
    split <;> decide
  unfold failureNotice
  split
  · simp [*]
  · simp [*]

/-- Once the entry of a run is passed, nothing that is raised is raised by the run. It ends as
failed, with the slots and the events of the nodes that were completed before; and so it does,
with the slots of the node itself, if a node reports an error. -/
theorem failing_node_fails_run (setting : Setting) (state : State) (input : Input) :
    (∀ path, Prod.fst <$> (performStepped setting state input).run path =
        (perform setting state input).run) ∧
      ∀ draft, entry setting state input = .ok (.admitted draft) → draft.misnamed = false →
        ((performStepped setting state input).run []).Always fun told =>
          let outcome := told.1
          let path := told.2
          let language := setting.context.language
          (∀ k step, path[k]? = some step → step.found = leftBy draft.slots (path.take k)) ∧
          (∀ fault,
            setting.context.scenario.next state.node input.handle draft.slots = .error fault →
            outcome = .ok (.ended .failed (Notice.unexpected.text language) draft.slots [] 0)) ∧
          (∀ k step, path[k]? = some step → step.Raises →
            outcome = .ok (.ended .failed (Notice.unexpected.text language)
              (leftBy draft.slots (path.take (k + 1))) (toldBy (path.take (k + 1))) (k + 1))) ∧
          ∀ k step effect reason, path[k]? = some step → step.outcome = .ok effect →
            effect.error = some reason → reason ≠ "" →
            outcome = .ok (.ended .failed ((failureNotice step.node).text language) effect.slots
              (toldBy (path.take (k + 1))) (k + 1)) ∧
            ((failureNotice step.node).text language = Notice.completionFailed.text language ↔
              step.node.kind? = some .llm) := by
  refine ⟨fst_performStepped setting state input, fun draft hentry hnamed => ?_⟩
  rw [performStepped_entry, hentry]
  simp only [hnamed, Bool.false_eq_true, if_false]
  cases hnext : setting.context.scenario.next state.node input.handle draft.slots with
  | error fault =>
      refine ⟨fun k step hk => ?_, fun _ _ => rfl, fun k step hk => ?_,
        fun k step effect reason hk => ?_⟩
      · cases hk
      · cases hk
      · cases hk
  | ok first =>
      refine (walk_walks setting.context setting.maxSteps 0 first draft.slots [] []).mono ?_
      rintro ⟨outcome, path⟩ ⟨_, rfl, hwalks⟩
      refine ⟨fun k step => hwalks.found, fun fault hfails => ?_, fun k step hk hraises => ?_, ?_⟩
      · cases hfails
      · rw [hwalks.ended hk (turning_of_raises hraises)]
        simp [Ending.broken, Ending.result]
      · intro k step effect reason hk hran herror hreason
        refine ⟨?_, notice_text_eq_iff step.node setting.context.language⟩
        rw [hwalks.ended hk (turning_of_error hran herror hreason), leftBy_take_succ _ hk, hran]
        simp [Ending.broken, Ending.result, Except.toOption]

namespace Sample

/-- The last node cannot be executed: its assignments are no list. -/
def errand : Scenario where
  id := "errand"
  name := "Errand"
  description := ""
  nodes := [
    ⟨"note", "setSlot", [("assignments", .list [
      .object [("key", .text "greeted"), ("value", .text "yes")]])]⟩,
    ⟨"bell", "toast", [("message", .text "Hello")]⟩,
    ⟨"jam", "setSlot", [("assignments", .int 5)]⟩]
  edges := [⟨"e1", "note", "bell", none⟩, ⟨"e2", "bell", "jam", none⟩]
  start := some "note"

def porch : Setting := ⟨⟨errand, "s1", "en", ""⟩, ⟨2024, 1, 1⟩, 10⟩

end Sample

theorem errand_fails_at_its_jam :
    let draft := Slot.Draft.ofSlots []
    entry Sample.porch .initial .none = .ok (.admitted draft) ∧ draft.misnamed = false ∧
      ∃ outcome path step,
        (performStepped Sample.porch .initial .none).run [] = .done (outcome, path) ∧
        path[2]? = some step ∧ step.node.id = "jam" ∧ step.Raises ∧
        outcome = .ok (.ended .failed (Notice.unexpected.text "en") [("greeted", .text "yes")]
          [.toast "s1" "Hello" "info"] 3) := by
  intro draft
  have hentry : entry Sample.porch .initial .none = .ok (.admitted draft) := rfl
  have halways := (failing_node_fails_run Sample.porch .initial .none).2 draft hentry rfl
  obtain ⟨outcome, path, step, hrun, hstep, hid, hraises, hslots, hevents⟩ :
      ∃ outcome path step,
        (performStepped Sample.porch .initial .none).run [] = .done (outcome, path) ∧
        path[2]? = some step ∧ step.node.id = "jam" ∧ step.Raises ∧
        leftBy draft.slots (path.take 3) = [("greeted", .text "yes")] ∧
        toldBy (path.take 3) = [.toast "s1" "Hello" "info"] :=
    ⟨_, _, _, rfl, rfl, rfl, .handler rfl, rfl, rfl⟩
  rw [hrun] at halways
  have hended := halways.2.2.1 2 step hstep hraises
  rw [hslots, hevents] at hended
  exact ⟨hentry, rfl, outcome, path, step, hrun, hstep, hid, hraises, hended⟩

end Run

end Dialogue
