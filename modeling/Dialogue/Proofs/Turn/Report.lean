import Dialogue.Proofs.Program
import Dialogue.Run.Walk
import Dialogue.Turn.Play
/-!
What runs come to. A walk surfaces a node or ends the scenario as completed or failed; only a run
that checks an answer can refuse it.
-/
namespace Dialogue.Run

open Attempt

namespace Result

def Walked : Result → Prop
  | .surfaced _ _ _ _ _ => True
  | .ended status _ _ _ _ => status = .completed ∨ status = .failed
  | .refused _ _ _ => False

def Refused : Result → Prop
  | .refused _ _ _ => True
  | _ => False

theorem Walked.not_refused {r : Result} (h : r.Walked) : ¬ r.Refused := by
  cases r with
  | refused shown slots message => exact h.elim
  | surfaced shown awaiting slots events steps => exact id
  | ended status message slots events steps => exact id

end Result

theorem walked_failed (language : String) (notice : Notice) (slots : Slots) (events : List Event)
    (steps : Nat) : (failed language notice slots events steps).Walked := .inr rfl

theorem walked_finish {context : Node.Context} {slots : Slots} {events : List Event} {steps : Nat}
    {r : Result} (h : finish context slots events steps = .ok r) : r.Walked := by
  obtain ⟨message, _, h⟩ := exists_of_bind_ok h
  cases h
  simp only [Result.Walked]
  split
  · exact .inr rfl
  · exact .inl rfl

theorem walked_surface (language : String) (node : Node) (slots : Slots) (events : List Event)
    (steps : Nat) : (surface language node slots events steps).Walked := by
  unfold surface
  split
  · trivial
  · exact walked_failed _ _ _ _ _

theorem walk_walked (context : Node.Context) (remaining steps : Nat) (node : Option Node)
    (slots : Slots) (events : List Event) :
    Ensures Result.Walked (walk context remaining steps node slots events) := by
  induction remaining generalizing steps node slots events with
  | zero =>
      cases node with
      | none => exact ensures_of fun _ => walked_finish
      | some node => exact ensures_pure (walked_failed _ _ _ _ _)
  | succ remaining ih =>
      cases node with
      | none => exact ensures_of fun _ => walked_finish
      | some node =>
          refine ensures_bind (ensures_of_forall (fun outcome => ?_) _)
          cases outcome with
          | error fault => exact ensures_pure (walked_failed _ _ _ _ _)
          | ok effect =>
              simp only
              split
              · exact ensures_pure (walked_failed _ _ _ _ _)
              · split
                · exact ensures_pure (walked_surface _ _ _ _ _)
                · exact ih _ _ _ _

theorem proceed_walked (setting : Setting) (state : State) (input : Input) (slots : Slots) :
    Ensures Result.Walked (proceed setting state input slots) := by
  unfold proceed
  split
  · exact walk_walked _ _ _ _ _ _
  · exact ensures_pure (walked_failed _ _ _ _ _)

theorem stumble_walked (setting : Setting) (state : State) (input : Input) (slots : Slots) :
    Ensures Result.Walked (stumble setting state input slots) := by
  unfold stumble
  split
  · exact ensures_bind (ensures_of_forall (fun _ => ensures_throw _) _)
  · exact ensures_throw _

theorem refused_refuse {current : Node} {slots : Slots} {message : Value} {r : Result}
    (h : refuse current slots message = .ok r) : r.Refused := by
  obtain ⟨shown, _, h⟩ := exists_of_bind_ok h
  split at h
  · cases h
    trivial
  · cases h

theorem receive_walked_or_refused (setting : Setting) (state : State) (input : Input)
    (current : Node) :
    Ensures (fun r => r.Walked ∨ r.Refused) (receive setting state input current) := by
  refine ensures_bind (ensures_of_forall (fun verdict => ?_) _)
  cases verdict with
  | rejected message => exact ensures_of fun _ h => .inr (refused_refuse h)
  | accepted =>
      have goOn (stored : Slot.Draft) : Ensures (fun r => r.Walked ∨ r.Refused)
          (if stored.misnamed then stumble setting state input stored.slots
            else proceed setting state input stored.slots) := by
        split
        · exact (stumble_walked _ _ _ _).mono fun _ => .inl
        · exact (proceed_walked _ _ _ _).mono fun _ => .inl
      simp only
      split
      · exact ensures_bind (ensures_of_forall goOn _)
      · exact ensures_bind (ensures_pure (goOn _))

theorem perform_walked_or_refused (setting : Setting) (state : State) (input : Input) :
    Ensures (fun r => r.Walked ∨ r.Refused) (perform setting state input) := by
  unfold perform
  split
  · exact (proceed_walked _ _ _ _).mono fun _ => .inl
  · split
    · exact ensures_pure (.inl (walked_failed _ _ _ _ _))
    · split
      · exact receive_walked_or_refused _ _ _ _
      · exact (proceed_walked _ _ _ _).mono fun _ => .inl

theorem perform_walked (setting : Setting) {state : State} (input : Input)
    (h : state.awaiting = false) : Ensures Result.Walked (perform setting state input) := by
  unfold perform
  split
  · exact proceed_walked _ _ _ _
  · split
    · exact ensures_pure (walked_failed _ _ _ _ _)
    · rw [h]
      exact proceed_walked _ _ _ _

end Dialogue.Run

/-!
What turns report. A refused answer leaves the transcript at what the user said; all else adds to it
what was shown. The events are those of the runs, and a toast for an answer that was refused.
-/

namespace Dialogue.Turn

open Attempt Run

/-- `messages` are `base` and then entries that the user did not write. -/
def Continues (base messages : List Message) : Prop :=
  ∃ shown : List Message, (∀ m ∈ shown, m.sender = .bot) ∧ messages = base ++ shown

theorem continues_self (base : List Message) : Continues base base := ⟨[], by simp, by simp⟩

theorem Continues.snoc {base messages : List Message} {m : Message} (h : Continues base messages)
    (hm : m.sender = .bot) : Continues base (messages ++ [m]) := by
  obtain ⟨shown, hall, rfl⟩ := h
  refine ⟨shown ++ [m], ?_, by simp⟩
  intro x hx
  rcases List.mem_append.1 hx with hx | hx
  · exact hall x hx
  · rw [List.mem_singleton.1 hx, hm]

theorem Continues.snoc_ne {base messages : List Message} {m : Message}
    (h : Continues base messages) : messages ++ [m] ≠ base := by
  obtain ⟨shown, -, rfl⟩ := h
  simp

/-- Of a transcript that stood at `base` after the user spoke. -/
def Report.Extends (base : List Message) (report : Report) : Prop :=
  (report.last.Refused ∧ report.messages = base) ∨
    (report.last.Walked ∧ Continues base report.messages ∧ report.messages ≠ base)

theorem proceed_extends (setting : Setting) {base : List Message} (runs : Nat)
    (earlier : List Result) {last : Result} (events : List Event) {messages : List Message}
    (hlast : last.Walked) (hm : Continues base messages) :
    Ensures (Report.Extends base) (proceed setting runs earlier last events messages) := by
  induction runs generalizing earlier last events messages with
  | zero =>
      cases last with
      | refused shown slots message => exact hlast.elim
      | ended status message slots all steps => exact ensures_pure (.inr ⟨hlast, hm.snoc rfl, hm.snoc_ne⟩)
      | surfaced shown awaiting slots all steps =>
          have hs : Continues base (messages ++ [.shown shown]) := hm.snoc rfl
          simp only [proceed]
          split
          · exact ensures_pure (.inr ⟨hlast, hs, hm.snoc_ne⟩)
          · exact ensures_pure (.inr ⟨.inr rfl, hs.snoc rfl, hs.snoc_ne⟩)
  | succ runs ih =>
      cases last with
      | refused shown slots message => exact hlast.elim
      | ended status message slots all steps => exact ensures_pure (.inr ⟨hlast, hm.snoc rfl, hm.snoc_ne⟩)
      | surfaced shown awaiting slots all steps =>
          have hs : Continues base (messages ++ [.shown shown]) := hm.snoc rfl
          simp only [proceed]
          split
          · exact ensures_pure (.inr ⟨hlast, hs, hm.snoc_ne⟩)
          · rename_i hn
            have ha : awaiting = false := by
              simp only [needsUser, Bool.or_eq_true, not_or] at hn
              exact Bool.eq_false_iff.2 hn.1
            exact ensures_bind ((perform_walked setting _ ha).mono fun _ hw => ih _ _ hw hs)

/-- Runs after the first have no answer to check, so only the first can end in a refusal. -/
theorem play_extends (setting : Setting) (maxRuns : Nat) (session : Session) (input : Input) :
    Ensures (Report.Extends (session.messages ++ said input))
      (play setting maxRuns session input) := by
  refine ensures_bind ((perform_walked_or_refused _ _ _).mono fun first hfirst => ?_)
  rcases hfirst with hwalked | hrefused
  · exact proceed_extends _ _ _ _ hwalked (continues_self _)
  · cases first with
    | refused shown slots message =>
        unfold proceed
        exact ensures_pure (.inl ⟨trivial, rfl⟩)
    | _ => exact hrefused.elim

/-- The events of all runs in order, and a toast if the last run refused an answer. -/
def Report.tidings (session : String) (report : Report) : List Event :=
  report.results.flatMap Result.events ++
    match report.last with
    | .refused _ _ message => [.toast session message "error"]
    | _ => []

theorem proceed_events (setting : Setting) (runs : Nat) (earlier : List Result) (last : Result)
    (messages : List Message) :
    Ensures (fun report => report.events = report.tidings setting.context.session)
      (proceed setting runs earlier last (earlier.flatMap Result.events) messages) := by
  induction runs generalizing earlier last messages with
  | zero =>
      cases last with
      | refused shown slots message =>
          unfold proceed
          exact ensures_pure (by simp [Report.tidings, Report.results, Result.events])
      | ended status message slots all steps =>
          unfold proceed
          exact ensures_pure (by simp [Report.tidings, Report.results])
      | surfaced shown awaiting slots all steps =>
          simp only [proceed]
          split
          · exact ensures_pure (by simp [Report.tidings, Report.results])
          · exact ensures_pure (by simp [Report.tidings, Report.results, exhausted, Result.events])
  | succ runs ih =>
      cases last with
      | refused shown slots message =>
          unfold proceed
          exact ensures_pure (by simp [Report.tidings, Report.results, Result.events])
      | ended status message slots all steps =>
          unfold proceed
          exact ensures_pure (by simp [Report.tidings, Report.results])
      | surfaced shown awaiting slots all steps =>
          simp only [proceed]
          split
          · exact ensures_pure (by simp [Report.tidings, Report.results])
          · refine ensures_bind (ensures_of_forall (fun next => ?_) _)
            have hnext := ih (earlier ++ [.surfaced shown awaiting slots all steps]) next
              (messages ++ [.shown shown])
            rw [List.flatMap_append, List.flatMap_singleton] at hnext
            exact hnext

theorem play_events (setting : Setting) (maxRuns : Nat) (session : Session) (input : Input) :
    Ensures (fun report => report.events = report.tidings setting.context.session)
      (play setting maxRuns session input) :=
  ensures_bind (ensures_of_forall (fun first => proceed_events setting maxRuns [] first _) _)

end Dialogue.Turn
