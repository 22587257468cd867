import Dialogue.Proofs.Manager.Operation
/-!
How a turn ends. Whatever it came to, it writes one change at the version at which it began, or
leaves the record as it stands.
-/
namespace Dialogue

namespace Turn

/-- A turn ends with what its work came to, or because it took too long. -/
inductive Close where
  | settled (result : Except Fault Report)
  | expired

/-- Only work that is done can be settled. -/
def Close.Fits (turn : Pending) : Close → Prop
  | .settled result => turn.work = .done result
  | .expired => True

namespace Pending

/-- The change by which a fault fails the session. -/
def failure (turn : Pending) : Session.Change where
  status := some .failed
  awaiting := some false
  messages := some (turn.marked.messages ++ said turn.input ++
    [.answered (Notice.unexpected.text turn.language)])

/-- The change that a turn writes at its end. -/
def change (turn : Pending) : Close → Session.Change
  | .settled (.ok report) => report.change
  | .settled (.error _) => turn.failure
  | .expired => { status := some .active }

end Pending

end Turn

theorem Sink.publish_nil (sink : Sink) (session : String) : sink.publish session [] = sink := by
  cases sink with
  | buffer kept => rfl
  | log logged => exact congrArg Sink.log (List.append_nil logged)

theorem Store.conflict_cases (id : String) (expected found : Int) :
    (∃ e f, conflict id expected found = .concurrentUpdate id e f) ∨
      conflict id expected found = .malformed .unprintableInteger := by
  have printed (n : Int) : (∃ text, Numeral.print n = .ok text) ∨
      Numeral.print n = .error (.malformed .unprintableInteger) := by
    unfold Numeral.print
    simp only
    split
    · exact .inr rfl
    · exact .inl ⟨_, rfl⟩
  unfold conflict
  rcases printed expected with ⟨e, he⟩ | he
  · rcases printed found with ⟨f, hf⟩ | hf
    · exact .inl ⟨e, f, by simp only [he, hf]⟩
    · exact .inr (by simp only [he, hf])
  · exact .inr (by simp only [he])

namespace Manager

open Turn

variable {m : Manager} {turn : Pending} {change : Session.Change} {s : Session}

def close (house : House) (m : Manager) (turn : Pending) :
    Close → Except Fault Outcome × Manager
  | .settled result => m.settle turn result
  | .expired =>
      let (fault, next) := m.expire house turn
      (.error fault, next)

/-- The manager after a write that expects the version at which the turn began. -/
def written (m : Manager) (turn : Pending) (change : Session.Change) : Manager :=
  match m.record? turn.marked.id with
  | some s => if turn.marked.version = s.version then m.put (s.revise m.now change) else m
  | none => m

theorem written_of_gone (hn : m.record? turn.marked.id = none) : m.written turn change = m := by
  simp only [written, hn]

theorem written_of_current (hs : m.record? turn.marked.id = some s)
    (hv : turn.marked.version = s.version) :
    m.written turn change = m.put (s.revise m.now change) := by
  simp only [written, hs, if_pos hv]

theorem written_of_stale (hs : m.record? turn.marked.id = some s)
    (hv : turn.marked.version ≠ s.version) : m.written turn change = m := by
  simp only [written, hs, if_neg hv]

theorem written_eq (m : Manager) (turn : Pending) (change : Session.Change) :
    ∃ store now, m.written turn change = { m with store := store, now := now } := by
  unfold written
  split
  · split
    · exact ⟨_, _, rfl⟩
    · exact ⟨_, _, rfl⟩
  · exact ⟨_, _, rfl⟩

theorem written_remove (m : Manager) (turn : Pending) (change : Session.Change) :
    (m.remove turn).written turn change
      = { m.written turn change with pending := (m.remove turn).pending } := by
  unfold written
  rw [show (m.remove turn).record? turn.marked.id = m.record? turn.marked.id from rfl]
  cases m.record? turn.marked.id with
  | none => rfl
  | some s =>
      by_cases hv : turn.marked.version = s.version
      · simp only [if_pos hv]
        rfl
      · simp only [if_neg hv]
        rfl

theorem fail_eq (m : Manager) (turn : Pending) (fault : Fault) :
    m.fail turn fault = match m.conclude turn turn.failure with
      | .ok (session, next) => (.ok ⟨session, [], [], some fault.message⟩, next)
      | .error fault => (.error fault, m) := rfl

section Writes

variable (h : m.store.Orderly)
include h

theorem write_of_gone (hn : m.record? turn.marked.id = none) :
    m.write turn.marked.id (some turn.marked.version) change
      = .error (.sessionNotFound turn.marked.id) := by
  simp only [write_eq h, hn]

theorem write_of_current (hs : m.record? turn.marked.id = some s)
    (hv : turn.marked.version = s.version) :
    m.write turn.marked.id (some turn.marked.version) change
      = .ok (s.revise m.now change, m.put (s.revise m.now change)) := by
  simp [write_eq h, hs, Store.Admits, hv]

theorem write_of_stale (hs : m.record? turn.marked.id = some s)
    (hv : turn.marked.version ≠ s.version) :
    m.write turn.marked.id (some turn.marked.version) change
      = .error (Store.conflict turn.marked.id turn.marked.version s.version) := by
  simp [write_eq h, hs, Store.Admits, hv]

theorem conclude_of_gone (hn : m.record? turn.marked.id = none) :
    m.conclude turn change = .error (.sessionNotFound turn.marked.id) := by
  simp only [conclude, write_of_gone h hn]

theorem conclude_of_current (hs : m.record? turn.marked.id = some s)
    (hv : turn.marked.version = s.version) :
    m.conclude turn change = .ok (s.revise m.now change, m.put (s.revise m.now change)) := by
  simp only [conclude, write_of_current h hs hv]

theorem conclude_of_stale (hs : m.record? turn.marked.id = some s)
    (hv : turn.marked.version ≠ s.version) (change : Session.Change) :
    (s.isTerminal = true ∧ m.conclude turn change = .ok (s, m)) ∨
      m.conclude turn change
        = .error (Store.conflict turn.marked.id turn.marked.version s.version) := by
  simp only [conclude, write_of_stale h hs hv]
  rcases Store.conflict_cases turn.marked.id turn.marked.version s.version with ⟨e, f, hc⟩ | hc
  · simp only [hc, require_eq h, hs, bind, Except.bind]
    cases hterm : s.isTerminal with
    | true => exact .inl ⟨rfl, rfl⟩
    | false => exact .inr rfl
  · simp only [hc, or_true]

theorem conclude_written (turn : Pending) (change : Session.Change) :
    (∃ session, m.conclude turn change = .ok (session, m.written turn change)) ∨
      (m.written turn change = m ∧ ∃ fault, m.conclude turn change = .error fault) := by
  cases hs : m.record? turn.marked.id with
  | none => exact .inr ⟨written_of_gone hs, _, conclude_of_gone h hs⟩
  | some s =>
      by_cases hv : turn.marked.version = s.version
      · rw [written_of_current hs hv]
        exact .inl ⟨_, conclude_of_current h hs hv⟩
      · rw [written_of_stale hs hv]
        rcases conclude_of_stale h hs hv change with ⟨_, hc⟩ | hc
        · exact .inl ⟨_, hc⟩
        · exact .inr ⟨rfl, _, hc⟩

theorem fail_manager (turn : Pending) (fault : Fault) :
    (m.fail turn fault).2 = m.written turn turn.failure := by
  rw [fail_eq]
  rcases conclude_written h turn turn.failure with ⟨session, hc⟩ | ⟨hw, fault, hc⟩
  · rw [hc]
  · rw [hc, hw]

theorem commit_manager (turn : Pending) (report : Report) :
    ∃ events, (m.commit turn report).2
      = { m.written turn report.change with sink := m.sink.publish turn.marked.id events } := by
  cases hs : m.record? turn.marked.id with
  | none =>
      refine ⟨[], ?_⟩
      simp only [commit, write_of_gone h hs, fail_manager h, written_of_gone hs, Sink.publish_nil]
  | some s =>
      by_cases hv : turn.marked.version = s.version
      · simp only [commit, write_of_current h hs hv, publish, written_of_current hs hv]
        split
        · rename_i told hp
          simp only [Prod.mk.injEq] at hp
          obtain ⟨-, rfl⟩ := hp
          exact ⟨report.events, rfl⟩
        · rename_i fault told hp
          simp only [Prod.mk.injEq] at hp
          obtain ⟨-, rfl⟩ := hp
          refine ⟨report.events, ?_⟩
          rw [fail_manager (h.put _)]
          have hid : s.id = turn.marked.id := (h.of_record hs).1
          have hrecord := (record?_put m (s.revise m.now report.change) turn.marked.id).trans
            (if_pos hid)
          -- the session has its new version by now, so failing the turn writes nothing
          refine written_of_stale hrecord ?_
          simp only [Session.storable, Session.revise]
          omega
      · refine ⟨[], ?_⟩
        simp only [commit, write_of_stale h hs hv, written_of_stale hs hv, Sink.publish_nil]
        rcases Store.conflict_cases turn.marked.id turn.marked.version s.version with
          ⟨e, f, hc⟩ | hc
        · simp only [hc]
        · simp only [hc, fail_manager h, written_of_stale hs hv]

theorem expire_manager (house : House) (turn : Pending) :
    ∃ events, (m.expire house turn).2 = ({ m.written turn { status := some .active } with
      sink := m.sink.publish turn.marked.id events } : Manager).finish turn := by
  unfold expire
  simp only
  rcases conclude_written h turn { status := some .active } with ⟨session, hc⟩ | ⟨hw, fault, hc⟩
  · obtain ⟨store, now, hwritten⟩ := written_eq m turn { status := some .active }
    simp only [hc, hwritten]
    split
    · exact ⟨[], by rw [Sink.publish_nil]⟩
    · exact ⟨_, rfl⟩
  · simp only [hc]
    exact ⟨[], by rw [hw, Sink.publish_nil]⟩

/-- However a turn ends, it writes its change if its session is as it was, publishes events of the
session and is finished. -/
theorem close_manager (house : House) (turn : Pending) (c : Close) :
    ∃ events, (m.close house turn c).2 = ({ m.written turn (turn.change c) with
      sink := m.sink.publish turn.marked.id events } : Manager).finish turn := by
  cases c with
  | expired => exact expire_manager h house turn
  | settled result =>
      cases result with
      | ok report =>
          obtain ⟨events, hm⟩ := commit_manager h turn report
          exact ⟨events, by simp only [close, settle, hm, Pending.change]⟩
      | error fault =>
          obtain ⟨store, now, hw⟩ := written_eq m turn turn.failure
          refine ⟨[], ?_⟩
          simp only [close, settle, fail_manager h, Pending.change, hw, Sink.publish_nil]

/-- However a turn ends, it is taken out, its change is written if its session is as it was, and no
other session loses its lock. -/
theorem close_eq (house : House) (turn : Pending) (c : Close) :
    ∃ sink locks, (m.close house turn c).2
        = { m.written turn (turn.change c) with
          sink := sink
          locks := locks
          pending := (m.remove turn).pending } ∧
      ∀ other, turn.marked.id ≠ other → Mapping.get? locks other = Mapping.get? m.locks other := by
  obtain ⟨store, now, hw⟩ := written_eq m turn (turn.change c)
  obtain ⟨events, hm⟩ := close_manager h house turn c
  rw [hm, hw]
  let told : Manager := { m with
    store := store, now := now, sink := m.sink.publish turn.marked.id events }
  obtain ⟨locks, hlocks, hothers⟩ := release_eq (told.remove turn) turn.marked.id turn.lock
  exact ⟨told.sink, locks, hlocks, hothers⟩

theorem close_of_stale (house : House) (hs : m.record? turn.marked.id = some s)
    (hv : turn.marked.version ≠ s.version) (hgoing : s.isTerminal = false) (c : Close) :
    (m.close house turn c).1
      = .error (Store.conflict turn.marked.id turn.marked.version s.version) := by
  have hconclude (change : Session.Change) : m.conclude turn change
      = .error (Store.conflict turn.marked.id turn.marked.version s.version) := by
    rcases conclude_of_stale h hs hv change with ⟨hover, -⟩ | hc
    · rw [hgoing] at hover
      cases hover
    · exact hc
  have hfail (fault : Fault) : (m.fail turn fault).1
      = .error (Store.conflict turn.marked.id turn.marked.version s.version) := by
    rw [fail_eq, hconclude]
  cases c with
  | expired => simp only [close, expire, hconclude]
  | settled result =>
      cases result with
      | error fault => exact hfail fault
      | ok report =>
          simp only [close, settle, commit, write_of_stale h hs hv]
          rcases Store.conflict_cases turn.marked.id turn.marked.version s.version with
            ⟨e, f, hc⟩ | hc
          · simp only [hc, yieldTo, require_eq h, hs, bind, Except.bind, hgoing,
              Bool.false_eq_true, ↓reduceIte]
            rfl
          · simp only [hc]
            exact (hfail _).trans (by rw [hc])

end Writes

end Manager

end Dialogue
