import Dialogue.Proofs.Session.Record
import Dialogue.Session.Manager
/-!
What the operations of a manager do to its parts, where each record of its store is a session.
-/
namespace Dialogue

namespace Manager

open Turn

variable {m : Manager}

def record? (m : Manager) (id : String) : Option Session := m.store.record? id

/-- Puts a session in its place and lets time go on. -/
def put (m : Manager) (s : Session) : Manager :=
  { m with store := m.store.put s, now := m.now.next }

theorem record?_put (m : Manager) (s : Session) (id : String) :
    (m.put s).record? id = if s.id = id then some s.storable else m.record? id :=
  Store.record?_put _ _ _

section Records

variable (h : m.store.Orderly)
include h

theorem session?_eq (id : String) : m.session? id = .ok (m.record? id) := h.read_eq _ _

theorem require_eq (id : String) :
    m.require id = match m.record? id with
      | some s => .ok s
      | none => .error (.sessionNotFound id) := by
  simp only [require, session?_eq h, bind, Except.bind]
  cases m.record? id <;> rfl

theorem write_eq (id : String) (expected : Option Int) (change : Session.Change) :
    m.write id expected change = match m.record? id with
      | none => .error (.sessionNotFound id)
      | some s =>
          if Store.Admits expected s then .ok (s.revise m.now change, m.put (s.revise m.now change))
          else .error (Store.conflict id (expected.getD 0) s.version) := by
  simp only [write, h.update_eq, record?, bind, Except.bind]
  cases m.store.record? id with
  | none => rfl
  | some s =>
      by_cases ha : Store.Admits expected s
      · simp only [if_pos ha]
        rfl
      · simp only [if_neg ha]

end Records

section Locks

theorem isHeld_iff {lock : Nat} :
    m.isHeld lock = true ↔ ∃ turn ∈ m.pending, turn.lock = lock := by
  simp only [isHeld, List.any_eq_true, decide_eq_true_eq]

/-- Another turn of the session holds its lock. -/
def IsBusy (m : Manager) (id : String) : Prop :=
  Mapping.has m.locks id = true ∧ m.isHeld (m.lockOf id) = true

theorem release_eq (m : Manager) (id : String) (lock : Nat) :
    ∃ locks, m.release id lock = { m with locks := locks } ∧
      ∀ other, id ≠ other → Mapping.get? locks other = Mapping.get? m.locks other := by
  have either (live : Bool) : ∃ locks,
      (if !live && Mapping.get? m.locks id = some lock && !m.isHeld lock then
        { m with locks := Mapping.erase m.locks id } else m) = { m with locks := locks } ∧
        ∀ other, id ≠ other → Mapping.get? locks other = Mapping.get? m.locks other := by
    split
    · refine ⟨_, rfl, fun other ho => ?_⟩
      rw [Mapping.get?_erase, if_neg ho]
    · exact ⟨m.locks, rfl, fun _ _ => rfl⟩
  exact either _

/-- Lets go of the lock of a session unless a turn holds it. -/
def unlock (m : Manager) (id : String) : Manager :=
  match Mapping.get? m.locks id with
  | some lock => if m.isHeld lock then m else { m with locks := Mapping.erase m.locks id }
  | none => m

theorem unlock_eq (m : Manager) (id : String) :
    ∃ locks, m.unlock id = { m with locks := locks } ∧
      (∀ other, id ≠ other → Mapping.get? locks other = Mapping.get? m.locks other) ∧
      ∀ lock, Mapping.get? m.locks id = some lock → m.isHeld lock = true → locks = m.locks := by
  unfold unlock
  split
  · rename_i found hfound
    split
    · exact ⟨m.locks, rfl, fun _ _ => rfl, fun _ _ _ => rfl⟩
    · rename_i hfree
      refine ⟨_, rfl, fun other ho => ?_, fun lock hlock hheld => ?_⟩
      · rw [Mapping.get?_erase, if_neg ho]
      · rw [hfound, Option.some.injEq] at hlock
        exact absurd (hlock ▸ hheld) hfree
  · exact ⟨m.locks, rfl, fun _ _ => rfl, fun _ _ _ => rfl⟩

end Locks

section Beginning

/-- The turn that begins on the session `s` if nothing stands against it. -/
def turnOn (house : House) (m : Manager) (id : String) (s : Session) (scenario : Scenario)
    (input : Run.Input) (language : Value) : Pending :=
  let marked := s.revise m.now { status := some .generating }
  ⟨m.given + 1, m.lockOf id, marked, input, language.text?.getD "",
    work house scenario marked input language⟩

/-- The manager once a turn has begun. -/
def enlist (m : Manager) (id : String) (turn : Pending) : Manager :=
  { m.put turn.marked with
    locks := Mapping.set m.locks id turn.lock
    pending := m.pending ++ [turn]
    given := m.given + 2 }

/-- What beginning a turn comes to. -/
inductive Began (house : House) (m : Manager) (id : String) (request : Request) :
    Except Fault Pending × Manager → Prop
  | busy (held : m.IsBusy id) : Began house m id request (.error (.turnInProgress id), m)
  | refused (free : ¬ m.IsBusy id) (fault : Fault) (locks : Mapping Nat)
      (others : ∀ other, id ≠ other → Mapping.get? locks other = Mapping.get? m.locks other) :
      Began house m id request
        (.error fault, { m with locks := locks, given := m.given + 1 })
  | accepted (free : ¬ m.IsBusy id) (s : Session) (scenario : Scenario) (input : Run.Input)
      (stored : m.record? id = some s) (going : s.isTerminal = false)
      (known : house.registry.require s.scenario = .ok scenario)
      (read : request.input = .ok input) (turn : Pending)
      (made : turn = turnOn house m id s scenario input
        (request.language.orElse (.text s.language))) :
      Began house m id request (.ok turn, m.enlist id turn)

theorem enter_ok {house : House} {id : String} {lock : Nat} {request : Request} {turn : Pending}
    {next : Manager} (h : m.store.Orderly)
    (he : enter house m id lock request = .ok (turn, next)) :
    ∃ s scenario input, m.record? id = some s ∧ s.isTerminal = false ∧
      house.registry.require s.scenario = .ok scenario ∧ request.input = .ok input ∧
      (let language := request.language.orElse (.text s.language)
       let marked := s.revise m.now { status := some .generating }
       turn = ⟨m.given, lock, marked, input, language.text?.getD "",
          work house scenario marked input language⟩) ∧
      next = { m.put turn.marked with pending := m.pending ++ [turn], given := m.given + 1 } := by
  unfold enter at he
  obtain ⟨s, hs, he⟩ := exists_of_bind_ok he
  rw [require_eq h] at hs
  cases hrec : m.record? id with
  | none => simp [hrec] at hs
  | some r =>
      simp only [hrec, Except.ok.injEq] at hs
      subst hs
      cases hterm : r.isTerminal with
      | true =>
          simp only [hterm, ↓reduceIte] at he
          cases he
      | false =>
          simp only [hterm, Bool.false_eq_true, ↓reduceIte] at he
          obtain ⟨scenario, hscenario, he⟩ := exists_of_bind_ok he
          obtain ⟨input, hinput, he⟩ := exists_of_bind_ok he
          obtain ⟨⟨marked, written⟩, hw, he⟩ := exists_of_bind_ok he
          have ha : Store.Admits (some r.version) r := by simp [Store.Admits]
          simp only [write_eq h, hrec, if_pos ha, Except.ok.injEq, Prod.mk.injEq] at hw
          obtain ⟨rfl, rfl⟩ := hw
          cases he
          exact ⟨r, scenario, input, rfl, hterm, hscenario, hinput, rfl, rfl⟩

theorem began (h : m.store.Orderly) (house : House) (id : String) (request : Request) :
    Began house m id request (begin house m id request) := by
  unfold begin
  by_cases hb : m.IsBusy id
  · have : (Mapping.has m.locks id && m.isHeld (m.lockOf id)) = true := by simpa [IsBusy] using hb
    simp only [this, ↓reduceIte]
    exact .busy hb
  · have : (Mapping.has m.locks id && m.isHeld (m.lockOf id)) = false := by
      simpa [IsBusy] using hb
    simp only [this, Bool.false_eq_true, ↓reduceIte]
    split
    · rename_i turn next he
      have hl : ({ m with
          locks := Mapping.set m.locks id (m.lockOf id)
          given := m.given + 1 } : Manager).store.Orderly := h
      obtain ⟨s, scenario, input, hrec, hterm, hscenario, hinput, rfl, rfl⟩ := enter_ok hl he
      exact .accepted hb s scenario input hrec hterm hscenario hinput _ rfl
    · rename_i fault he
      obtain ⟨locks, hl, hothers⟩ := release_eq
        { m with locks := Mapping.set m.locks id (m.lockOf id), given := m.given + 1 } id (m.lockOf id)
      rw [hl]
      refine .refused hb fault locks fun other ho => ?_
      rw [hothers other ho, Mapping.get?_set, if_neg ho]

end Beginning

section Changes

variable (h : m.store.Orderly)
include h

theorem cancel_eq (id : String) :
    m.cancel id = match m.record? id with
      | none => .error (.sessionNotFound id)
      | some s =>
          let canceled := s.revise m.now { status := some .canceled, awaiting := some false }
          if s.isTerminal then .ok (s, m) else .ok (canceled, (m.put canceled).unlock id) := by
  simp only [cancel, require_eq h, write_eq h, bind, Except.bind]
  cases m.record? id with
  | none => rfl
  | some s =>
      simp only
      cases s.isTerminal with
      | true => rfl
      | false =>
          simp only [Bool.false_eq_true, ↓reduceIte, Store.Admits, Option.mem_def, reduceCtorEq,
            false_implies, implies_true]
          generalize m.put _ = next
          unfold unlock
          cases Mapping.get? next.locks id with
          | none => rfl
          | some lock => by_cases hheld : next.isHeld lock = true <;> simp [hheld, pure, Except.pure]

theorem cancel_cases {id : String} {s : Session} {next : Manager}
    (hc : m.cancel id = .ok (s, next)) : next = m ∨
      ∃ r locks, m.record? id = some r ∧ r.isTerminal = false ∧
        next = { m.put (r.revise m.now { status := some .canceled, awaiting := some false }) with
          locks := locks } ∧
        (∀ other, id ≠ other → Mapping.get? locks other = Mapping.get? m.locks other) ∧
        ∀ lock, Mapping.get? m.locks id = some lock → m.isHeld lock = true → locks = m.locks := by
  rw [cancel_eq h] at hc
  cases hs : m.record? id with
  | none => simp [hs] at hc
  | some r =>
      simp only [hs] at hc
      split at hc
      · cases hc
        exact .inl rfl
      · rename_i hgoing
        cases hc
        obtain ⟨locks, hl, hothers, hheld⟩ := unlock_eq
          (m.put (r.revise m.now { status := some .canceled, awaiting := some false })) id
        exact .inr ⟨r, locks, rfl, by simpa using hgoing, hl, hothers, hheld⟩

/-- The selections of a session with one more, if the choice can be recorded. -/
def chosen (s : Session) (node value : Value) : Except Fault (Mapping String) := do
  return Mapping.set s.selected (← Store.expectText node) (← Store.expectText value)

theorem select_eq (id : String) (node value : Value) :
    m.select id node value = match m.record? id with
      | none => .error (.sessionNotFound id)
      | some s => (chosen s node value).map fun selected =>
          let revised := s.revise m.now { selected := some selected }
          (revised, m.put revised) := by
  simp only [select, require_eq h, write_eq h, chosen, bind, Except.bind]
  cases hrec : m.record? id with
  | none => rfl
  | some s =>
      simp only
      cases Store.expectText node with
      | error fault => rfl
      | ok n =>
          cases Store.expectText value with
          | error fault => rfl
          | ok v => simp [Store.Admits, Except.map, pure, Except.pure]

theorem select_cases {id : String} {node value : Value} {s : Session} {next : Manager}
    (hc : m.select id node value = .ok (s, next)) :
    ∃ r selected, m.record? id = some r ∧ chosen r node value = .ok selected ∧
      next = m.put (r.revise m.now { selected := some selected }) := by
  rw [select_eq h] at hc
  cases hs : m.record? id with
  | none => simp [hs] at hc
  | some r =>
      simp only [hs] at hc
      cases hchosen : chosen r node value with
      | error fault => simp [hchosen, Except.map] at hc
      | ok selected =>
          simp only [hchosen, Except.map, Except.ok.injEq, Prod.mk.injEq] at hc
          exact ⟨r, selected, rfl, hchosen, hc.2.symm⟩

end Changes

section Adding

/-- Adds a session to the store, which takes a moment. -/
def create (m : Manager) (conversation scenario slots language : Value) :
    Except Fault String × Manager :=
  let (made, store) := m.store.create m.now conversation scenario slots language
  (made, { m with store := store, now := m.now.next })

theorem launch_eq (house : House) (m : Manager) (conversation : Value) (scenario : String)
    (slots language : Value) :
    m.launch house conversation scenario slots language =
      match house.registry.require scenario with
      | .error fault => (.error fault, m)
      | .ok _ =>
          let language := language.orElse (.text house.language)
          match m.create conversation (.text scenario) slots language with
          | (.ok id, next) => next.begin house id (.bare language)
          | (.error fault, next) => (.error fault, next) := by
  unfold launch create
  cases house.registry.require scenario with
  | error fault => rfl
  | ok _ =>
      simp only
      generalize m.store.create _ _ _ _ _ = made
      obtain ⟨made, store⟩ := made
      cases made <;> rfl

end Adding

end Manager

end Dialogue
