import Dialogue.Proofs.Manager.Tidy
/-!
What a manager holds of one session, apart from times and from the numbers of locks and turns.
Managers that hold the same of a session deal with it alike.
-/
namespace Dialogue

open Turn

theorem exists_of_map_eq {ε α β γ : Type} {x : Except ε α} {y : Except ε β} {f : α → γ} {g : β → γ}
    (h : x.map f = y.map g) :
    (∃ e, x = .error e ∧ y = .error e) ∨ ∃ a b, x = .ok a ∧ y = .ok b ∧ f a = g b := by
  cases x with
  | error e =>
      cases y with
      | error d =>
          cases h
          exact .inl ⟨e, rfl, rfl⟩
      | ok b => cases h
  | ok a =>
      cases y with
      | error d => cases h
      | ok b => exact .inr ⟨a, b, rfl, rfl, Except.ok.inj h⟩

namespace Turn

def Outcome.timeless (outcome : Outcome) : Outcome :=
  { outcome with session := outcome.session.timeless }

namespace Pending

/-- A turn apart from times and from the numbers that its manager has given it. -/
def bare (turn : Pending) : Pending :=
  { turn with id := 0, lock := 0, marked := turn.marked.timeless }

theorem exists_of_bare {turn other : Pending} (h : turn.bare = other.bare) :
    ∃ id lock created updated, other = { turn with
      id := id
      lock := lock
      marked := { turn.marked with created := created, updated := updated } } := by
  obtain ⟨id, lock, marked, input, language, work⟩ := turn
  obtain ⟨id', lock', marked', input', language', work'⟩ := other
  simp only [bare, Pending.mk.injEq, true_and] at h
  obtain ⟨hmarked, rfl, rfl, rfl⟩ := h
  obtain ⟨created, updated, rfl⟩ := Session.exists_of_timeless hmarked
  exact ⟨id', lock', created, updated, rfl⟩

/-- What takes no notice of times and numbers is the same of both. -/
theorem eq_of_bare {α : Type} {turn other : Pending} (f : Pending → α)
    (hf : ∀ turn, f turn.bare = f turn) (h : turn.bare = other.bare) : f turn = f other :=
  (hf turn).symm.trans ((congrArg f h).trans (hf other))

theorem bare_answered {turn other : Pending} (h : turn.bare = other.bare)
    (world : (call : Call) → call.Answer) :
    (turn.answered world).bare = (other.answered world).bare := by
  obtain ⟨id, lock, created, updated, rfl⟩ := exists_of_bare h
  obtain ⟨_, _, marked, input, language, work⟩ := turn
  cases work <;> rfl

end Pending

end Turn

namespace Sink

theorem refusal?_publish (sink : Sink) (session : String) (events : List Event) :
    (sink.publish session events).refusal? = sink.refusal? := by
  cases sink with
  | log logged => rfl
  | buffer kept =>
      have hper : (kept.publish session events).perSession = kept.perSession := by
        unfold Event.Buffer.publish
        split <;> rfl
      have hall : (kept.publish session events).sessions = kept.sessions := by
        unfold Event.Buffer.publish
        split <;> rfl
      funext other told
      simp only [publish, refusal?, Event.Buffer.refusal?, hper, hall]

theorem refusal?_discard (sink : Sink) (session : String) :
    (sink.discard session).refusal? = sink.refusal? := by
  cases sink <;> rfl

end Sink

namespace Manager

/-- What a manager holds of a session: its record, its turns, and which events it would refuse. -/
@[ext] structure View where
  record : Option Session
  turns : List Pending
  refusal? : List Event → Option Fault

def view (m : Manager) (id : String) : View where
  record := (m.record? id).map Session.timeless
  turns := (m.turnsOf id).map Pending.bare
  refusal? := m.sink.refusal? id

/-- A session that was given back, and what its manager holds of it. -/
def glance (id : String) : Session × Manager → Session × View
  | (s, m) => (s.timeless, m.view id)

variable {m n : Manager} {id : String} {turn other : Pending}

theorem view_eq (record : m.record? id = n.record? id) (turns : m.turnsOf id = n.turnsOf id)
    (refusal : m.sink.refusal? id = n.sink.refusal? id) : m.view id = n.view id :=
  View.ext (congrArg (Option.map Session.timeless) record) (congrArg (List.map Pending.bare) turns)
    refusal

theorem view_put (m : Manager) (s : Session) (id : String) :
    (m.put s).view id = { m.view id with
      record := if s.id = id then some s.storable.timeless else (m.view id).record } := by
  simp only [view, record?_put]
  by_cases hid : s.id = id
  · simp only [if_pos hid]
    rfl
  · simp only [if_neg hid]
    rfl

section Parts

variable (h : m.view id = n.view id)
include h

theorem record_cases : (m.record? id = none ∧ n.record? id = none) ∨
    ∃ s t, m.record? id = some s ∧ n.record? id = some t ∧ s.timeless = t.timeless := by
  have hrecord : (m.record? id).map Session.timeless = (n.record? id).map Session.timeless :=
    congrArg View.record h
  cases hm : m.record? id with
  | none =>
      rw [hm] at hrecord
      exact .inl ⟨rfl, Option.map_eq_none_iff.1 hrecord.symm⟩
  | some s =>
      rw [hm] at hrecord
      obtain ⟨t, hn, heq⟩ := Option.map_eq_some_iff.1 hrecord.symm
      exact .inr ⟨s, t, rfl, hn, heq.symm⟩

theorem turns_cases (hm : m.Tidy) : (m.turnsOf id = [] ∧ n.turnsOf id = []) ∨
    ∃ turn other, m.turnsOf id = [turn] ∧ n.turnsOf id = [other] ∧ turn.bare = other.bare := by
  have hturns : (m.turnsOf id).map Pending.bare = (n.turnsOf id).map Pending.bare :=
    congrArg View.turns h
  rcases hm.turnsOf_cases id with hnone | ⟨turn, hone⟩
  · rw [hnone] at hturns
    exact .inl ⟨hnone, List.map_eq_nil_iff.1 hturns.symm⟩
  · rw [hone] at hturns
    obtain ⟨other, hother, heq⟩ := List.map_eq_singleton_iff.1 hturns.symm
    exact .inr ⟨turn, other, hone, hother, heq.symm⟩

theorem refusal_alike (events : List Event) :
    m.sink.refusal? id events = n.sink.refusal? id events :=
  congrFun (congrArg View.refusal? h) events

end Parts

theorem view_release (m : Manager) (other : String) (lock : Nat) :
    (m.release other lock).view id = m.view id := by
  obtain ⟨locks, hm, -⟩ := release_eq m other lock
  rw [hm]
  rfl

theorem view_unlock (m : Manager) (other : String) : (m.unlock other).view id = m.view id := by
  obtain ⟨locks, hm, -⟩ := unlock_eq m other
  rw [hm]
  rfl

theorem view_publish (m : Manager) (events : List Event) (id other : String) :
    (m.publish other events).2.view id = m.view id :=
  view_eq rfl rfl (congrFun (Sink.refusal?_publish _ _ _) id)

theorem delete_isSome (h : m.store.Orderly) (id : String) :
    (m.delete id).1 = (m.record? id).isSome := by
  simp only [delete, Store.delete, record?, Store.record?]
  cases hget : Mapping.get? m.store.entries id with
  | none => rfl
  | some entry =>
      obtain ⟨s, rfl, -⟩ := h id entry hget
      rfl

theorem write_orderly (h : m.store.Orderly) {expected : Option Int} {change : Session.Change}
    {s : Session} (hw : m.write id expected change = .ok (s, n)) : n.store.Orderly := by
  rw [write_eq h] at hw
  cases hr : m.record? id with
  | none =>
      rw [hr] at hw
      cases hw
  | some r =>
      simp only [hr] at hw
      split at hw
      · cases hw
        exact h.put _
      · cases hw

section Writes

variable (hm : m.store.Orderly) (hn : n.store.Orderly)
include hm hn

theorem require_alike (h : m.view id = n.view id) :
    (m.require id).map Session.timeless = (n.require id).map Session.timeless := by
  rw [require_eq hm, require_eq hn]
  rcases record_cases h with ⟨hs, ht⟩ | ⟨s, t, hs, ht, heq⟩
  · rw [hs, ht]
  · rw [hs, ht]
    exact congrArg Except.ok heq

theorem write_alike (h : m.view id = n.view id) (expected : Option Int)
    (change : Session.Change) :
    (m.write id expected change).map (glance id)
      = (n.write id expected change).map (glance id) := by
  rw [write_eq hm, write_eq hn]
  rcases record_cases h with ⟨hs, ht⟩ | ⟨s, t, hs, ht, heq⟩
  · rw [hs, ht]
  · have hrevised := Session.timeless_revise heq m.now n.now change
    have hid := Session.eq_of_timeless Session.id (fun _ => rfl) hrevised
    have hversion := Session.eq_of_timeless Session.version (fun _ => rfl) heq
    have hadmits : Store.Admits expected s ↔ Store.Admits expected t := by
      simp only [Store.Admits, hversion]
    rw [hs, ht]
    by_cases ha : Store.Admits expected s
    · simp only [if_pos ha, if_pos (hadmits.1 ha), Except.map, glance, view_put, h, hrevised,
        Session.timeless_storable hrevised, hid]
    · simp only [if_neg ha, if_neg (mt hadmits.2 ha), hversion]

theorem conclude_alike (h : m.view turn.marked.id = n.view turn.marked.id)
    (ht : turn.bare = other.bare) (change : Session.Change) :
    (m.conclude turn change).map (glance turn.marked.id)
      = (n.conclude other change).map (glance turn.marked.id) := by
  obtain ⟨id, lock, created, updated, rfl⟩ := Pending.exists_of_bare ht
  unfold conclude
  simp only
  rcases exists_of_map_eq (write_alike hm hn h (some turn.marked.version) change) with
    ⟨fault, hw, hv⟩ | ⟨a, b, hw, hv, heq⟩
  · rw [hw, hv]
    cases fault with
    | concurrentUpdate id expected found =>
        simp only [bind, Except.bind]
        rcases exists_of_map_eq (require_alike hm hn h) with
          ⟨fault, hr, hq⟩ | ⟨s, t, hr, hq, heq⟩
        · rw [hr, hq]
        · have hover := Session.eq_of_timeless Session.isTerminal (fun _ => rfl) heq
          simp only [hr, hq, hover]
          split
          · simp only [Except.map, pure, Except.pure, glance, heq, h]
          · rfl
    | _ => rfl
  · rw [hw, hv]
    exact congrArg Except.ok heq

theorem fail_alike (h : m.view turn.marked.id = n.view turn.marked.id)
    (ht : turn.bare = other.bare) (fault : Fault) :
    (m.fail turn fault).1.map Outcome.timeless = (n.fail other fault).1.map Outcome.timeless := by
  have hfailure := Pending.eq_of_bare Pending.failure (fun _ => rfl) ht
  rw [fail_eq, fail_eq, ← hfailure]
  rcases exists_of_map_eq (conclude_alike hm hn h ht turn.failure) with
    ⟨fault, hc, hd⟩ | ⟨⟨s, _⟩, ⟨t, _⟩, hc, hd, heq⟩
  · rw [hc, hd]
  · obtain ⟨heq, -⟩ := Prod.mk.inj heq
    simp only [hc, hd, Except.map, Outcome.timeless, heq]

end Writes

end Manager

end Dialogue
