import Dialogue.Proofs.Program
import Dialogue.Session.Basic
import Dialogue.Session.Store
/-!
A session that has been stored once is stored again as it is. Versions, changes and the stored form
take no notice of when sessions were made and changed.
-/
namespace Dialogue

namespace Value

mutual

theorem storable_storable : (v : Value) → v.storable.storable = v.storable
  | .null | .bool _ | .int _ | .text _ => by simp only [storable]
  | .float x => by
      by_cases hx : x.isFinite = true
      · simp only [storable, hx, ↓reduceIte]
      · simp only [storable, hx, Bool.false_eq_true, ↓reduceIte]
  | .list items => by simp only [storable, storableItems_storableItems items]
  | .object fields => by simp only [storable, storableFields_storableFields fields]

theorem storableItems_storableItems :
    (vs : List Value) → storableItems (storableItems vs) = storableItems vs
  | [] => rfl
  | v :: vs => by simp only [storableItems, storable_storable v, storableItems_storableItems vs]

theorem storableFields_storableFields :
    (fields : List (String × Value)) → storableFields (storableFields fields) = storableFields fields
  | [] => rfl
  | (k, v) :: rest => by
      simp only [storableFields, storable_storable v, storableFields_storableFields rest]

end

end Value

theorem Mapping.get?_storableFields (slots : Slots) (k : String) :
    get? (Value.storableFields slots) k = (get? slots k).map Value.storable := by
  induction slots with
  | nil => rfl
  | cons entry rest ih =>
      obtain ⟨name, v⟩ := entry
      by_cases hname : name = k
      · simp [Value.storableFields, get?, hname]
      · simpa [Value.storableFields, get?, hname] using ih

theorem Message.storable_storable (m : Message) : m.storable.storable = m.storable := by
  obtain ⟨sender, text, node⟩ := m
  cases node with
  | none => rfl
  | some fields => simp [Message.storable, Value.storableFields_storableFields]

namespace Session

theorem storable_storable (s : Session) : s.storable.storable = s.storable := by
  simp [storable, Value.storableFields_storableFields, Message.storable_storable]

/-- The session is what storing it gives. -/
def IsStored (s : Session) : Prop := s.storable = s

theorem IsStored.slots {s : Session} (h : s.IsStored) : Value.storableFields s.slots = s.slots :=
  congrArg Session.slots h

theorem IsStored.messages {s : Session} (h : s.IsStored) :
    s.messages.map Message.storable = s.messages :=
  congrArg Session.messages h

theorem IsStored.revise {s : Session} (h : s.IsStored) (now : Moment) {change : Change}
    (hslots : change.slots = none) (hmessages : change.messages = none) :
    (s.revise now change).IsStored := by
  simp only [IsStored, storable, Session.revise, Change.apply, hslots, hmessages, Option.getD_none,
    h.slots, h.messages]

/-- The session as it is, in the version of another. -/
def inVersionOf (s other : Session) : Session :=
  { s with version := other.version, updated := other.updated }

/-- The moment that stands for all others where time does not count. -/
def epoch : Moment :=
  ⟨⟨1970, 1, 1⟩, 0, none, rfl, Nat.mul_pos (Nat.zero_lt_succ _) (Nat.zero_lt_succ _)⟩

def timeless (s : Session) : Session := { s with created := epoch, updated := epoch }

variable {s t : Session}

theorem exists_of_timeless (h : s.timeless = t.timeless) :
    ∃ created updated, t = { s with created := created, updated := updated } := by
  refine ⟨t.created, t.updated, ?_⟩
  obtain ⟨id, conversation, scenario, node, awaiting, slots, messages, status, language, selected,
    version, created, updated⟩ := s
  cases t
  simp only [timeless, Session.mk.injEq] at h ⊢
  simp [h]

/-- What takes no notice of the time is the same of both. -/
theorem eq_of_timeless {α : Type} (f : Session → α) (hf : ∀ s, f s.timeless = f s)
    (h : s.timeless = t.timeless) : f s = f t :=
  (hf s).symm.trans ((congrArg f h).trans (hf t))

theorem timeless_revise (h : s.timeless = t.timeless) (now later : Moment) (change : Change) :
    (s.revise now change).timeless = (t.revise later change).timeless := by
  obtain ⟨created, updated, rfl⟩ := exists_of_timeless h
  rfl

theorem timeless_storable (h : s.timeless = t.timeless) :
    s.storable.timeless = t.storable.timeless := by
  obtain ⟨created, updated, rfl⟩ := exists_of_timeless h
  rfl

end Session

end Dialogue

/-!
Stores whose records are all known sessions. On them reading is a look-up, and an update is one
record put in the place of another.
-/

namespace Dialogue.Store

def record? (store : Store) (id : String) : Option Session :=
  match Mapping.get? store.entries id with
  | some (.known session) => some session
  | _ => none

/-- Each record is a session under its own id, in the form in which it is stored. -/
def Orderly (store : Store) : Prop :=
  ∀ id entry, Mapping.get? store.entries id = some entry →
    ∃ s : Session, entry = .known s ∧ s.id = id ∧ s.IsStored

theorem orderly_empty : Orderly empty := by
  rintro id entry ⟨⟩

theorem record?_put (store : Store) (s : Session) (id : String) :
    (store.put s).record? id = if s.id = id then some s.storable else store.record? id := by
  simp only [record?, put, Mapping.get?_set]
  by_cases h : s.id = id
  · simp only [h, ↓reduceIte]
  · simp only [h, ↓reduceIte]

theorem given_put (store : Store) (s : Session) : (store.put s).given = store.given := rfl

theorem entries_delete (store : Store) (id other : String) :
    Mapping.get? (store.delete id).2.entries other =
      if id = other then none else Mapping.get? store.entries other := by
  unfold delete
  split
  · rename_i h
    by_cases ho : id = other
    · rw [if_pos ho, ← ho, h]
    · rw [if_neg ho]
  · rw [Mapping.get?_erase]

theorem given_delete (store : Store) (id : String) : (store.delete id).2.given = store.given := by
  unfold delete
  split <;> rfl

theorem record?_delete (store : Store) (id other : String) :
    (store.delete id).2.record? other = if id = other then none else store.record? other := by
  simp only [record?, entries_delete]
  by_cases h : id = other
  · simp only [h, ↓reduceIte]
  · simp only [h, ↓reduceIte]

/-- The id has been given out. -/
def Issued (store : Store) (id : String) : Prop :=
  ∃ n < store.given, id = "s" ++ toString (n + 1)

theorem Issued.mono {store later : Store} {id : String} (h : store.Issued id)
    (hg : store.given ≤ later.given) : later.Issued id := by
  obtain ⟨n, hn, rfl⟩ := h
  exact ⟨n, by omega, rfl⟩

theorem issued_freshId {store later : Store} (h : store.given < later.given) :
    later.Issued store.freshId :=
  ⟨store.given, h, rfl⟩

/-- The id of the session that is given the number `k`. -/
def idOf (k : Nat) : String := "s" ++ toString (k + 1)

theorem idOf_injective {k l : Nat} (h : idOf k = idOf l) : k = l := by
  have hs : toString (k + 1) = toString (l + 1) := (String.append_right_inj "s").1 h
  have hd := congrArg (fun s : String => Nat.ofDigitChars 10 s.toList 0) hs
  simp only [Nat.toString_eq_repr, Nat.toList_repr, Nat.ofDigitChars_ten_toDigits] at hd
  omega

theorem not_issued_freshId (store : Store) : ¬ store.Issued store.freshId := by
  rintro ⟨n, hn, h⟩
  have : store.given = n := idOf_injective h
  omega

theorem eq_text_of_expectText {v : Value} {s : String} (h : expectText v = .ok s) :
    v = .text s := by
  cases v <;> cases h
  rfl

/-- Whether a session can be made, and of what, does not depend on the store. -/
theorem create_start (conversation scenario slots language : Value) :
    (∃ conv scen lang fields, conversation = .text conv ∧ scenario = .text scen ∧
      ∀ (store : Store) (now : Moment), store.create now conversation scenario slots language =
        (.ok store.freshId, { store with given := store.given + 1 }.put
          (start now store.freshId conv scen lang fields))) ∨
    ∃ fault, ∀ (store : Store) (now : Moment),
      store.create now conversation scenario slots language =
        (.error fault, { store with given := store.given + 1 }) := by
  unfold Store.create
  simp only [bind, Except.bind]
  cases (slots.orElse (.object [])).toFields with
  | error fault => exact .inr ⟨fault, fun _ _ => rfl⟩
  | ok fields =>
      cases hconv : expectText conversation with
      | error fault => exact .inr ⟨fault, fun _ _ => rfl⟩
      | ok conv =>
          cases hscen : expectText scenario with
          | error fault => exact .inr ⟨fault, fun _ _ => rfl⟩
          | ok scen =>
              cases expectText language with
              | error fault => exact .inr ⟨fault, fun _ _ => rfl⟩
              | ok lang =>
                  exact .inl ⟨conv, scen, lang, fields, eq_text_of_expectText hconv,
                    eq_text_of_expectText hscen, fun _ _ => rfl⟩

theorem create_store (store : Store) (now : Moment) (conversation scenario slots language : Value) :
    (∃ s : Session, s.id = store.freshId ∧ s.status = .active ∧
      store.create now conversation scenario slots language =
        (.ok s.id, { store with given := store.given + 1 }.put s)) ∨
    ∃ fault, store.create now conversation scenario slots language =
      (.error fault, { store with given := store.given + 1 }) := by
  rcases create_start conversation scenario slots language with
    ⟨conv, scen, lang, fields, -, -, hmade⟩ | ⟨fault, hmade⟩
  · exact .inl ⟨start now store.freshId conv scen lang fields, rfl, rfl, hmade store now⟩
  · exact .inr ⟨fault, hmade store now⟩

namespace Orderly

variable {store : Store}

theorem put (h : store.Orderly) (s : Session) : (store.put s).Orderly := by
  intro id entry hget
  simp only [Store.put, Mapping.get?_set] at hget
  split at hget
  · rename_i hid
    cases hget
    exact ⟨s.storable, rfl, hid, s.storable_storable⟩
  · exact h id entry hget

theorem delete (h : store.Orderly) (id : String) : (store.delete id).2.Orderly := by
  intro other entry hget
  rw [entries_delete] at hget
  split at hget
  · cases hget
  · exact h other entry hget

theorem of_record (h : store.Orderly) {id : String} {s : Session}
    (hs : store.record? id = some s) : s.id = id ∧ s.IsStored := by
  unfold record? at hs
  split at hs
  · rename_i t ht
    cases hs
    obtain ⟨u, hu, hid, hstored⟩ := h id _ ht
    cases hu
    exact ⟨hid, hstored⟩
  · cases hs

theorem entry_eq (h : store.Orderly) (id : String) :
    store.entry id = match store.record? id with
      | some s => .ok (.known s)
      | none => .error (.sessionNotFound id) := by
  unfold Store.entry record?
  cases hget : Mapping.get? store.entries id with
  | none => rfl
  | some entry =>
      obtain ⟨s, rfl, _⟩ := h id entry hget
      rfl

theorem read_eq (h : store.Orderly) (now : Moment) (id : String) :
    store.read now id = .ok (store.record? id) := by
  unfold Store.read record?
  cases hget : Mapping.get? store.entries id with
  | none => rfl
  | some entry =>
      obtain ⟨s, rfl, _⟩ := h id entry hget
      rfl

end Orderly

/-- The fault of a write that expects another version than it finds. A version that is too long to
be written shows as that. -/
def conflict (id : String) (expected found : Int) : Fault :=
  match Numeral.print expected, Numeral.print found with
  | .ok e, .ok f => .concurrentUpdate id e f
  | .error fault, _ => fault
  | .ok _, .error fault => fault

theorem expect_known (id : String) (expected : Int) (s : Session) :
    Entry.expect id (.int expected) (.known s) =
      if expected = s.version then .ok () else .error (conflict id expected s.version) := by
  have hsame : Entry.isSameVersion (.int s.version) (.int expected)
      = decide (s.version = expected) := by
    simp [Entry.isSameVersion, Entry.count?]
  simp only [Entry.expect, Entry.version, hsame, bind, Except.bind]
  by_cases h : expected = s.version
  · simp [h, pure, Except.pure]
  · rw [if_pos (by simpa using Ne.symm h), if_neg h]
    simp only [conflict, Value.display, Value.inner]
    cases he : Numeral.print expected with
    | error fault => rfl
    | ok e =>
        cases hf : Numeral.print s.version with
        | error fault => rfl
        | ok f => rfl

/-- Whether a write that expects a version, or none, goes through at the version of a session. -/
def Admits (expected : Option Int) (s : Session) : Prop := ∀ v ∈ expected, v = s.version

instance (expected : Option Int) (s : Session) : Decidable (Admits expected s) :=
  inferInstanceAs (Decidable (∀ v ∈ expected, v = s.version))

theorem Orderly.update_eq {store : Store} (h : store.Orderly) (now : Moment) (id : String)
    (expected : Option Int) (change : Session.Change) :
    store.update now id expected change = match store.record? id with
      | none => .error (.sessionNotFound id)
      | some s =>
          if Admits expected s then .ok (s.revise now change, store.put (s.revise now change))
          else .error (conflict id (expected.getD 0) s.version) := by
  simp only [Store.update, current, h.entry_eq id]
  cases hs : store.record? id with
  | none => rfl
  | some s =>
      have hput : { store with
          entries := Mapping.set store.entries id (.known (s.revise now change).storable) }
            = store.put (s.revise now change) := by
        rw [← (h.of_record hs).1]
        rfl
      cases expected with
      | none => simp [Admits, Value.isNull, hput, bind, Except.bind, pure, Except.pure]
      | some v =>
          simp only [Option.elim, Value.isNull, Bool.not_false, ↓reduceIte, bind, Except.bind,
            expect_known, Admits, Option.mem_def, Option.some.injEq, forall_eq', Option.getD_some]
          by_cases hv : v = s.version
          · simp [hv, hput, pure, Except.pure]
          · simp [hv]

end Dialogue.Store
