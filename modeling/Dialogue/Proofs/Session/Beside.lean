import Dialogue.Proofs.Session.File
import Dialogue.Proofs.Value.Written
/-!
Stores that differ in records which nobody asks for. Calls on sessions that both have made are
answered alike, in memory and with a file.
-/
namespace Dialogue

theorem Mapping.nodup_keys_erase {α : Type} {m : Mapping α} (h : (keys m).Nodup) (key : String) :
    (keys (erase m key)).Nodup := by
  rw [erase_eq_filter]
  exact h.sublist (List.filter_sublist.map Prod.fst)

namespace Store

variable {store other : Store} {now : Moment} {id : String} {expected : Value}
  {fields : Mapping Value}

/-- The session that an update makes of what it finds. -/
def revised (store : Store) (now : Moment) (id : String) (expected : Value)
    (fields : Mapping Value) : Except Fault Session := do
  if (Mapping.keys fields).any Session.Change.reservedNames.contains then
    throw (.clash .repeatedArgument)
  let entry ← store.current id expected
  Session.Change.checkNames (Mapping.keys fields)
  match entry with
  | .known session => do pure (session.revise now (← Session.Change.read fields))
  | .unread raw => Entry.reviseRaw now raw fields

theorem updateFields_eq_revised (store : Store) (now : Moment) (id : String) (expected : Value)
    (fields : Mapping Value) :
    store.updateFields now id expected fields =
      (store.revised now id expected fields).map fun session => (session, { store with
        entries := Mapping.set store.entries id (.known session.storable) }) := by
  simp only [updateFields, revised]
  cases (Mapping.keys fields).any Session.Change.reservedNames.contains with
  | true => rfl
  | false =>
      cases store.current id expected with
      | error fault => rfl
      | ok entry =>
          cases Session.Change.checkNames (Mapping.keys fields) with
          | error fault => rfl
          | ok =>
              cases entry with
              | known session => cases Session.Change.read fields <;> rfl
              | unread raw =>
                  cases hraw : Entry.reviseRaw now raw fields <;>
                    simp [hraw, bind, Except.bind, Except.map, pure, Except.pure]

/-- An update looks at no other record. -/
theorem revised_congr (h : Mapping.get? store.entries id = Mapping.get? other.entries id) :
    store.revised now id expected fields = other.revised now id expected fields := by
  simp only [revised, current, entry, h]

/-- The id that the reply to the call names as new. -/
def Op.makes : Op → Except Fault Answer → List String
  | .create .., .ok (.created id) => [id]
  | _, _ => []

/-- The call makes a session, or is about one of these. -/
def Op.IsFor (made : List String) : Op → Prop
  | .create .. => True
  | .read _ id | .update _ id _ _ | .delete id => id ∈ made
  | .list _ => False

/-- Of the sessions `made` both stores have the same records. Where else they differ, the first has a
record that has been found in a file and can be written, and the second has none. -/
structure Beside (made : List String) (more alone : Store) : Prop where
  given : more.given = alone.given
  keys : (Mapping.keys more.entries).Nodup
  keysAlone : (Mapping.keys alone.entries).Nodup
  same (id : String) (hid : id ∈ made) :
    Mapping.get? more.entries id = Mapping.get? alone.entries id
  each (id : String) : Mapping.get? more.entries id = Mapping.get? alone.entries id ∨
    Mapping.get? alone.entries id = none ∧
      ∃ raw : Value, Mapping.get? more.entries id = some (.unread raw) ∧ raw.Writable

namespace Beside

variable {made : List String} {more alone : Store}

theorem mono (h : Beside made more alone) {fewer : List String} (hfewer : fewer ⊆ made) :
    Beside fewer more alone :=
  { h with same := fun id hid => h.same id (hfewer hid) }

theorem give (h : Beside made more alone) :
    Beside made { more with given := more.given + 1 } { alone with given := alone.given + 1 } :=
  { h with given := congrArg (· + 1) h.given }

theorem set (h : Beside made more alone) (id : String) (entry : Entry) :
    Beside (id :: made) { more with entries := Mapping.set more.entries id entry }
      { alone with entries := Mapping.set alone.entries id entry } where
  given := h.given
  keys := Mapping.nodup_keys_set h.keys id entry
  keysAlone := Mapping.nodup_keys_set h.keysAlone id entry
  same other hother := by
    simp only [Mapping.get?_set]
    split
    · rfl
    · rename_i hid
      exact h.same other ((List.mem_cons.1 hother).resolve_left (Ne.symm hid))
  each other := by
    simp only [Mapping.get?_set]
    split
    · exact .inl rfl
    · exact h.each other

theorem erase (h : Beside made more alone) (id : String) :
    Beside made { more with entries := Mapping.erase more.entries id }
      { alone with entries := Mapping.erase alone.entries id } where
  given := h.given
  keys := Mapping.nodup_keys_erase h.keys id
  keysAlone := Mapping.nodup_keys_erase h.keysAlone id
  same other hother := by
    simp only [Mapping.get?_erase]
    split
    · rfl
    · exact h.same other hother
  each other := by
    simp only [Mapping.get?_erase]
    split
    · exact .inl rfl
    · exact h.each other

/-- A call is answered alike, and the stores stay as alike as they were. -/
theorem perform (h : Beside made more alone) {op : Op} (hop : op.IsFor made) :
    (more.perform op).1 = (alone.perform op).1 ∧
      Beside (op.makes (more.perform op).1 ++ made) (more.perform op).2 (alone.perform op).2 := by
  cases op with
  | create now conversation scenario slots language =>
      have hfresh : more.freshId = alone.freshId := congrArg idOf h.given
      rcases create_start conversation scenario slots language with
        ⟨conv, scen, lang, fields, -, -, hmade⟩ | ⟨fault, hmade⟩
      · simp only [Store.perform, hmade, ← hfresh]
        exact ⟨trivial, h.give.set _ _⟩
      · simp only [Store.perform, hmade]
        exact ⟨trivial, h.give⟩
  | read now id =>
      have hid := h.same id hop
      exact ⟨by simp only [Store.perform, Store.read, hid], h⟩
  | update now id expected fields =>
      have hid := h.same id hop
      simp only [Store.perform, updateFields_eq_revised, revised_congr hid]
      cases alone.revised now id expected fields with
      | error fault => exact ⟨rfl, h⟩
      | ok session => exact ⟨rfl, (h.set id _).mono (List.subset_cons_self id made)⟩
  | delete id =>
      have hid := h.same id hop
      simp only [Store.perform, Store.delete, hid]
      cases Mapping.get? alone.entries id with
      | none => exact ⟨rfl, h⟩
      | some entry => exact ⟨rfl, h.erase id⟩
  | list => cases hop

end Beside

end Store

namespace FileStore

open Store

variable {files fresh : FileStore} {made : List String} {more alone : Store}

theorem content_writable_iff (h : (Mapping.keys more.entries).Nodup) :
    (content more).Writable ↔
      ∀ id entry, Mapping.get? more.entries id = some entry → entry.toValue.Writable := by
  constructor
  · intro hwritable id entry hentry
    cases hwritable with
    | object each =>
        exact each (id, entry.toValue) (List.mem_map_of_mem (Mapping.mem_of_get? hentry))
  · intro hall
    refine .object fun field hfield => ?_
    obtain ⟨entry, hentry, rfl⟩ := List.mem_map.1 hfield
    exact hall entry.1 entry.2 (Mapping.get?_of_mem h hentry)

/-- The other records never keep the sessions from being written. -/
theorem content_writable_congr (h : Beside made more alone) :
    (content more).Writable ↔ (content alone).Writable := by
  rw [content_writable_iff h.keys, content_writable_iff h.keysAlone]
  constructor
  · intro hall id entry hentry
    rcases h.each id with hsame | ⟨hnone, -⟩
    · exact hall id entry (hsame.trans hentry)
    · exact nomatch hnone.symm.trans hentry
  · intro hall id entry hentry
    rcases h.each id with hsame | ⟨-, raw, hraw, hwritable⟩
    · exact hall id entry (hsame.symm.trans hentry)
    · cases hraw.symm.trans hentry
      exact hwritable

theorem keep_memory (files : FileStore) (memory : Store) :
    (files.keep memory).2.memory = memory ∧ (files.keep memory).2.deferred = files.deferred := by
  simp only [keep]
  split
  · exact ⟨rfl, rfl⟩
  · simp only [flush]
    split <;> exact ⟨rfl, rfl⟩

/-- Whether a store is kept depends on nothing but whether it can be written. -/
theorem keep_congr (hdeferred : files.deferred = fresh.deferred)
    (h : (content more).Writable ↔ (content alone).Writable) :
    (files.keep more).1 = (fresh.keep alone).1 := by
  simp only [keep, flush, hdeferred]
  split
  · rfl
  · rcases Json.write_cases Json.indented (content more) with
      ⟨hmore, _, htext⟩ | ⟨hmore, hfault⟩
    · rcases Json.write_cases Json.indented (content alone) with ⟨-, _, halone⟩ | ⟨halone, -⟩
      · rw [htext, halone]
      · exact absurd (h.1 hmore) halone
    · rcases Json.write_cases Json.indented (content alone) with ⟨halone, -⟩ | ⟨-, halone⟩
      · exact absurd (h.2 halone) hmore
      · rw [hfault, halone]

theorem take_memory (files : FileStore) (outcome : Except Fault Answer × Store) :
    (files.take outcome).2.memory = outcome.2 ∧
      (files.take outcome).2.deferred = files.deferred := by
  obtain ⟨reply, memory⟩ := outcome
  cases reply with
  | error fault => exact ⟨rfl, rfl⟩
  | ok answer =>
      simp only [take]
      split
      · exact files.keep_memory memory
      · exact ⟨rfl, rfl⟩

theorem memory_perform (files : FileStore) (op : Op) :
    (files.perform op).2.memory = (files.memory.perform op).2 := by
  rw [perform_eq_take]
  exact (files.take_memory _).1

theorem deferred_perform (files : FileStore) (op : Op) :
    (files.perform op).2.deferred = files.deferred := by
  rw [perform_eq_take]
  exact (files.take_memory _).2

theorem memory_after (files : FileStore) (ops : List Op) :
    (files.after ops).memory = files.memory.after ops := by
  induction ops generalizing files with
  | nil => rfl
  | cons op rest ih =>
      show ((files.perform op).2.after rest).memory = ((files.memory.perform op).2).after rest
      rw [ih, memory_perform]

theorem take_congr (hdeferred : files.deferred = fresh.deferred)
    {outcome other : Except Fault Answer × Store} (hreply : outcome.1 = other.1)
    (h : (content outcome.2).Writable ↔ (content other.2).Writable) :
    (files.take outcome).1 = (fresh.take other).1 := by
  obtain ⟨reply, more⟩ := outcome
  obtain ⟨_, alone⟩ := other
  cases hreply
  cases reply with
  | error fault => rfl
  | ok answer =>
      have hkeep : (files.keep more).1 = (fresh.keep alone).1 := keep_congr hdeferred h
      simp only [take]
      split
      · exact congrArg (Except.map fun _ => answer) hkeep
      · rfl

/-- If the file cannot be written the reply names no new session. -/
theorem makes_take_subset (files : FileStore) (op : Op) (outcome : Except Fault Answer × Store) :
    op.makes (files.take outcome).1 ⊆ op.makes outcome.1 := by
  obtain ⟨reply, memory⟩ := outcome
  cases reply with
  | error fault => exact List.Subset.refl _
  | ok answer =>
      simp only [take]
      split
      · cases (files.keep memory).1 with
        | ok => exact List.Subset.refl _
        | error fault => cases op <;> exact List.nil_subset _
      · exact List.Subset.refl _

/-- The answers to the calls, one after the other. -/
def replies (files : FileStore) : List Op → List (Except Fault Answer)
  | [] => []
  | op :: rest => (files.perform op).1 :: (files.perform op).2.replies rest

/-- The calls make sessions, and are else about sessions that have been made before, by these calls
or among `made`. -/
def OnNew (files : FileStore) (made : List String) : List Op → Prop
  | [] => True
  | op :: rest =>
      op.IsFor made ∧ (files.perform op).2.OnNew (op.makes (files.perform op).1 ++ made) rest

theorem perform_alike (hdeferred : files.deferred = fresh.deferred)
    (h : Beside made files.memory fresh.memory) {op : Op} (hop : op.IsFor made) :
    (files.perform op).1 = (fresh.perform op).1 ∧
      Beside (op.makes (files.perform op).1 ++ made) (files.perform op).2.memory
        (fresh.perform op).2.memory := by
  obtain ⟨hreply, hnext⟩ := h.perform hop
  rw [memory_perform, memory_perform]
  constructor
  · rw [perform_eq_take, perform_eq_take]
    exact take_congr hdeferred hreply (content_writable_congr hnext)
  · refine hnext.mono (List.append_subset.2 ⟨?_, List.subset_append_right _ _⟩)
    rw [perform_eq_take]
    exact fun id hid => List.mem_append_left made (files.makes_take_subset op _ hid)

/-- Calls on new sessions are answered alike. -/
theorem replies_alike (hdeferred : files.deferred = fresh.deferred)
    (h : Beside made files.memory fresh.memory) {ops : List Op} (hops : files.OnNew made ops) :
    files.replies ops = fresh.replies ops := by
  induction ops generalizing files fresh made with
  | nil => rfl
  | cons op rest ih =>
      obtain ⟨hop, hrest⟩ := hops
      obtain ⟨hreply, hnext⟩ := perform_alike hdeferred h hop
      have hdeferredNext : (files.perform op).2.deferred = (fresh.perform op).2.deferred := by
        rw [deferred_perform, deferred_perform, hdeferred]
      rw [replies, replies, hreply, ih hdeferredNext hnext hrest]

end FileStore

end Dialogue
