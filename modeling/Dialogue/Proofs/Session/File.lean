import Dialogue.Proofs.Session.Filed
import Dialogue.Proofs.Session.History
import Dialogue.Session.File
/-!
Stores that keep their sessions in a file answer as those that keep them in memory, and a store that
is opened on the file finds the same records at any time.
-/
namespace Dialogue

theorem Mapping.get?_map {α β : Type} (f : α → β) (m : Mapping α) (key : String) :
    get? (m.map fun entry => (entry.1, f entry.2)) key = (get? m key).map f := by
  induction m with
  | nil => rfl
  | cons entry rest ih =>
      by_cases hkey : entry.1 = key
      · simp [get?, hkey]
      · simpa [get?, hkey] using ih

theorem mapM_congr {α β : Type} {f g : α → Except Fault β} {as : List α}
    (h : ∀ a ∈ as, f a = g a) : as.mapM f = as.mapM g := by
  induction as with
  | nil => rfl
  | cons a rest ih =>
      rw [List.mapM_cons, List.mapM_cons, h a List.mem_cons_self,
        ih fun b hb => h b (List.mem_cons_of_mem a hb)]

/-- The record as it is found in a file. -/
def Entry.filed (entry : Entry) : Entry := .unread entry.toValue

namespace Store

variable {store : Store}

/-- The call brings JSON only, at a clock less than a day from Greenwich. -/
def Op.IsJson : Op → Prop
  | .create now _ _ slots _ => Moment.IsNear now.offset ∧ slots.IsJson
  | .update now _ _ fields => Moment.IsNear now.offset ∧ ∀ field ∈ fields, field.2.IsJson
  | .read _ _ | .delete _ | .list _ => True

/-- The records are sessions of JSON, each under an id of its own. -/
structure Filed (store : Store) : Prop where
  keys : (Mapping.keys store.entries).Nodup
  sessions : ∀ entry ∈ store.entries, ∃ s : Session, entry = (s.id, .known s) ∧ s.IsJson

theorem delete_sublist (store : Store) (id : String) :
    (store.delete id).2.entries.Sublist store.entries := by
  unfold Store.delete
  split
  · exact List.Sublist.refl _
  · rw [Mapping.erase_eq_filter]
    exact List.filter_sublist

theorem filed_empty : Filed empty where
  keys := List.nodup_nil
  sessions := by rintro entry ⟨⟩

namespace Filed

theorem orderly (h : store.Filed) : store.Orderly := by
  intro id entry hget
  obtain ⟨s, hs, hjson⟩ := h.sessions _ (Mapping.mem_of_get? hget)
  cases hs
  exact ⟨s, rfl, rfl, hjson.isStored⟩

theorem of_record (h : store.Filed) {id : String} {s : Session}
    (hs : store.record? id = some s) : s.IsJson := by
  unfold record? at hs
  split at hs
  · rename_i t ht
    cases hs
    obtain ⟨u, hu, hjson⟩ := h.sessions _ (Mapping.mem_of_get? ht)
    cases hu
    exact hjson
  · cases hs

theorem record_of_mem (h : store.Filed) {id : String} {s : Session}
    (hs : (id, .known s) ∈ store.entries) : store.record? id = some s := by
  rw [record?, Mapping.get?_of_mem h.keys hs]

theorem put (h : store.Filed) {s : Session} (hs : s.IsJson) : (store.put s).Filed where
  keys := Mapping.nodup_keys_set h.keys _ _
  sessions := by
    intro entry hentry
    rcases Mapping.mem_set hentry with hentry | rfl
    · exact h.sessions entry hentry
    · exact ⟨s, by rw [show s.storable = s from hs.isStored], hs⟩

theorem delete (h : store.Filed) (id : String) : (store.delete id).2.Filed where
  keys := h.keys.sublist ((delete_sublist store id).map Prod.fst)
  sessions entry hentry := h.sessions entry ((delete_sublist store id).subset hentry)

end Filed

theorem create_ok {now : Moment} {conversation scenario slots language : Value} {id : String}
    {next : Store} (h : store.create now conversation scenario slots language = (.ok id, next)) :
    ∃ conv scen lang fields, (slots.orElse (.object [])).toFields = .ok fields ∧
      next = { store with given := store.given + 1 }.put
        (start now store.freshId conv scen lang fields) := by
  unfold Store.create at h
  simp only at h
  split at h
  · rename_i hmade
    cases h
    obtain ⟨fields, hfields, hmade⟩ := exists_of_bind_ok hmade
    obtain ⟨conv, -, hmade⟩ := exists_of_bind_ok hmade
    obtain ⟨scen, -, hmade⟩ := exists_of_bind_ok hmade
    obtain ⟨lang, -, hmade⟩ := exists_of_bind_ok hmade
    cases hmade
    exact ⟨conv, scen, lang, fields, hfields, rfl⟩
  · cases h

theorem create_error {now : Moment} {conversation scenario slots language : Value} {fault : Fault}
    {next : Store} (h : store.create now conversation scenario slots language = (.error fault, next)) :
    next = { store with given := store.given + 1 } := by
  unfold Store.create at h
  simp only at h
  split at h
  · cases h
  · cases h
    rfl

/-- A store of sessions deletes just the records that it has. -/
theorem Filed.delete_eq (h : store.Filed) (id : String) :
    (store.delete id).1 = true ∨ store.delete id = (false, store) := by
  unfold Store.delete
  split
  · exact .inr rfl
  · rename_i entry hget
    obtain ⟨s, hs, -⟩ := h.sessions _ (Mapping.mem_of_get? hget)
    cases hs
    exact .inl rfl

theorem Filed.create (h : store.Filed) {now : Moment} (hnow : Moment.IsNear now.offset)
    {slots : Value} (hslots : slots.IsJson) (conversation scenario language : Value) :
    (store.create now conversation scenario slots language).2.Filed := by
  cases hmade : store.create now conversation scenario slots language with
  | mk made next =>
      cases made with
      | ok id =>
          obtain ⟨conv, scen, lang, fields, hfields, rfl⟩ := create_ok hmade
          have hobject : (Value.object fields).IsJson :=
            (hslots.orElse Value.isJson_empty).toFields hfields
          have hgiven : Filed { store with given := store.given + 1 } := ⟨h.keys, h.sessions⟩
          exact hgiven.put ⟨⟨hobject, by rintro m ⟨⟩⟩, List.nodup_nil, hnow, hnow⟩
      | error fault =>
          rw [create_error hmade]
          exact ⟨h.keys, h.sessions⟩

theorem Filed.update (h : store.Filed) {now : Moment} (hnow : Moment.IsNear now.offset)
    {fields : Mapping Value} (hfields : ∀ field ∈ fields, field.2.IsJson) {id : String}
    {expected : Value} {session : Session} {next : Store}
    (hupdate : store.updateFields now id expected fields = .ok (session, next)) : next.Filed := by
  obtain ⟨s, change, haccepts, rfl, rfl⟩ := h.orderly.updateFields_ok_iff.1 hupdate
  exact h.put ((h.of_record haccepts.found).revise_read hfields haccepts.readable hnow)

theorem Filed.perform (h : store.Filed) {op : Op} (hop : op.IsJson) :
    (store.perform op).2.Filed := by
  cases op with
  | create now conversation scenario slots language =>
      exact h.create hop.1 hop.2 conversation scenario language
  | read | list => exact h
  | update now id expected fields =>
      simp only [Store.perform]
      cases hupdate : store.updateFields now id expected fields with
      | ok result => exact h.update hop.1 hop.2 hupdate
      | error fault => exact h
  | delete id => exact h.delete id

/-- The answer tells of a change. -/
def Answer.changes : Answer → Bool
  | .created _ | .updated _ => true
  | .removed held => held
  | .found _ | .listed _ => false

/-- A call that fails, or that tells of no change, leaves the records as they are. -/
theorem Filed.entries_perform (h : store.Filed) {op : Op} {reply : Except Fault Answer}
    {next : Store} (hop : store.perform op = (reply, next))
    (hsame : ∀ answer, reply = .ok answer → answer.changes = false) :
    next.entries = store.entries := by
  cases op with
  | create now conversation scenario slots language =>
      simp only [Store.perform] at hop
      cases hmade : store.create now conversation scenario slots language with
      | mk made after =>
          rw [hmade] at hop
          cases hop
          cases made with
          | ok id => exact absurd (hsame (.created id) rfl).symm Bool.false_ne_true
          | error fault => rw [create_error hmade]
  | read | list =>
      cases hop
      rfl
  | update now id expected fields =>
      simp only [Store.perform] at hop
      cases hupdate : store.updateFields now id expected fields with
      | ok result =>
          rw [hupdate] at hop
          cases hop
          exact absurd (hsame (.updated result.1) rfl).symm Bool.false_ne_true
      | error fault =>
          rw [hupdate] at hop
          cases hop
          rfl
  | delete id =>
      simp only [Store.perform] at hop
      rcases h.delete_eq id with hheld | hkept
      · rw [hheld] at hop
        cases hop
        exact absurd (hsame (.removed true) rfl).symm Bool.false_ne_true
      · rw [hkept] at hop
        cases hop
        rfl

/-- The calls bring JSON only, and no session is updated so often that its version is too long. -/
structure Writable (ops : List Op) : Prop where
  json : ∀ op ∈ ops, op.IsJson
  versions (id : String) : revisions id empty ops < 10 ^ Numeral.maxDigits

theorem Writable.of_append {earlier later : List Op} (h : Writable (earlier ++ later)) :
    Writable earlier where
  json op hop := h.json op (List.mem_append_left _ hop)
  versions id := by
    have hversions := h.versions id
    rw [revisions_append] at hversions
    omega

theorem Writable.filed {ops : List Op} (h : Writable ops) : (empty.after ops).Filed := by
  induction ops using List.reverseRecOn with
  | nil => exact filed_empty
  | append_singleton ops op ih =>
      rw [after_snoc]
      exact (ih h.of_append).perform (h.json op (by simp))

theorem Writable.version_lt {ops : List Op} (h : Writable ops) {id : String} {s : Session}
    (hs : (empty.after ops).record? id = some s) :
    s.version.natAbs < 10 ^ Numeral.maxDigits := by
  rw [version_eq_revisions ops hs, Int.natAbs_natCast]
  exact h.versions id

theorem revisions_le_length (id : String) (store : Store) (ops : List Op) :
    revisions id store ops ≤ ops.length := by
  induction ops generalizing store with
  | nil => exact Nat.le_refl _
  | cons op rest ih =>
      have hrest := ih (store.perform op).2
      rw [revisions, List.length_cons]
      split <;> omega

end Store

namespace FileStore

variable {files : FileStore} {store : Store}

/-- The answer to a call, and the files after it. -/
def perform (files : FileStore) : Store.Op → Except Fault Store.Answer × FileStore
  | .create now conversation scenario slots language =>
      let (made, next) := files.create now conversation scenario slots language
      (made.map .created, next)
  | .read now id => ((files.read now id).map .found, files)
  | .update now id expected fields =>
      let (updated, next) := files.updateFields now id expected fields
      (updated.map .updated, next)
  | .delete id =>
      let (removed, next) := files.delete id
      (removed.map .removed, next)
  | .list conversation => ((files.list conversation).map .listed, files)

def after (files : FileStore) (ops : List Store.Op) : FileStore :=
  ops.foldl (fun files op => (files.perform op).2) files

theorem after_snoc (files : FileStore) (ops : List Store.Op) (op : Store.Op) :
    files.after (ops ++ [op]) = ((files.after ops).perform op).2 := by
  simp [after]

/-- The file holds what the memory holds, and changes are written at once. -/
structure Mirrors (files : FileStore) (store : Store) : Prop where
  memory : files.memory = store
  immediate : files.deferred = false
  entries : files.disk.entries = .ok (store.entries.map fun entry => (entry.1, entry.2.filed))

/-- The same records in the same order, which are read and listed alike. -/
structure Agrees (again files : FileStore) : Prop where
  records : content again.memory = content files.memory
  read (now : Moment) (id : String) : again.read now id = files.read now id
  list (conversation : String) : again.list conversation = files.list conversation

theorem isJson_content {ops : List Store.Op} (h : Store.Writable ops) :
    (content (Store.empty.after ops)).IsJson := by
  refine .object ?_ fun field hfield => ?_
  · rw [Mapping.keys, List.map_map]
    exact h.filed.keys
  · obtain ⟨entry, hentry, rfl⟩ := List.mem_map.1 hfield
    obtain ⟨s, rfl, hs⟩ := h.filed.sessions entry hentry
    exact hs.toFields (h.version_lt (h.filed.record_of_mem hentry))

theorem Mirrors.keep (himmediate : files.deferred = false) (hjson : (content store).IsJson) :
    ∃ next, files.keep store = (.ok (), next) ∧ next.Mirrors store := by
  obtain ⟨text, hwrite, hread⟩ := Json.read_write Json.sound_indented hjson
  refine ⟨{ files with memory := store, disk := .text text, pending := false }, ?_, rfl,
    himmediate, ?_⟩
  · simp [FileStore.keep, himmediate, flush, hwrite]
  · simp [Disk.entries, hread, content, Entry.filed]

/-- Takes over what a call has come to in memory, and keeps what it has changed. -/
def take (files : FileStore) : Except Fault Store.Answer × Store → Except Fault Store.Answer × FileStore
  | (.ok answer, memory) =>
      if answer.changes then
        let (kept, next) := files.keep memory
        (kept.map fun _ => answer, next)
      else (.ok answer, { files with memory := memory })
  | (.error fault, memory) => (.error fault, { files with memory := memory })

theorem take_changed {α : Type} (files : FileStore) {answer : α → Store.Answer} {a : α}
    (h : (answer a).changes = true) (memory : Store) :
    files.take (.ok (answer a), memory) =
      (((files.keep memory).1.map fun _ => a).map answer, (files.keep memory).2) := by
  simp only [take, h, ↓reduceIte]
  cases (files.keep memory).1 <;> rfl

/-- A call is performed in memory. -/
theorem perform_eq_take (files : FileStore) (op : Store.Op) :
    files.perform op = files.take (files.memory.perform op) := by
  cases op with
  | create now conversation scenario slots language =>
      simp only [FileStore.perform, FileStore.create, Store.perform]
      cases files.memory.create now conversation scenario slots language with
      | mk made next =>
          cases made with
          | ok id => exact (files.take_changed rfl next).symm
          | error fault => rfl
  | read now id =>
      simp only [FileStore.perform, FileStore.read, Store.perform]
      cases files.memory.read now id <;> rfl
  | update now id expected fields =>
      simp only [FileStore.perform, FileStore.updateFields, Store.perform]
      cases files.memory.updateFields now id expected fields with
      | ok result => exact (files.take_changed rfl result.2).symm
      | error fault => rfl
  | delete id =>
      simp only [FileStore.perform, FileStore.delete, Store.perform]
      cases files.memory.delete id with
      | mk held next =>
          cases held with
          | true => exact (files.take_changed rfl next).symm
          | false => rfl
  | list conversation =>
      simp only [FileStore.perform, FileStore.list, Store.perform]
      cases files.memory.list conversation <;> rfl

theorem Mirrors.perform (h : files.Mirrors store) (hfiled : store.Filed) (op : Store.Op)
    (hjson : (content (store.perform op).2).IsJson) :
    (files.perform op).1 = (store.perform op).1 ∧
      (files.perform op).2.Mirrors (store.perform op).2 := by
  obtain ⟨rfl, himmediate, hentries⟩ := h
  rw [perform_eq_take]
  cases hperform : files.memory.perform op with
  | mk reply next =>
      rw [hperform] at hjson
      have hkept (hsame : ∀ answer, reply = .ok answer → answer.changes = false) :
          Mirrors { files with memory := next } next := by
        refine ⟨rfl, himmediate, ?_⟩
        rw [hfiled.entries_perform hperform hsame]
        exact hentries
      cases reply with
      | error fault => exact ⟨rfl, hkept fun _ heq => nomatch heq⟩
      | ok answer =>
          cases hchanges : answer.changes with
          | true =>
              obtain ⟨after, hkeep, hmirrors⟩ := Mirrors.keep himmediate hjson
              simp only [take, hchanges, hkeep, ↓reduceIte]
              exact ⟨rfl, hmirrors⟩
          | false =>
              simp only [take, hchanges, Bool.false_eq_true, ↓reduceIte]
              exact ⟨trivial, hkept fun _ heq => Except.ok.inj heq ▸ hchanges⟩

/-- Another store that is opened on the file finds the same. -/
theorem Mirrors.reopens (h : files.Mirrors store) (hfiled : store.Filed) (deferred : Bool)
    (given : Nat) : ∃ again, open? files.disk deferred given = .ok again ∧ again.Agrees files := by
  obtain ⟨rfl, -, hentries⟩ := h
  refine ⟨_, by rw [open?, hentries]; rfl, ?_, fun now id => ?_, fun conversation => ?_⟩
  · simp [content, Entry.toValue, Entry.filed]
  · show Store.read ⟨_, given⟩ now id = Store.read files.memory now id
    simp only [Store.read, Mapping.get?_map Entry.filed]
    cases hget : Mapping.get? files.memory.entries id with
    | none => rfl
    | some entry =>
        obtain ⟨s, hs, hjson⟩ := hfiled.sessions _ (Mapping.mem_of_get? hget)
        cases hs
        exact Entry.session?_unread hjson now
  · have hlisted : ∀ entry ∈ files.memory.entries,
        Summary.ofEntry? conversation entry.2.filed = Summary.ofEntry? conversation entry.2 := by
      intro entry hentry
      obtain ⟨s, rfl, hjson⟩ := hfiled.sessions entry hentry
      exact Summary.ofRaw?_toFields hjson.updated conversation
    show Store.list ⟨_, given⟩ conversation = Store.list files.memory conversation
    simp only [Store.list, List.mapM_map, Function.comp_def]
    rw [mapM_congr hlisted]

theorem Mirrors.after (h : files.Mirrors Store.empty) {ops : List Store.Op}
    (hops : Store.Writable ops) : (files.after ops).Mirrors (Store.empty.after ops) := by
  induction ops using List.reverseRecOn with
  | nil => exact h
  | append_singleton ops op ih =>
      have hjson := isJson_content hops
      rw [Store.after_snoc] at hjson ⊢
      rw [after_snoc]
      exact ((ih hops.of_append).perform hops.of_append.filed op hjson).2

/-- A store that begins without records and writes each change at once gives the answers of a store
in memory, and whenever another store is opened on its file, that one finds the same records. -/
theorem file_store_refines_memory {disk : Disk} (hdisk : disk.entries = .ok [])
    {ops : List Store.Op} (h : Store.Writable ops) :
    ∃ files, open? disk false 0 = .ok files ∧
      (∀ earlier op, earlier ++ [op] <+: ops →
        ((files.after earlier).perform op).1 = ((Store.empty.after earlier).perform op).1) ∧
      ∀ earlier, earlier <+: ops → ∀ deferred given, ∃ again,
        open? (files.after earlier).disk deferred given = .ok again ∧
          again.Agrees (files.after earlier) := by
  have hmirrors : Mirrors ⟨Store.empty, disk, false, false⟩ Store.empty := ⟨rfl, rfl, hdisk⟩
  refine ⟨_, by rw [open?, hdisk]; rfl, ?_, ?_⟩
  · rintro earlier op ⟨later, rfl⟩
    have hops := h.of_append
    have hjson := isJson_content hops
    rw [Store.after_snoc] at hjson
    exact ((hmirrors.after hops.of_append).perform hops.of_append.filed op hjson).1
  · rintro earlier ⟨later, rfl⟩ deferred given
    exact (hmirrors.after h.of_append).reopens h.of_append.filed deferred given

namespace Sample

def calls : List Store.Op := [
  .create Session.epoch (.text "c") (.text "greeting")
    (.object [("name", .text "Kim"), ("seats", .int 2)]) (.text "en"),
  .update Session.epoch "s1" (.int 0) [("awaiting_input", .bool true)],
  .list "c"]

theorem writable_calls : Store.Writable calls where
  json := by
    have hseats : (2 : Int).natAbs < 10 ^ Numeral.maxDigits :=
      (by decide : 2 < Numeral.maxDigits).trans (Nat.lt_pow_self (by decide))
    simp only [calls, List.mem_cons, List.not_mem_nil, or_false]
    rintro op (rfl | rfl | rfl)
    · refine ⟨by rintro distance ⟨⟩, .object (by decide) ?_⟩
      simp only [List.mem_cons, List.not_mem_nil, or_false]
      rintro field (rfl | rfl)
      · exact .text _
      · exact .int hseats
    · refine ⟨by rintro distance ⟨⟩, ?_⟩
      simp only [List.mem_cons, List.not_mem_nil, or_false]
      rintro field rfl
      exact .bool _
    · exact trivial
  versions id := by
    have hlength := Store.revisions_le_length id Store.empty calls
    have hfew : calls.length < 10 ^ Numeral.maxDigits :=
      (by decide : calls.length < Numeral.maxDigits).trans (Nat.lt_pow_self (by decide))
    omega

end Sample

theorem sample_calls_are_kept :
    Disk.missing.entries = .ok [] ∧ Store.Writable Sample.calls ∧
      ∃ files, open? .missing false 0 = .ok files ∧
        (∀ earlier op, earlier ++ [op] <+: Sample.calls →
          ((files.after earlier).perform op).1 = ((Store.empty.after earlier).perform op).1) ∧
        ∃ again, open? (files.after Sample.calls).disk false 0 = .ok again ∧
          again.Agrees (files.after Sample.calls) := by
  refine ⟨rfl, Sample.writable_calls, ?_⟩
  obtain ⟨files, hopen, hreplies, hreopens⟩ :=
    @file_store_refines_memory .missing rfl _ Sample.writable_calls
  exact ⟨files, hopen, hreplies, hreopens _ (List.prefix_refl _) false 0⟩

end FileStore

end Dialogue
