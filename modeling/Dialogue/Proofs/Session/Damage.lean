import Dialogue.Proofs.Session.Whole
/-!
Stores that are opened on a file of any text. What the file holds does no harm to the sessions that
are made since; sessions are read and listed just if all its records are whole.
-/
namespace Dialogue

namespace FileStore

open Store (Op AtGreenwich)

variable {files : FileStore} {content : String} {deferred : Bool} {given : Nat}

/-- Any session is read, and any conversation is listed. -/
structure Serves (files : FileStore) : Prop where
  reads (now : Moment) (id : String) : ∃ found, files.read now id = .ok found
  lists (conversation : String) : ∃ summaries, files.list conversation = .ok summaries

theorem serves_of_entries (h : ∀ entry ∈ files.memory.entries, entry.2.Serves) :
    files.Serves where
  reads now id := by
    show ∃ found, Store.read files.memory now id = .ok found
    unfold Store.read
    split
    · rename_i entry hentry
      exact (h _ (Mapping.mem_of_get? hentry)).reads now
    · exact ⟨none, rfl⟩
  lists := Store.exists_list h

/-- What the file holds disables nothing. A store opens on it and, whatever it has been called for
since at the clock of Greenwich, reads any session and lists any conversation; and it answers calls
on new sessions as a store that opens on no file. -/
def Harmless (content : String) (deferred : Bool) (given : Nat) : Prop :=
  ∃ files fresh, open? (.text content) deferred given = .ok files ∧
    open? .missing deferred given = .ok fresh ∧
    (∀ ops, AtGreenwich ops → (files.after ops).Serves) ∧
    ∀ ops, files.OnNew [] ops → files.replies ops = fresh.replies ops

/-- The text is no JSON, or JSON that is no object, or an object of whole records. -/
inductive Intact (content : String) : Prop where
  | noJson {e : Json.SyntaxError} (read : Json.read content = .error (.invalidJson e))
  | noObject {v : Value} (read : Json.read content = .ok v) (other : ∀ fields, v ≠ .object fields)
  | records {fields : Mapping Value} (read : Json.read content = .ok (.object fields))
      (whole : ∀ field ∈ fields, Entry.Whole field.2)

theorem open?_iff {disk : Disk} : open? disk deferred given = .ok files ↔
    ∃ entries, disk.entries = .ok entries ∧
      files = ⟨⟨entries, given⟩, disk, deferred, false⟩ := by
  constructor
  · intro h
    obtain ⟨entries, hentries, h⟩ := exists_of_bind_ok h
    cases h
    exact ⟨entries, hentries, rfl⟩
  · rintro ⟨entries, hentries, rfl⟩
    rw [open?, hentries]
    rfl

theorem entries_object {fields : Mapping Value} (h : Json.read content = .ok (.object fields)) :
    (Disk.text content).entries =
      .ok (fields.map fun field => (field.1, .unread field.2)) := by
  simp only [Disk.entries, h]

theorem open?_object {fields : Mapping Value} (h : Json.read content = .ok (.object fields))
    (deferred : Bool) (given : Nat) :
    open? (.text content) deferred given =
      .ok ⟨⟨fields.map fun field => (field.1, .unread field.2), given⟩, .text content, deferred,
        false⟩ :=
  open?_iff.2 ⟨_, entries_object h, rfl⟩

theorem entries_other {v : Value} (h : Json.read content = .ok v)
    (hother : ∀ fields, v ≠ .object fields) : (Disk.text content).entries = .ok [] := by
  cases v with
  | object fields => exact absurd rfl (hother fields)
  | _ => simp only [Disk.entries, h]

/-- A store finds the fields of the object that the file holds, or nothing. -/
theorem entries_cases {entries : Mapping Entry} (h : (Disk.text content).entries = .ok entries) :
    entries = [] ∨ ∃ fields, Json.read content = .ok (.object fields) ∧
      entries = fields.map fun field => (field.1, .unread field.2) := by
  simp only [Disk.entries] at h
  split at h
  · rename_i fields hread
    cases h
    exact .inr ⟨fields, hread, rfl⟩
  · cases h
    exact .inl rfl
  · cases h
    exact .inl rfl
  · cases h

theorem opens_iff (content : String) (deferred : Bool) (given : Nat) :
    (∃ files, open? (.text content) deferred given = .ok files) ↔
      ∀ digits, Json.read content ≠ .error (.malformed (.longInteger digits)) := by
  constructor
  · rintro ⟨files, hopen⟩ digits hread
    obtain ⟨entries, hentries, -⟩ := open?_iff.1 hopen
    simp [Disk.entries, hread] at hentries
  · intro hshort
    simp only [open?, Disk.entries]
    cases hread : Json.read content with
    | ok v => cases v <;> exact ⟨_, rfl⟩
    | error fault =>
        rcases Json.read_error_cases hread with ⟨e, rfl⟩ | ⟨digits, rfl⟩
        · exact ⟨_, rfl⟩
        · exact absurd hread (hshort digits)

/-- Beside a store on no file, one that has opened on a file has records that can be written. -/
theorem beside_of_entries {entries : Mapping Entry}
    (h : (Disk.text content).entries = .ok entries) (given : Nat) :
    Store.Beside [] ⟨entries, given⟩ ⟨[], given⟩ := by
  rcases entries_cases h with rfl | ⟨fields, hread, rfl⟩
  · exact ⟨rfl, List.nodup_nil, List.nodup_nil, nofun, fun id => .inl rfl⟩
  · refine ⟨rfl, ?_, List.nodup_nil, nofun, fun id => ?_⟩
    · rw [Mapping.keys, List.map_map]
      exact Json.nodup_keys_of_read hread
    · rw [Mapping.get?_map]
      cases hget : Mapping.get? fields id with
      | none => exact .inl rfl
      | some raw =>
          cases Json.writable_of_read hread with
          | object each => exact .inr ⟨rfl, raw, rfl, each _ (Mapping.mem_of_get? hget)⟩

theorem replies_of_open {fresh : FileStore}
    (h : open? (.text content) deferred given = .ok files)
    (hfresh : open? .missing deferred given = .ok fresh) {ops : List Op}
    (hops : files.OnNew [] ops) : files.replies ops = fresh.replies ops := by
  obtain ⟨entries, hentries, hfiles⟩ := open?_iff.1 h
  cases hfresh
  have hdeferred : files.deferred = deferred := by rw [hfiles]
  have hbeside : Store.Beside [] files.memory ⟨[], given⟩ := by
    rw [hfiles]
    exact beside_of_entries hentries given
  exact replies_alike hdeferred hbeside hops

theorem Intact.entries (h : Intact content) :
    ∃ entries, (Disk.text content).entries = .ok entries ∧ ∀ entry ∈ entries, entry.2.Serves := by
  cases h with
  | noJson read => exact ⟨[], by simp only [Disk.entries, read], List.forall_mem_nil _⟩
  | noObject read other => exact ⟨[], entries_other read other, List.forall_mem_nil _⟩
  | records read whole =>
      refine ⟨_, entries_object read, fun entry hentry => ?_⟩
      obtain ⟨field, hfield, rfl⟩ := List.mem_map.1 hentry
      exact (whole field hfield).serves

theorem Intact.harmless (h : Intact content) (deferred : Bool) (given : Nat) :
    Harmless content deferred given := by
  obtain ⟨entries, hentries, hserves⟩ := h.entries
  have hopen : open? (.text content) deferred given = .ok _ :=
    open?_iff.2 ⟨entries, hentries, rfl⟩
  refine ⟨_, _, hopen, rfl, fun ops hops => serves_of_entries ?_,
    fun ops => replies_of_open hopen rfl⟩
  rw [memory_after]
  exact Store.serves_after hserves hops

theorem Harmless.whole (h : Harmless content deferred given) {fields : Mapping Value}
    (hread : Json.read content = .ok (.object fields)) :
    ∀ field ∈ fields, Entry.Whole field.2 := by
  intro field hfield
  obtain ⟨files, fresh, hopen, -, hserves, -⟩ := h
  have hget : Mapping.get? files.memory.entries field.1 = some (.unread field.2) := by
    cases hopen.symm.trans (open?_object hread deferred given)
    rw [Mapping.get?_map, Mapping.get?_of_mem (Json.nodup_keys_of_read hread) hfield]
    rfl
  have hnow : files.Serves := hserves [] (List.forall_mem_nil _)
  have hread : ∀ now, ∃ found, Entry.session? now (.unread field.2) = .ok found := by
    intro now
    obtain ⟨found, hfound⟩ := hnow.reads now field.1
    refine ⟨found, ?_⟩
    simpa only [FileStore.read, Store.read, hget, after, List.foldl_nil] using hfound
  have hlist : ∀ conversation, ∃ found,
      Summary.ofEntry? conversation (.unread field.2) = .ok found := by
    intro conversation
    obtain ⟨summaries, hsummaries⟩ := hnow.lists conversation
    exact Store.exists_ofEntry? hsummaries (Mapping.mem_of_get? hget)
  obtain ⟨home, summary, hlisted, hwhole⟩ := Entry.exists_listedAs hread hlist
  -- a record that is dated by a local clock is found out once a session joins its conversation
  obtain ⟨ops, hops, hkept, id, s, hs, hhome, hzoned⟩ :=
    Store.exists_newcomer files.memory field.1 home
  obtain ⟨summaries, hsummaries⟩ := (hserves ops hops).lists home
  have hsummaries : (files.memory.after ops).list home = .ok summaries := by
    rwa [FileStore.list, memory_after] at hsummaries
  refine hwhole ?_
  rw [Store.isZoned_eq_of_list hsummaries (Mapping.mem_of_get? (hkept.trans hget))
    (Mapping.mem_of_get? hs) hlisted (hhome ▸ Entry.listedAs_known s)]
  exact hzoned

theorem intact_of_fields
    (hshort : ∀ digits, Json.read content ≠ .error (.malformed (.longInteger digits)))
    (hwhole : ∀ fields, Json.read content = .ok (.object fields) →
      ∀ field ∈ fields, Entry.Whole field.2) : Intact content := by
  cases hread : Json.read content with
  | ok v =>
      cases v with
      | object fields => exact .records hread (hwhole fields hread)
      | _ => exact .noObject hread nofun
  | error fault =>
      rcases Json.read_error_cases hread with ⟨e, rfl⟩ | ⟨digits, rfl⟩
      · exact .noJson hread
      · exact absurd hread (hshort digits)

/-- A file that a store at the clock of Greenwich has written itself does no harm. -/
theorem intact_of_written {disk : Disk} (hdisk : disk.entries = .ok []) {ops : List Op}
    (hops : Store.Writable ops) (hclock : AtGreenwich ops)
    (hcontent : (after ⟨Store.empty, disk, false, false⟩ ops).disk = .text content) :
    Intact content := by
  have hmirrors : Mirrors ⟨Store.empty, disk, false, false⟩ Store.empty := ⟨rfl, rfl, hdisk⟩
  have hentries := (hmirrors.after hops).entries
  rw [hcontent] at hentries
  refine intact_of_fields ((opens_iff content false 0).1 ⟨_, open?_iff.2 ⟨_, hentries, rfl⟩⟩) ?_
  intro fields hread field hfield
  have hsame := Except.ok.inj ((entries_object hread).symm.trans hentries)
  have hmem : (field.1, Entry.unread field.2) ∈
      (Store.empty.after ops).entries.map fun entry => (entry.1, entry.2.filed) :=
    hsame ▸ List.mem_map_of_mem hfield
  obtain ⟨entry, hentry, heq⟩ := List.mem_map.1 hmem
  obtain ⟨s, rfl, hs⟩ := hops.filed.sessions entry hentry
  have hserves : (Entry.known s).Serves :=
    Store.serves_after (List.forall_mem_nil _) hclock _ hentry
  have hraw : field.2 = .object s.toFields := (Entry.unread.inj (Prod.mk.inj heq).2).symm
  rw [hraw]
  exact Entry.whole_toFields hs hserves.isZoned

theorem Harmless.intact (h : Harmless content deferred given) : Intact content := by
  refine intact_of_fields ?_ fun fields hread => h.whole hread
  obtain ⟨files, fresh, hopen, -⟩ := h
  exact (opens_iff content deferred given).1 ⟨files, hopen⟩

/-- A store opens on a file of any text without an integer that is too long to be read, and answers
calls on new sessions as a store on no file, whatever else the file holds. It goes on to read and
list all sessions just if the file holds no object or an object of whole records. -/
theorem damaged_file_harmless_iff (content : String) (deferred : Bool) (given : Nat) :
    ((∃ files, open? (.text content) deferred given = .ok files) ↔
        ∀ digits, Json.read content ≠ .error (.malformed (.longInteger digits))) ∧
      (∃ fresh, open? .missing deferred given = .ok fresh ∧
        ∀ files, open? (.text content) deferred given = .ok files →
          ∀ ops, files.OnNew [] ops → files.replies ops = fresh.replies ops) ∧
      (Harmless content deferred given ↔ Intact content) :=
  ⟨opens_iff content deferred given,
    ⟨_, rfl, fun _ hopen _ => replies_of_open hopen rfl⟩,
    fun h => h.intact, fun h => h.harmless deferred given⟩

namespace Sample

/-- A file with one record, which is empty. -/
def emptyRecord : String := "\x7b\"old\": \x7b\x7d\x7d"

theorem read_emptyRecord : Json.read emptyRecord = .ok (.object [("old", .object [])]) := by
  have hblank : Json.IsGap [' '] := by simp [Json.IsGap, Json.isGap]
  have hname : Json.Quotes ['o', 'l', 'd'] ['o', 'l', 'd'] := Json.quotes_escaped ['o', 'l', 'd']
  have hfields := Json.SpellsFields.last hname Json.isGap_nil hblank
    (.emptyObject Json.isGap_nil) Json.isGap_nil
  have hread := (Json.Spells.object Json.isGap_nil hfields).read_eq Json.isGap_nil Json.isGap_nil
  exact hread

end Sample

theorem empty_record_stops_listings :
    ∃ files, open? (.text Sample.emptyRecord) false 0 = .ok files ∧
      (∀ conversation, files.list conversation = .error (.missingField "conversation_id")) ∧
      ¬ Harmless Sample.emptyRecord false 0 := by
  have hopen := open?_object Sample.read_emptyRecord false 0
  refine ⟨_, hopen, fun conversation => rfl, ?_⟩
  rintro ⟨files, fresh, hagain, -, hserves, -⟩
  cases hagain.symm.trans hopen
  obtain ⟨summaries, hsummaries⟩ := (hserves [] (List.forall_mem_nil _)).lists "c"
  cases hsummaries

end FileStore

end Dialogue
