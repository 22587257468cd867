import Dialogue.Proofs.Session.Beside
import Dialogue.Proofs.Session.Listing
/-!
Records that have been found in a file. Those that are whole are read and listed at any time, next
to all sessions that are made since; no others are.
-/
namespace Dialogue

namespace Session

variable {now : Moment} {fields : Mapping Value} {s : Session}

theorem eq_text_of_required {name text : String}
    (h : required fields name Value.text? = some text) :
    Mapping.get? fields name = some (.text text) := by
  obtain ⟨v, hv, htext⟩ := Option.bind_eq_some_iff.1 h
  cases v with
  | text => rw [hv, Option.some.inj htext]
  | _ => cases htext

/-- What a listing shows of the session is read from the fields of these names. -/
structure ReadFrom (now : Moment) (fields : Mapping Value) (s : Session) : Prop where
  id : Mapping.get? fields "session_id" = some (.text s.id)
  conversation : Mapping.get? fields "conversation_id" = some (.text s.conversation)
  scenario : Mapping.get? fields "scenario_id" = some (.text s.scenario)
  status : defaulted fields "status" readStatus .active = some s.status
  updated : defaulted fields "updated_at" Moment.read? now = some s.updated

theorem readFrom (h : readFields now fields = some s) : ReadFrom now fields s := by
  obtain ⟨id, hid, h⟩ := Option.bind_eq_some_iff.1 h
  obtain ⟨conversation, hconversation, h⟩ := Option.bind_eq_some_iff.1 h
  obtain ⟨scenario, hscenario, h⟩ := Option.bind_eq_some_iff.1 h
  obtain ⟨node, -, h⟩ := Option.bind_eq_some_iff.1 h
  obtain ⟨awaiting, -, h⟩ := Option.bind_eq_some_iff.1 h
  obtain ⟨slots, -, h⟩ := Option.bind_eq_some_iff.1 h
  obtain ⟨messages, -, h⟩ := Option.bind_eq_some_iff.1 h
  obtain ⟨status, hstatus, h⟩ := Option.bind_eq_some_iff.1 h
  obtain ⟨language, -, h⟩ := Option.bind_eq_some_iff.1 h
  obtain ⟨selected, -, h⟩ := Option.bind_eq_some_iff.1 h
  obtain ⟨version, -, h⟩ := Option.bind_eq_some_iff.1 h
  obtain ⟨created, -, h⟩ := Option.bind_eq_some_iff.1 h
  obtain ⟨updated, hupdated, h⟩ := Option.bind_eq_some_iff.1 h
  cases h
  exact ⟨eq_text_of_required hid, eq_text_of_required hconversation, eq_text_of_required hscenario,
    hstatus, hupdated⟩

theorem eq_of_defaulted {α : Type} {name : String} {read : Value → Option α} {default a : α}
    {v : Value} (h : defaulted fields name read default = some a)
    (hv : Mapping.get? fields name = some v) : read v = some a := by
  rwa [defaulted, hv] at h

end Session

namespace Entry

variable {raw : Value} {now : Moment}

theorem item_object {fields : Mapping Value} {name : String} {v : Value} :
    item (.object fields) name = .ok v ↔ Mapping.get? fields name = some v := by
  simp only [item]
  cases Mapping.get? fields name with
  | none => exact ⟨nofun, nofun⟩
  | some w => simp

/-- The record reads as a session at any time, and it names its status and the moment of its last
change, whose distance to Greenwich is known. -/
structure Whole (raw : Value) : Prop where
  session (now : Moment) : ∃ s, Session.read now raw = .ok s
  status : ∃ v, item raw "status" = .ok v
  updated : ∃ v m, item raw "updated_at" = .ok v ∧ Moment.read? v = some m ∧ m.isZoned = true

/-- The record is read and listed at any time, and dated for all to compare. -/
structure Serves (entry : Entry) : Prop where
  reads (now : Moment) : ∃ found, entry.session? now = .ok found
  listed : ∃ home summary, entry.ListedAs home summary ∧ summary.updated.isZoned = true

theorem serves_known {s : Session} (h : s.updated.isZoned = true) : (known s).Serves where
  reads _ := ⟨_, rfl⟩
  listed := ⟨_, _, listedAs_known s, h⟩

theorem Serves.isZoned {s : Session} (h : (known s).Serves) : s.updated.isZoned = true := by
  obtain ⟨home, summary, hlisted, hzoned⟩ := h.listed
  have hsame := (listedAs_known s home).symm.trans (hlisted home)
  rw [if_pos rfl] at hsame
  split at hsame
  · cases hsame
    exact hzoned
  · cases hsame

theorem whole_toFields {s : Session} (h : s.IsJson) (hzoned : s.updated.isZoned = true) :
    Whole (.object s.toFields) where
  session now := ⟨s, by rw [Session.read, h.readFields_toFields]; rfl⟩
  status := ⟨_, rfl⟩
  updated := ⟨_, s.updated, rfl, Moment.read?_print h.updated, hzoned⟩

theorem exists_readFields {s : Session} (h : Session.read now raw = .ok s) :
    ∃ fields, raw = .object fields ∧ Session.readFields now fields = some s := by
  cases raw with
  | object fields =>
      refine ⟨fields, rfl, ?_⟩
      simp only [Session.read] at h
      cases hread : Session.readFields now fields with
      | none =>
          rw [hread] at h
          cases h
      | some found =>
          rw [hread] at h
          cases h
          rfl
  | _ => cases h

section Listed

variable {fields : Mapping Value} {s : Session}

theorem ofRaw?_of_ne (h : Session.ReadFrom now fields s) {conversation : String}
    (hne : s.conversation ≠ conversation) :
    Summary.ofRaw? conversation (.object fields) = .ok none := by
  have hitem : item (.object fields) "conversation_id" = .ok (.text s.conversation) :=
    item_object.2 h.conversation
  simp [Summary.ofRaw?, hitem, Value.isText, Value.text?, hne, bind, Except.bind, pure, Except.pure]

/-- A record under its own conversation is listed just if it names its status and its last change. -/
theorem ofRaw?_own (h : Session.ReadFrom now fields s) :
    Summary.ofRaw? s.conversation (.object fields) = do
      let _ ← item (.object fields) "status"
      let _ ← item (.object fields) "updated_at"
      return some s.summary := by
  have hconversation : item (.object fields) "conversation_id" = .ok (.text s.conversation) :=
    item_object.2 h.conversation
  have hid : item (.object fields) "session_id" = .ok (.text s.id) := item_object.2 h.id
  have hscenario : item (.object fields) "scenario_id" = .ok (.text s.scenario) :=
    item_object.2 h.scenario
  have howned : (Value.text s.conversation).isText s.conversation = true := by
    simp [Value.isText, Value.text?]
  cases hstatus : item (.object fields) "status" with
  | error fault =>
      simp [Summary.ofRaw?, hconversation, howned, hid, hscenario, hstatus, List.mapM_cons, bind,
        Except.bind, pure, Except.pure]
  | ok status =>
      have hread := Session.eq_of_defaulted h.status (item_object.1 hstatus)
      cases hupdated : item (.object fields) "updated_at" with
      | error fault =>
          simp [Summary.ofRaw?, hconversation, howned, hid, hscenario, hstatus, hupdated,
            List.mapM_cons, bind, Except.bind, pure, Except.pure]
      | ok updated =>
          have hdated := Session.eq_of_defaulted h.updated (item_object.1 hupdated)
          simp [Summary.ofRaw?, hconversation, howned, hid, hscenario, hstatus, hupdated,
            List.mapM_cons, bind, Except.bind, pure, Except.pure, Summary.ofFields,
            Session.required, Mapping.get?, Value.text?, hread, hdated, Session.summary]

theorem listedAs_unread (h : Session.ReadFrom now fields s) {status updated : Value}
    (hstatus : item (.object fields) "status" = .ok status)
    (hupdated : item (.object fields) "updated_at" = .ok updated) :
    (unread (.object fields)).ListedAs s.conversation s.summary := by
  intro conversation
  show Summary.ofRaw? conversation (.object fields) = _
  by_cases hhome : s.conversation = conversation
  · subst hhome
    rw [ofRaw?_own h, hstatus, hupdated, if_pos rfl]
    rfl
  · rw [if_neg hhome]
    exact ofRaw?_of_ne h hhome

end Listed

/-- A record that has an item at all is not taken for an empty one. -/
theorem session?_of_item {name : String} {v : Value} (h : item raw name = .ok v) (now : Moment) :
    session? now (.unread raw) = (Session.read now raw).map some := by
  cases raw with
  | object fields =>
      cases fields with
      | nil => cases h
      | cons field rest => rfl
  | _ => cases h

theorem Whole.serves (h : Whole raw) : (unread raw).Serves where
  reads now := by
    obtain ⟨s, hs⟩ := h.session now
    obtain ⟨_, hstatus⟩ := h.status
    exact ⟨some s, by rw [session?_of_item hstatus, hs]; rfl⟩
  listed := by
    obtain ⟨s, hs⟩ := h.session Session.epoch
    obtain ⟨fields, rfl, hfields⟩ := exists_readFields hs
    obtain ⟨_, hstatus⟩ := h.status
    obtain ⟨v, m, hv, hm, hzoned⟩ := h.updated
    have hfrom := Session.readFrom hfields
    have hdated : Moment.read? v = some s.updated :=
      Session.eq_of_defaulted hfrom.updated (item_object.1 hv)
    cases hdated.symm.trans hm
    exact ⟨_, _, listedAs_unread hfrom hstatus hv, hzoned⟩

/-- A record that is read and listed without a fault is listed under one conversation, and lacks
nothing but perhaps the distance to Greenwich. -/
theorem exists_listedAs (hread : ∀ now, ∃ found, (unread raw).session? now = .ok found)
    (hlist : ∀ conversation, ∃ found, Summary.ofEntry? conversation (unread raw) = .ok found) :
    ∃ home summary, (unread raw).ListedAs home summary ∧
      (summary.updated.isZoned = true → Whole raw) := by
  obtain ⟨listed, hlisted⟩ := hlist ""
  obtain ⟨v, hv, -⟩ := exists_of_bind_ok (show Summary.ofRaw? "" raw = .ok listed from hlisted)
  have hsession (now : Moment) : ∃ s, Session.read now raw = .ok s := by
    obtain ⟨found, hfound⟩ := hread now
    rw [session?_of_item hv] at hfound
    cases hs : Session.read now raw with
    | ok s => exact ⟨s, rfl⟩
    | error fault =>
        rw [hs] at hfound
        cases hfound
  obtain ⟨s, hs⟩ := hsession Session.epoch
  obtain ⟨fields, rfl, hfields⟩ := exists_readFields hs
  have hfrom := Session.readFrom hfields
  obtain ⟨own, hown⟩ := hlist s.conversation
  rw [show Summary.ofEntry? s.conversation (unread (.object fields)) = _ from
    ofRaw?_own hfrom] at hown
  obtain ⟨status, hstatus, hown⟩ := exists_of_bind_ok hown
  obtain ⟨updated, hupdated, -⟩ := exists_of_bind_ok hown
  refine ⟨_, _, listedAs_unread hfrom hstatus hupdated, fun hzoned => ?_⟩
  exact ⟨hsession, ⟨status, hstatus⟩, updated, s.updated, hupdated,
    Session.eq_of_defaulted hfrom.updated (item_object.1 hupdated), hzoned⟩

theorem updated_of_reviseRaw (hnow : Moment.IsNear now.offset) {changes : Mapping Value}
    {s : Session} (h : reviseRaw now raw changes = .ok s) : s.updated = now := by
  cases raw with
  | object fields =>
      obtain ⟨found, -, h⟩ := exists_of_bind_ok h
      obtain ⟨version, -, h⟩ := exists_of_bind_ok h
      obtain ⟨_, hfields, hread⟩ := exists_readFields h
      cases hfields
      have hdated := Session.eq_of_defaulted (Session.readFrom hread).updated
        ((Mapping.get?_set _ _ _ _).trans (if_pos rfl))
      exact (Option.some.inj ((Moment.read?_print hnow).symm.trans hdated)).symm
  | _ => cases h

end Entry

namespace Summary

/-- Local moments and others are not listed together. -/
theorem isZoned_eq_of_inOrder {summaries ordered : List Summary}
    (h : inOrder summaries = .ok ordered) {s t : Summary} (hs : s ∈ summaries)
    (ht : t ∈ summaries) : s.updated.isZoned = t.updated.isZoned := by
  by_contra hne
  have hmixed : (summaries.any (·.updated.isZoned) && summaries.any (!·.updated.isZoned)) = true := by
    rw [Bool.and_eq_true, List.any_eq_true, List.any_eq_true]
    cases hzoned : s.updated.isZoned with
    | true => exact ⟨⟨s, hs, hzoned⟩, t, ht, by simpa [hzoned] using hne⟩
    | false => exact ⟨⟨t, ht, by simpa [hzoned] using hne⟩, s, hs, by simp [hzoned]⟩
  rw [inOrder, if_pos hmixed] at h
  cases h

end Summary

namespace Store

variable {store : Store} {conversation : String} {summaries : List Summary} {now : Moment}

theorem exists_ofEntry? (h : store.list conversation = .ok summaries) {entry : String × Entry}
    (hentry : entry ∈ store.entries) :
    ∃ found, Summary.ofEntry? conversation entry.2 = .ok found := by
  obtain ⟨found, hfound, -⟩ := exists_of_bind_ok h
  obtain ⟨summary, -, hsummary⟩ :=
    exists_of_forall₂ (forall₂_of_mapM hfound) (List.mem_map_of_mem hentry)
  exact ⟨summary, hsummary⟩

theorem isZoned_eq_of_list (h : store.list conversation = .ok summaries) {e f : String × Entry}
    (he : e ∈ store.entries) (hf : f ∈ store.entries) {s t : Summary}
    (hs : e.2.ListedAs conversation s) (ht : f.2.ListedAs conversation t) :
    s.updated.isZoned = t.updated.isZoned := by
  obtain ⟨found, hfound, horder⟩ := exists_of_bind_ok h
  have hmem {e : String × Entry} (he : e ∈ store.entries) {s : Summary}
      (hs : e.2.ListedAs conversation s) : s ∈ found.filterMap id := by
    obtain ⟨listed, hlisted, hentry⟩ :=
      exists_of_forall₂ (forall₂_of_mapM hfound) (List.mem_map_of_mem he)
    rw [hs conversation, if_pos rfl] at hentry
    cases hentry
    exact List.mem_filterMap.2 ⟨_, hlisted, rfl⟩
  exact Summary.isZoned_eq_of_inOrder horder (hmem he hs) (hmem hf ht)

theorem exists_list (h : ∀ entry ∈ store.entries, entry.2.Serves) (conversation : String) :
    ∃ summaries, store.list conversation = .ok summaries := by
  choose home shown hlisted hzoned using
    fun entry : {entry // entry ∈ store.entries} => (h entry.1 entry.2).listed
  have hstore : store =
      ⟨store.entries.attach.map fun entry => (entry.1.1, entry.1.2), store.given⟩ := by
    rw [show (store.entries.attach.map fun entry => (entry.1.1, entry.1.2)) = store.entries from
      List.attach_map_subtype_val store.entries]
  have hlist : store.list conversation =
      Summary.inOrder ((store.entries.attach.filter (home · = conversation)).map shown) := by
    conv_lhs => rw [hstore]
    exact list_map (fun entry _ => hlisted entry) store.given conversation
  rw [Summary.inOrder_zoned] at hlist
  · exact ⟨_, hlist⟩
  · intro summary hsummary
    obtain ⟨entry, -, rfl⟩ := List.mem_map.1 hsummary
    exact hzoned entry

/-- An update dates the session. -/
theorem updated_of_revised (hnow : Moment.IsNear now.offset) {id : String} {expected : Value}
    {fields : Mapping Value} {s : Session} (h : store.revised now id expected fields = .ok s) :
    s.updated = now := by
  simp only [revised] at h
  cases hreserved : (Mapping.keys fields).any Session.Change.reservedNames.contains with
  | true =>
      rw [hreserved] at h
      cases h
  | false =>
      rw [hreserved] at h
      obtain ⟨entry, -, h⟩ := exists_of_bind_ok h
      obtain ⟨_, -, h⟩ := exists_of_bind_ok h
      cases entry with
      | known session =>
          obtain ⟨change, -, h⟩ := exists_of_bind_ok h
          cases h
          rfl
      | unread raw => exact Entry.updated_of_reviseRaw hnow h

theorem serves_perform (h : ∀ entry ∈ store.entries, entry.2.Serves) {op : Op}
    (hop : ∀ now ∈ op.clock?, now.offset = some 0) :
    ∀ entry ∈ (store.perform op).2.entries, entry.2.Serves := by
  intro entry hentry
  cases op with
  | create now conversation scenario slots language =>
      rcases create_start conversation scenario slots language with
        ⟨conv, scen, lang, fields, -, -, hmade⟩ | ⟨fault, hmade⟩
      · simp only [perform, hmade] at hentry
        rcases Mapping.mem_set hentry with hentry | rfl
        · exact h entry hentry
        · exact Entry.serves_known (congrArg Option.isSome (hop now rfl))
      · simp only [perform, hmade] at hentry
        exact h entry hentry
  | read | list => exact h entry hentry
  | update now id expected fields =>
      have hzoned := hop now rfl
      simp only [perform, updateFields_eq_revised] at hentry
      cases hrevised : store.revised now id expected fields with
      | error fault =>
          rw [hrevised] at hentry
          exact h entry hentry
      | ok s =>
          rw [hrevised] at hentry
          rcases Mapping.mem_set hentry with hentry | rfl
          · exact h entry hentry
          · have hupdated := updated_of_revised (hzoned ▸ Moment.isNear_zero) hrevised
            refine Entry.serves_known ?_
            show s.updated.isZoned = true
            rw [hupdated, Moment.isZoned, hzoned]
            rfl
  | delete id => exact h entry ((delete_sublist store id).subset hentry)

/-- The calls come at a clock that shows the time at Greenwich. -/
def AtGreenwich (ops : List Op) : Prop := ∀ op ∈ ops, ∀ now ∈ op.clock?, now.offset = some 0

theorem serves_after (h : ∀ entry ∈ store.entries, entry.2.Serves) {ops : List Op}
    (hops : AtGreenwich ops) :
    ∀ entry ∈ (store.after ops).entries, entry.2.Serves := by
  induction ops generalizing store with
  | nil => exact h
  | cons op rest ih =>
      obtain ⟨hop, hrest⟩ := List.forall_mem_cons.1 hops
      exact ih (serves_perform h hop) hrest

/-- The first moment of 1970 at Greenwich. -/
def dawn : Moment := { Session.epoch with offset := some 0 }

/-- A call that makes a session in the conversation. -/
def newcomer (conversation : Value) : Op := .create dawn conversation (.text "") .null (.text "")

/-- A session can join any conversation and leave a given record alone. -/
theorem exists_newcomer (store : Store) (key home : String) :
    ∃ ops, AtGreenwich ops ∧
      Mapping.get? (store.after ops).entries key = Mapping.get? store.entries key ∧
      ∃ id s, Mapping.get? (store.after ops).entries id = some (.known s) ∧
        s.conversation = home ∧ s.updated.isZoned = true := by
  have hjoins (store : Store) (hkey : store.freshId ≠ key) :
      Mapping.get? (store.after [newcomer (.text home)]).entries key = Mapping.get? store.entries key ∧
        ∃ id s, Mapping.get? (store.after [newcomer (.text home)]).entries id = some (.known s) ∧
          s.conversation = home ∧ s.updated.isZoned = true := by
    show Mapping.get? (Mapping.set store.entries store.freshId _) key = _ ∧
      ∃ id s, Mapping.get? (Mapping.set store.entries store.freshId _) id = _ ∧ _
    simp only [Mapping.get?_set, if_neg hkey]
    exact ⟨trivial, store.freshId, _, if_pos rfl, rfl, rfl⟩
  have hdawn : AtGreenwich [newcomer .null, newcomer (.text home)] := by
    simp [AtGreenwich, newcomer, Op.clock?, dawn]
  by_cases hkey : store.freshId = key
  · -- the id of the record would be given out next, so another call uses it up
    have hnext : idOf (store.given + 1) ≠ key := by
      intro hnext
      have := idOf_injective (hnext.trans hkey.symm)
      omega
    exact ⟨[newcomer .null, newcomer (.text home)], hdawn, hjoins _ hnext⟩
  · exact ⟨[newcomer (.text home)], fun op hop => hdawn op (List.mem_cons_of_mem _ hop), hjoins _ hkey⟩

end Store

end Dialogue
