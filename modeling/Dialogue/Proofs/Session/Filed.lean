import Dialogue.Proofs.Json.Written
import Dialogue.Proofs.Moment
import Dialogue.Proofs.Session.Fields
import Dialogue.Session.Store
/-!
Sessions that a file can hold. They are read from their fields as they were, and listed alike.
-/
namespace Dialogue

namespace Value

theorem hereditary_isJson : Hereditary IsJson where
  item h hv := by
    cases h with
    | list h => exact h _ hv
  field {fields name v} h hv := by
    cases h with
    | object _ h => exact h (name, v) (Mapping.mem_of_get? hv)

theorem IsJson.storable_eq {v : Value} (h : v.IsJson) : v.storable = v := by
  induction h with
  | null | bool | int | text => simp only [storable]
  | float hx => simp only [storable, hx, ↓reduceIte]
  | list _ ih => simp only [storable, storableItems_eq_map, map_eq_self_iff.2 ih]
  | @object fields _ _ ih =>
      have hfields : storableFields fields = fields := by
        clear * - ih
        induction fields with
        | nil => rfl
        | cons field rest ihFields =>
            rw [storableFields, ih field List.mem_cons_self,
              ihFields fun other h => ih other (List.mem_cons_of_mem field h)]
      simp only [storable, hfields]

/-! Objects are also given by a list of their entries. -/

theorem IsJson.elements {v : Value} (hv : v.IsJson) {items : List Value}
    (h : v.elements = .ok items) : ∀ item ∈ items, item.IsJson := by
  cases hv with
  | list hitems =>
      cases h
      exact hitems
  | text s =>
      cases h
      intro item hitem
      obtain ⟨c, -, rfl⟩ := List.mem_map.1 hitem
      exact .text _
  | object =>
      cases h
      intro item hitem
      obtain ⟨field, -, rfl⟩ := List.mem_map.1 hitem
      exact .text _
  | _ => cases h

theorem IsJson.entry {v : Value} (hv : v.IsJson) {key value : Value}
    (h : v.entry = .ok (key, value)) : value.IsJson := by
  obtain ⟨items, hitems, h⟩ := exists_of_bind_ok h
  split at h
  · split at h
    · cases h
      exact hv.elements hitems _ (by simp)
    · cases h
  · cases h

theorem IsJson.toFields {v : Value} (hv : v.IsJson) {fields : Mapping Value}
    (h : v.toFields = .ok fields) : (Value.object fields).IsJson := by
  unfold Value.toFields at h
  split at h
  · cases h
    exact hv
  · obtain ⟨items, hitems, h⟩ := exists_of_bind_ok h
    obtain ⟨entries, hentries, h⟩ := exists_of_bind_ok h
    split at h
    · rename_i written hwritten
      cases h
      refine .object (Mapping.nodup_keys_ofEntries _) fun field hfield => ?_
      obtain ⟨⟨key, value⟩, hmem, hfieldOf⟩ :=
        exists_of_mem_mapM hwritten (Mapping.mem_of_mem_ofEntries hfield)
      obtain ⟨item, hitem, hentry⟩ := exists_of_forall₂ (forall₂_of_mapM hentries).flip hmem
      obtain ⟨name, -, rfl⟩ := Option.map_eq_some_iff.1 hfieldOf
      exact (hv.elements hitems item hitem).entry hentry
    · cases h

theorem isJson_empty : (Value.object []).IsJson := .object (by simp [Mapping.keys]) (by simp)

theorem IsJson.orElse {v w : Value} (hv : v.IsJson) (hw : w.IsJson) : (v.orElse w).IsJson := by
  unfold Value.orElse
  split
  · exact hv
  · exact hw

end Value

namespace Message

theorem readMessage_toValue (m : Message) : Session.readMessage m.toValue = some m := by
  obtain ⟨sender, text, node⟩ := m
  cases sender <;> cases text <;> cases node <;> rfl

theorem isJson_toValue {m : Message} (h : ∀ node ∈ m.node, (Value.object node).IsJson) :
    m.toValue.IsJson := by
  refine .object (by simp [Mapping.keys]) ?_
  obtain ⟨sender, text, node⟩ := m
  simp only [List.mem_cons, List.not_mem_nil, or_false]
  rintro field (rfl | rfl | rfl)
  · exact .text _
  · cases text with
    | none => exact .null
    | some s => exact .text s
  · cases node with
    | none => exact .null
    | some fields => exact h fields rfl

end Message

namespace Session

variable {s : Session}

/-- What the session holds is JSON, and its clocks are less than a day from Greenwich. -/
structure IsJson (s : Session) : Prop where
  holds : s.Holds Value.IsJson
  selected : (Mapping.keys s.selected).Nodup
  created : Moment.IsNear s.created.offset
  updated : Moment.IsNear s.updated.offset

theorem IsJson.isStored (h : s.IsJson) : s.IsStored :=
  isStored_iff.2 ⟨h.holds.slots.storable_eq, fun m hm node hnode =>
    (h.holds.nodes m hm node hnode).storable_eq⟩

theorem IsJson.toFields (h : s.IsJson) (hversion : s.version.natAbs < 10 ^ Numeral.maxDigits) :
    (Value.object s.toFields).IsJson := by
  refine .object (by simp [Session.toFields, Mapping.keys]) ?_
  simp only [Session.toFields, List.mem_cons, List.not_mem_nil, or_false]
  rintro field (rfl | rfl | rfl | rfl | rfl | rfl | rfl | rfl | rfl | rfl | rfl | rfl | rfl)
  · exact .text _
  · exact .text _
  · exact .text _
  · cases s.node with
    | none => exact .null
    | some node => exact .text node
  · exact .bool _
  · exact h.holds.slots
  · refine .list fun v hv => ?_
    obtain ⟨m, hm, rfl⟩ := List.mem_map.1 hv
    exact Message.isJson_toValue (h.holds.nodes m hm)
  · exact .text _
  · exact .text _
  · refine .object ?_ fun field hfield => ?_
    · rw [Mapping.keys, List.map_map]
      exact h.selected
    · obtain ⟨entry, -, rfl⟩ := List.mem_map.1 hfield
      exact .text _
  · exact .int hversion
  · exact .text _
  · exact .text _

theorem readSelected_map (selected : Mapping String) :
    readSelected (.object (selected.map fun entry => (entry.1, .text entry.2))) = some selected := by
  induction selected with
  | nil => rfl
  | cons entry rest ih =>
      simp only [readSelected] at ih
      simp only [readSelected, List.map_cons, List.mapM_cons, ih]
      rfl

theorem readMessages_map (messages : List Message) :
    readEach readMessage (.list (messages.map Message.toValue)) = some messages := by
  induction messages with
  | nil => rfl
  | cons m rest ih =>
      simp only [readEach] at ih
      simp only [readEach, List.map_cons, List.mapM_cons, ih, Message.readMessage_toValue]
      rfl

theorem nullable_ofText? (text : Option String) :
    nullable Value.text? (.ofText? text) = some text := by
  cases text <;> rfl

theorem readStatus_name (status : Status) : readStatus (.text status.name) = some status :=
  Status.ofName?_name status

/-- A session is read from its fields as it was. -/
theorem IsJson.readFields_toFields (h : s.IsJson) (now : Moment) :
    readFields now s.toFields = some s := by
  have hcreated := Moment.read?_print h.created
  have hupdated := Moment.read?_print h.updated
  simp [readFields, required, defaulted, Session.toFields, Mapping.get?, Value.text?,
    nullable_ofText?, Value.asBool?, readObject, readMessages_map, readStatus_name, readSelected_map,
    Value.asInt?, hcreated, hupdated]

theorem keys_of_readSelected {fields : Mapping Value} {selected : Mapping String}
    (h : readSelected (.object fields) = some selected) :
    Mapping.keys selected = Mapping.keys fields := by
  simp only [readSelected] at h
  induction fields generalizing selected with
  | nil =>
      cases h
      rfl
  | cons field rest ih =>
      simp only [List.mapM_cons, Option.bind_eq_bind, Option.bind_eq_some_iff, Option.pure_def,
        Option.map_eq_some_iff, Option.some.injEq] at h
      obtain ⟨_, ⟨text, -, rfl⟩, others, hothers, rfl⟩ := h
      exact congrArg (field.1 :: ·) (ih hothers)

theorem nodup_of_readSelected {v : Value} (hv : v.IsJson) {selected : Mapping String}
    (h : readSelected v = some selected) : (Mapping.keys selected).Nodup := by
  cases hv with
  | object hkeys => exact keys_of_readSelected h ▸ hkeys
  | _ => cases h

/-- A change that is read from JSON makes JSON of JSON. -/
theorem IsJson.revise_read (h : s.IsJson) {fields : Mapping Value}
    (hfields : ∀ field ∈ fields, field.2.IsJson) {change : Change}
    (hread : Change.read fields = .ok change) {now : Moment} (hnow : Moment.IsNear now.offset) :
    (s.revise now change).IsJson where
  holds := h.holds.revise_read Value.hereditary_isJson
    (fun name v hv => hfields (name, v) (Mapping.mem_of_get? hv)) hread now
  selected := by
    obtain ⟨-, -, -, -, -, -, hselected⟩ :=
      Change.readFields_iff.1 (Change.readFields_of_read hread)
    show (Mapping.keys (change.selected.getD s.selected)).Nodup
    cases hchange : change.selected with
    | none => exact h.selected
    | some selected =>
        obtain ⟨v, hv, hread⟩ := Change.exists_of_changed (hselected.trans (congrArg some hchange))
        exact nodup_of_readSelected (hfields _ (Mapping.mem_of_get? hv)) hread
  created := h.created
  updated := hnow

theorem truthy_toFields (s : Session) : (Value.object s.toFields).truthy = true := rfl

end Session

theorem Entry.session?_unread {s : Session} (h : s.IsJson) (now : Moment) :
    Entry.session? now (.unread (.object s.toFields)) = .ok (some s) := by
  rw [Entry.session?, if_pos s.truthy_toFields, Session.read, h.readFields_toFields]
  rfl

theorem Summary.ofRaw?_toFields {s : Session} (h : Moment.IsNear s.updated.offset)
    (conversation : String) :
    Summary.ofRaw? conversation (.object s.toFields) =
      Summary.ofEntry? conversation (.known s) := by
  have hfields : ["session_id", "scenario_id", "status", "updated_at"].mapM (fun name => do
      return (name, ← Entry.item (.object s.toFields) name)) =
      (.ok [("session_id", .text s.id), ("scenario_id", .text s.scenario),
        ("status", .text s.status.name), ("updated_at", .text s.updated.print)] :
        Except Fault (Mapping Value)) := rfl
  have hsummary : Summary.ofFields [("session_id", .text s.id), ("scenario_id", .text s.scenario),
      ("status", .text s.status.name), ("updated_at", .text s.updated.print)] =
      some ⟨s.id, s.scenario, s.status, s.updated⟩ := by
    simp [Summary.ofFields, Session.required, Mapping.get?, Value.text?, Session.readStatus_name,
      Moment.read?_print h]
  have hconversation : Entry.item (.object s.toFields) "conversation_id" =
      .ok (.text s.conversation) := rfl
  rw [Summary.ofRaw?, hconversation, hfields]
  simp only [bind, Except.bind, hsummary, Summary.ofEntry?]
  by_cases hsame : s.conversation = conversation <;>
    simp [Value.isText, Value.text?, hsame, pure, Except.pure]

end Dialogue
