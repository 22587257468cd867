import Dialogue.Proofs.Program
import Dialogue.Proofs.Session.Record
import Dialogue.Session.Reading
/-!
Sessions and their changes as fields. A change that is read from fields leaves all others as they
are, and what it brings can be stored if the fields can.
-/
namespace Dialogue

theorem Mapping.get?_cons_congr {α : Type} {key name : String} {a b : α} {m n : Mapping α}
    (hvalue : key = name → a = b) (hrest : get? m name = get? n name) :
    get? ((key, a) :: m) name = get? ((key, b) :: n) name := by
  by_cases hkey : key = name
  · simp only [get?, if_pos hkey, hvalue hkey]
  · simp only [get?, if_neg hkey, hrest]

theorem Value.storableItems_eq_map (items : List Value) :
    storableItems items = items.map storable := by
  induction items with
  | nil => rfl
  | cons v rest ih => simp only [storableItems, List.map_cons, ih]

theorem map_eq_self_iff {α : Type} {f : α → α} {as : List α} :
    as.map f = as ↔ ∀ a ∈ as, f a = a := by
  simpa using List.map_inj_left (l := as) (f := f) (g := id)

/-- The property passes from lists and objects to the values in them. -/
structure Value.Hereditary (P : Value → Prop) : Prop where
  item {items : List Value} {v : Value} (h : P (.list items)) (hv : v ∈ items) : P v
  field {fields : Mapping Value} {name : String} {v : Value} (h : P (.object fields))
    (hv : Mapping.get? fields name = some v) : P v

theorem Value.hereditary_storable : Hereditary fun v => v.storable = v where
  item {items v} h hv := by
    have hitems : items.map storable = items := by
      simpa only [storable, storableItems_eq_map, Value.list.injEq] using h
    exact map_eq_self_iff.1 hitems v hv
  field {fields name v} h hv := by
    have hfields : storableFields fields = fields := by
      simpa only [storable, Value.object.injEq] using h
    have hstored := Mapping.get?_storableFields fields name
    rw [hfields, hv] at hstored
    exact (Option.some.inj hstored).symm

theorem exists_of_mem_mapM {α β : Type} {f : α → Option β} {as : List α} {bs : List β}
    (h : as.mapM f = some bs) {b : β} (hb : b ∈ bs) : ∃ a ∈ as, f a = some b := by
  induction as generalizing bs with
  | nil =>
      cases h
      cases hb
  | cons a rest ih =>
      simp only [List.mapM_cons, Option.bind_eq_bind, Option.bind_eq_some_iff, Option.pure_def,
        Option.some.injEq] at h
      obtain ⟨c, hc, cs, hcs, rfl⟩ := h
      rcases List.mem_cons.1 hb with rfl | hb
      · exact ⟨a, List.mem_cons_self, hc⟩
      · obtain ⟨d, hd, hfd⟩ := ih hcs hb
        exact ⟨d, List.mem_cons_of_mem a hd, hfd⟩

namespace Session

variable {fields : Mapping Value} {name : String} {change : Change}

namespace Change

theorem changed_of_unnamed {α : Type} {read : Value → Option α} (h : name ∉ Mapping.keys fields) :
    changed fields name read = some none := by
  simp [changed, defaulted, Mapping.get?_eq_none_iff.2 h]

theorem exists_of_changed {α : Type} {read : Value → Option α} {a : α}
    (h : changed fields name read = some (some a)) :
    ∃ v, Mapping.get? fields name = some v ∧ read v = some a := by
  unfold changed defaulted at h
  cases hv : Mapping.get? fields name with
  | none => simp [hv] at h
  | some v => exact ⟨v, rfl, by simpa [hv] using h⟩

theorem readFields_iff :
    readFields fields = some change ↔
      changed fields "current_node_id" (nullable Value.text?) = some change.node ∧
      changed fields "awaiting_input" Value.asBool? = some change.awaiting ∧
      changed fields "slots" readObject = some change.slots ∧
      changed fields "messages" (readEach readMessage) = some change.messages ∧
      changed fields "status" readStatus = some change.status ∧
      changed fields "language" Value.text? = some change.language ∧
      changed fields "selected_options" readSelected = some change.selected := by
  unfold readFields
  constructor
  · intro h
    simp only [Option.bind_eq_bind, Option.bind_eq_some_iff, Option.pure_def, Option.some.injEq] at h
    obtain ⟨node, hnode, awaiting, hawaiting, slots, hslots, messages, hmessages, status, hstatus,
      language, hlanguage, selected, hselected, rfl⟩ := h
    exact ⟨hnode, hawaiting, hslots, hmessages, hstatus, hlanguage, hselected⟩
  · rintro ⟨hnode, hawaiting, hslots, hmessages, hstatus, hlanguage, hselected⟩
    simp only [hnode, hawaiting, hslots, hmessages, hstatus, hlanguage, hselected]
    rfl

theorem readFields_of_read (h : read fields = .ok change) : readFields fields = some change := by
  unfold read at h
  cases hread : readFields fields with
  | none => simp [hread] at h
  | some found =>
      simp only [hread, Option.elim_some, Except.ok.injEq] at h
      rw [h]

end Change

/-- An update leaves the fields alone that it does not name. -/
theorem get?_revise (h : Change.read fields = .ok change) (hname : name ∉ Mapping.keys fields)
    (hversion : name ≠ "version") (hupdated : name ≠ "updated_at") (s : Session) (now : Moment) :
    Mapping.get? (s.revise now change).toFields name = Mapping.get? s.toFields name := by
  obtain ⟨hnode, hawaiting, hslots, hmessages, hstatus, hlanguage, hselected⟩ :=
    Change.readFields_iff.1 (Change.readFields_of_read h)
  have hkept {α : Type} {field : String} {read : Value → Option α} {x : Option α} {a : α}
      (hx : Change.changed fields field read = some x) (hfield : field = name) : x.getD a = a := by
    rw [Change.changed_of_unnamed (hfield ▸ hname)] at hx
    cases hx
    rfl
  unfold toFields
  refine Mapping.get?_cons_congr (fun _ => rfl) (Mapping.get?_cons_congr (fun _ => rfl)
    (Mapping.get?_cons_congr (fun _ => rfl) ?_))
  refine Mapping.get?_cons_congr (fun hf => congrArg Value.ofText? (hkept hnode hf)) ?_
  refine Mapping.get?_cons_congr (fun hf => congrArg Value.bool (hkept hawaiting hf)) ?_
  refine Mapping.get?_cons_congr (fun hf => congrArg Value.object (hkept hslots hf)) ?_
  refine Mapping.get?_cons_congr (fun hf => congrArg (fun messages : List Message =>
    Value.list (messages.map Message.toValue)) (hkept hmessages hf)) ?_
  refine Mapping.get?_cons_congr (fun hf => congrArg (fun status : Status =>
    Value.text status.name) (hkept hstatus hf)) ?_
  refine Mapping.get?_cons_congr (fun hf => congrArg Value.text (hkept hlanguage hf)) ?_
  refine Mapping.get?_cons_congr (fun hf => congrArg (fun selected : Mapping String =>
    Value.object (selected.map fun entry => (entry.1, .text entry.2))) (hkept hselected hf)) ?_
  exact Mapping.get?_cons_congr (fun hf => absurd hf.symm hversion) (Mapping.get?_cons_congr
    (fun _ => rfl) (Mapping.get?_cons_congr (fun hf => absurd hf.symm hupdated) rfl))

section Parts

variable {P : Value → Prop}

/-- The property holds of the slots and of the nodes that have been shown. -/
structure Holds (P : Value → Prop) (s : Session) : Prop where
  slots : P (.object s.slots)
  nodes : ∀ m ∈ s.messages, ∀ node ∈ m.node, P (.object node)

theorem eq_of_readObject {v : Value} {found : Mapping Value} (h : readObject v = some found) :
    v = .object found := by
  cases v with
  | object fields => exact congrArg _ (Option.some.inj h)
  | _ => cases h

theorem of_readMessage (hP : Value.Hereditary P) {v : Value} {m : Message} (hv : P v)
    (h : readMessage v = some m) : ∀ node ∈ m.node, P (.object node) := by
  cases v with
  | object fields =>
      simp only [readMessage, readMessageFields, Option.bind_eq_bind, Option.bind_eq_some_iff,
        Option.pure_def, Option.some.injEq] at h
      obtain ⟨_, -, sender, -, text, -, found, hfound, _, -, rfl⟩ := h
      rintro node ⟨⟩
      unfold defaulted at hfound
      cases hget : Mapping.get? fields "node" with
      | none => simp [hget] at hfound
      | some w =>
          simp only [hget, Option.elim_some] at hfound
          have hnode : readObject w = some node := by
            cases w <;> simp_all [nullable, readObject]
          exact eq_of_readObject hnode ▸ hP.field hv hget
  | _ => cases h

theorem of_readMessages (hP : Value.Hereditary P) {v : Value} {messages : List Message} (hv : P v)
    (h : readEach readMessage v = some messages) :
    ∀ m ∈ messages, ∀ node ∈ m.node, P (.object node) := by
  cases v with
  | list items =>
      intro m hm
      obtain ⟨item, hitem, hread⟩ := exists_of_mem_mapM h hm
      exact of_readMessage hP (hP.item hv hitem) hread
  | _ => cases h

/-- What is read from fields with a property has it, and so has the session that is changed. -/
theorem Holds.revise_read (hP : Value.Hereditary P) {s : Session} (hs : s.Holds P)
    (hfields : ∀ name v, Mapping.get? fields name = some v → P v)
    (h : Change.read fields = .ok change) (now : Moment) : (s.revise now change).Holds P := by
  obtain ⟨-, -, hslots, hmessages, -⟩ := Change.readFields_iff.1 (Change.readFields_of_read h)
  constructor
  · show P (.object (change.slots.getD s.slots))
    cases hchange : change.slots with
    | none => exact hs.slots
    | some slots =>
        obtain ⟨v, hv, hread⟩ := Change.exists_of_changed (hslots.trans (congrArg some hchange))
        exact eq_of_readObject hread ▸ hfields _ v hv
  · show ∀ m ∈ change.messages.getD s.messages, ∀ node ∈ m.node, P (.object node)
    cases hchange : change.messages with
    | none => exact hs.nodes
    | some messages =>
        obtain ⟨v, hv, hread⟩ := Change.exists_of_changed (hmessages.trans (congrArg some hchange))
        exact of_readMessages hP (hfields _ v hv) hread

end Parts

section Storing

theorem isStored_iff {s : Session} : s.IsStored ↔ s.Holds fun v => v.storable = v := by
  have hmessage (m : Message) : m.storable = m ↔
      ∀ node ∈ m.node, (Value.object node).storable = .object node := by
    obtain ⟨sender, text, node⟩ := m
    cases node <;> simp [Message.storable, Value.storable]
  constructor
  · intro h
    exact ⟨congrArg Value.object h.slots,
      fun m hm => (hmessage m).1 (map_eq_self_iff.1 h.messages m hm)⟩
  · rintro ⟨hslots, hnodes⟩
    have hkept : Value.storableFields s.slots = s.slots := by
      simpa only [Value.storable, Value.object.injEq] using hslots
    have hmessages : s.messages.map Message.storable = s.messages :=
      map_eq_self_iff.2 fun m hm => (hmessage m).2 (hnodes m hm)
    simp only [IsStored, storable, hkept, hmessages]

/-- What is read from fields that can be stored can be stored. -/
theorem IsStored.revise_read {s : Session} (hs : s.IsStored)
    (hfields : Value.storableFields fields = fields) (h : Change.read fields = .ok change)
    (now : Moment) : (s.revise now change).IsStored := by
  refine isStored_iff.2 ((isStored_iff.1 hs).revise_read Value.hereditary_storable ?_ h now)
  intro name v hv
  exact Value.hereditary_storable.field (congrArg Value.object hfields) hv

end Storing

end Session

end Dialogue
