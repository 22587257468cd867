import Dialogue.Proofs.Node.Writes
import Dialogue.Proofs.Node.Gather
import Dialogue.Proofs.Slot.Name
import Dialogue.Proofs.Turn.Journey
/-!
The assignments of a node, one after the other. Each sees the slots as those before it left them.
-/
namespace Dialogue.Node

theorem truthy_of_elements {v item : Value} {items : List Value} (h : v.elements = .ok items)
    (hitem : item ∈ items) : v.truthy = true := by
  cases v with
  | list all =>
      cases h
      simpa [Value.truthy] using List.ne_nil_of_mem hitem
  | text s =>
      cases h
      rw [Value.truthy_text_iff]
      rintro rfl
      cases hitem
  | object fields =>
      cases h
      simpa [Value.truthy] using List.ne_nil_of_mem hitem
  | _ => cases h

variable {context : Context} {node : Node} {slots : Slots} {k : String} {v assignment : Value}
  {draft stored : Slot.Draft} {effect : Effect}

/-- The value that an assignment gives under these slots. -/
def assigned (slots : Slots) (assignment : Value) : Except Fault Value := do
  let filled ← match (← assignment.field "value").getD .null with
    | .text s => Value.text <$> Template.fillText s (.object slots) false
    | v => pure v
  Slot.coerce filled

theorem assign_named (hkey : assignment.field "key" = .ok (some (.text k))) (hk : k ≠ "")
    (draft : Slot.Draft) :
    assign draft assignment = do
      let v ← assigned draft.slots assignment
      return { draft with slots := Mapping.set draft.slots k v } := by
  have hname : (Value.text k).truthy = true := Value.truthy_text_iff.2 hk
  simp only [assign, assigned, hkey, bind_assoc]
  simp only [bind, Except.bind, Option.getD_some, hname]
  cases assignment.field "value" with
  | error fault => rfl
  | ok found =>
      simp only
      cases found.getD .null with
      | text s =>
          simp only
          cases Template.fillText s (.object draft.slots) false with
          | error fault => rfl
          | ok s => rfl
      | _ => rfl

theorem assign_unnamed (hkey : assignment.field "key" = .ok (some (.text "")))
    (draft : Slot.Draft) : assign draft assignment = .ok draft := by
  simp only [assign, hkey]
  rfl

theorem executeSetSlot_eq {items : List Value}
    (hitems : (node.get "assignments").elements = .ok items) (context : Context) (slots : Slots) :
    executeSetSlot context node slots =
      items.foldlM assign (.ofSlots slots) >>= leaveWith context node none := by
  unfold executeSetSlot
  simp only [hitems]
  split
  · rfl
  · rename_i hfalsy
    obtain rfl : items = [] :=
      List.eq_nil_iff_forall_not_mem.2 fun item hitem => hfalsy (truthy_of_elements hitems hitem)
    rfl

/-- What an assignment stores stays until another one names its slot. -/
theorem get?_of_assigned {later : List Value}
    (hkey : assignment.field "key" = .ok (some (.text k))) (hk : k ≠ "")
    (hv : assigned draft.slots assignment = .ok v)
    (hlast : ∀ other ∈ later, other.field "key" ≠ .ok (some (.text k)))
    (h : (assignment :: later).foldlM assign draft = .ok stored) :
    Mapping.get? stored.slots k = some v := by
  rw [List.foldlM_cons, assign_named hkey hk, hv] at h
  have hkept : Keeps k (Mapping.set draft.slots k v) stored.slots :=
    foldlM_keeps (fun other hmem _ _ hassign => assign_keeps hassign (hlast other hmem)) h
  rw [hkept, Mapping.get?_set, if_pos rfl]

end Dialogue.Node

/-!
What nodes store is read back by templates. Names that are written to are taken as they are, while a
template takes what it reads for a path, so the two agree on the paths of one step only.
-/
namespace Dialogue.Slot

open Dialogue.Node Dialogue.Template

variable {k : String} {v : Value} {node : Node} {slots after : Slots}

/-- An entry of a mapping gives the slot `k` a part of the answer. -/
def Parts (payload entry : Value) (k : String) (v : Value) : Prop :=
  entry.field "slot" = .ok (some (.text k)) ∧ k ≠ "" ∧ v.isNull = false ∧
    ∃ path, entry.field "path" = .ok path ∧ payload.lookupAt (path.getD (.text "")) = .ok v

/-- The answer to a request of this configuration gives the slot `k` a part of it, by the last entry
of the mapping that gives the slot anything. -/
inductive Maps (base : String) (slots : Slots) (config : Value) (k : String) (v : Value) :
    Draft → Prop where
  | intro {prepared : Prepared} {response : Http.Response} {payload entry : Value}
      {earlier later : List Value} {draft : Draft}
      (sent : Prepared.ofConfig base slots config = .ok prepared)
      (received : prepared.receive response = .ok draft)
      (said : response.json = .ok payload)
      (entries : prepared.mapping.elements = .ok (earlier ++ entry :: later))
      (parts : Parts payload entry k v)
      (last : ∀ other ∈ later, ∀ w, ¬ Parts payload other k w) :
      Maps base slots config k v draft

/-- The node stores `v` in the slot `k`, with these slots as the result. -/
inductive Stores (k : String) : Value → Node → Slots → Prop where
  /-- The last assignment of the slot, when the node has acted. -/
  | assigned {context : Context} {node : Node} {slots : Slots} {earlier later : List Value}
      {assignment v : Value} {draft : Draft} {effect : Effect}
      (kind : node.kind? = some .setSlot)
      (items : (node.get "assignments").elements = .ok (earlier ++ assignment :: later))
      (reached : earlier.foldlM assign (.ofSlots slots) = .ok draft)
      (named : assignment.field "key" = .ok (some (.text k))) (nonempty : k ≠ "")
      (gives : Node.assigned draft.slots assignment = .ok v)
      (last : ∀ other ∈ later, other.field "key" ≠ .ok (some (.text k)))
      (acted : executeSetSlot context node slots = .ok effect) :
      Stores k v node effect.slots
  /-- An assignment, when a later one of the node is reached. -/
  | seen {node : Node} {slots : Slots} {earlier between later : List Value}
      {assignment reader v : Value} {draft seen : Draft}
      (kind : node.kind? = some .setSlot)
      (items : (node.get "assignments").elements =
        .ok (earlier ++ assignment :: (between ++ reader :: later)))
      (reached : earlier.foldlM assign (.ofSlots slots) = .ok draft)
      (named : assignment.field "key" = .ok (some (.text k))) (nonempty : k ≠ "")
      (gives : Node.assigned draft.slots assignment = .ok v)
      (last : ∀ other ∈ between, other.field "key" ≠ .ok (some (.text k)))
      (reading : (earlier ++ assignment :: between).foldlM assign (.ofSlots slots) = .ok seen) :
      Stores k v node seen.slots
  /-- The answer to the question of the node. -/
  | answered {setting : Run.Setting} {state : Run.State} {input : Run.Input} {node : Node}
      {id : String} {draft : Draft}
      (current : state.node.filter (· ≠ "") = some id)
      (found : setting.context.scenario.node? id = some node)
      (awaiting : state.awaiting = true)
      (named : node.get "slot" = .text k) (nonempty : k ≠ "")
      (admitted : Turn.entry setting state input = .ok (.admitted draft)) :
      Stores k (.text (input.text.getD "")) node draft.slots
  /-- A part of the answer to a request of the node. Its own flags the node writes last. -/
  | mapped {σ : Type} {world : σ → (c : Call) → c.Answer × σ} {s : σ} {context : Context}
      {node : Node} {slots : Slots} {configs : List Value} {config v : Value}
      {earlier later : List Draft} {draft : Draft} {effect : Effect}
      (kind : node.kind? = some .api)
      (configured : Api.configs node = .ok configs) (mem : config ∈ configs)
      (landed : ((Api.sendAll (configs.map (Prepared.ofConfig context.apiBase slots))).run
        world s).1.map Api.Landing.outcome = (earlier ++ draft :: later).map .ok)
      (maps : Maps context.apiBase slots config k v draft)
      (last : ∀ other ∈ later, Mapping.get? other.slots k = none)
      (unflagged : k ≠ "apiError" ∧ k ≠ "apiFailed")
      (acted : ((node.execute context slots).run.run world s).1 = .ok effect) :
      Stores k v node effect.slots
  /-- The reply of a completion. -/
  | completed {σ : Type} {world : σ → (c : Call) → c.Answer × σ} {s : σ} {context : Context}
      {node : Node} {slots : Slots} {output : String} {effect : Effect} {heard : List Exchange}
      (kind : node.kind? = some .llm)
      (named : node.get "outputVar" = .text k) (nonempty : k ≠ "")
      (acted : ((node.execute context slots).run.recorded.run world s).1 = (.ok effect, heard))
      (completed : Completed heard output) :
      Stores k (.text (Llm.read node output).reply) node effect.slots

section Storing

theorem storePart_of_parts {payload entry : Value} (h : Parts payload entry k v) (draft : Draft) :
    Prepared.storePart payload draft entry =
      .ok { draft with slots := Mapping.set draft.slots k v } := by
  obtain ⟨hslot, hk, hnull, path, hpath, hlookup⟩ := h
  have hname : (Value.text k).truthy = true := Value.truthy_text_iff.2 hk
  simp only [Prepared.storePart, hslot, hpath, hlookup, bind, Except.bind, Option.getD_some, hname,
    hnull]
  rfl

theorem storePart_keeps_of_not {payload entry : Value} {draft stored : Draft}
    (hnot : ∀ w, ¬ Parts payload entry k w)
    (h : Prepared.storePart payload draft entry = .ok stored) :
    Keeps k draft.slots stored.slots := by
  by_cases hslot : entry.field "slot" = .ok (some (.text k))
  · simp only [Prepared.storePart, hslot, bind, Except.bind, Option.getD_some] at h
    split at h
    · cases h
      exact keeps_refl k _
    · rename_i hname
      obtain ⟨path, hpath, h⟩ := exists_of_bind_ok h
      obtain ⟨part, hpart, h⟩ := exists_of_bind_ok h
      split at h
      · cases h
        exact keeps_refl k _
      · rename_i hnull
        have hk : k ≠ "" := Value.truthy_text_iff.1 (by simpa using hname)
        exact absurd ⟨hslot, hk, by simpa using hnull, path, hpath, hpart⟩ (hnot part)
  · exact storePart_keeps h hslot

/-- The entries of the mapping are stored one after the other. -/
theorem foldlM_of_receive {prepared : Prepared} {response : Http.Response} {payload : Value}
    {entries : List Value} {draft : Draft} (hjson : response.json = .ok payload)
    (hentries : prepared.mapping.elements = .ok entries) (hne : entries ≠ [])
    (h : prepared.receive response = .ok draft) :
    entries.foldlM (Prepared.storePart payload) (.ofSlots prepared.written) = .ok draft := by
  obtain ⟨entry, rest, rfl⟩ := List.exists_cons_of_ne_nil hne
  have hmapping : prepared.mapping.truthy = true := truthy_of_elements hentries (.head rest)
  unfold Prepared.receive at h
  cases hok : response.ok with
  | false =>
      simp only [hok, Bool.not_false, ↓reduceIte] at h
      cases h
  | true =>
      simp only [hok, hmapping, hjson, hentries, Bool.not_true, Bool.false_eq_true, ↓reduceIte] at h
      exact h

theorem nodup_written {base : String} {config : Value} {prepared : Prepared}
    (h : Prepared.ofConfig base slots config = .ok prepared) :
    (Mapping.keys prepared.written).Nodup := by
  unfold Prepared.ofConfig at h
  split at h
  · obtain ⟨_, -, h⟩ := exists_of_bind_ok h
    obtain ⟨_, -, h⟩ := exists_of_bind_ok h
    obtain ⟨_, -, h⟩ := exists_of_bind_ok h
    obtain ⟨body, hbody, h⟩ := exists_of_bind_ok h
    cases h
    unfold Prepared.body at hbody
    split at hbody
    · cases hbody
      exact List.nodup_nil
    · obtain ⟨filled, -, hbody⟩ := exists_of_bind_ok hbody
      simp only at hbody
      split at hbody <;>
      · obtain ⟨text, -, hbody⟩ := exists_of_bind_ok hbody
        cases hbody
        exact List.nodup_singleton _
  · cases h

theorem nodup_store {draft stored : Draft} {name part : Value}
    (hnodup : (Mapping.keys draft.slots).Nodup) (h : draft.store name part = .ok stored) :
    (Mapping.keys stored.slots).Nodup := by
  unfold Draft.store at h
  split at h
  · cases h
    exact Mapping.nodup_keys_set hnodup _ _
  · split at h
    · cases h
      exact hnodup
    · cases h

theorem nodup_storePart {payload entry : Value} {draft stored : Draft}
    (hnodup : (Mapping.keys draft.slots).Nodup)
    (h : Prepared.storePart payload draft entry = .ok stored) :
    (Mapping.keys stored.slots).Nodup := by
  obtain ⟨found, -, h⟩ := exists_of_bind_ok h
  simp only at h
  split at h
  · cases h
    exact hnodup
  · obtain ⟨path, -, h⟩ := exists_of_bind_ok h
    obtain ⟨part, -, h⟩ := exists_of_bind_ok h
    split at h
    · cases h
      exact hnodup
    · exact nodup_store hnodup h

theorem Maps.get? {base : String} {config : Value} {draft : Draft}
    (h : Maps base slots config k v draft) : Mapping.get? draft.slots k = some v := by
  obtain ⟨sent, received, said, entries, parts, last⟩ := h
  have hstored := foldlM_of_receive said entries (List.append_ne_nil_of_right_ne_nil _ nofun) received
  rw [List.foldlM_append] at hstored
  obtain ⟨reached, -, hstored⟩ := exists_of_bind_ok hstored
  rw [List.foldlM_cons, storePart_of_parts parts] at hstored
  have hkept : Keeps k (Mapping.set reached.slots k v) draft.slots :=
    foldlM_keeps (fun other hmem _ _ => storePart_keeps_of_not (last other hmem)) hstored
  rw [hkept, Mapping.get?_set, if_pos rfl]

theorem Maps.nodup {base : String} {config : Value} {draft : Draft}
    (h : Maps base slots config k v draft) : (Mapping.keys draft.slots).Nodup := by
  obtain ⟨sent, received, said, entries, parts, last⟩ := h
  have hstored := foldlM_of_receive said entries (List.append_ne_nil_of_right_ne_nil _ nofun) received
  exact foldlM_invariant (P := fun stored => (Mapping.keys stored.slots).Nodup)
    (fun _ _ _ _ hnodup => nodup_storePart hnodup) (nodup_written sent) hstored

theorem get?_update_of_mem {changes : Slots} (hnodup : (Mapping.keys changes).Nodup)
    (hv : Mapping.get? changes k = some v) (before : Slots) :
    Mapping.get? (Mapping.update before changes) k = some v := by
  induction changes generalizing before with
  | nil => cases hv
  | cons entry rest ih =>
      obtain ⟨name, w⟩ := entry
      obtain ⟨hname, hrest⟩ := List.nodup_cons.1 hnodup
      by_cases heq : name = k
      · subst heq
        rw [Mapping.get?, if_pos rfl] at hv
        cases hv
        have hkept : Keeps name (Mapping.set before name v) (Mapping.update (Mapping.set before name v) rest) :=
          keeps_update hname
        exact Eq.trans hkept (by rw [Mapping.get?_set, if_pos rfl])
      · rw [Mapping.get?, if_neg heq] at hv
        exact ih hrest hv _

theorem get?_merged {earlier later : List Draft} {draft : Draft}
    (hnodup : (Mapping.keys draft.slots).Nodup) (hv : Mapping.get? draft.slots k = some v)
    (hlast : ∀ other ∈ later, Mapping.get? other.slots k = none) (before : Slots) :
    Mapping.get? (((earlier ++ draft :: later).map Draft.slots).foldl Mapping.update before) k =
      some v := by
  have hkept (later : List Draft) (hlast : ∀ other ∈ later, Mapping.get? other.slots k = none)
      (before : Slots) :
      Keeps k before ((later.map Draft.slots).foldl Mapping.update before) := by
    induction later generalizing before with
    | nil => exact keeps_refl k before
    | cons other rest ih =>
        have hother : Keeps k [] other.slots := hlast other (.head rest)
        exact (keeps_merge hother).trans (ih (fun d hd => hlast d (.tail other hd)) _)
  rw [List.map_append, List.foldl_append, List.map_cons, List.foldl_cons, hkept later hlast,
    get?_update_of_mem hnodup hv]

theorem nodup_merged {drafts : List Draft} {before : Slots} (h : (Mapping.keys before).Nodup) :
    (Mapping.keys ((drafts.map Draft.slots).foldl Mapping.update before)).Nodup := by
  induction drafts generalizing before with
  | nil => exact h
  | cons draft rest ih => exact ih (Mapping.nodup_keys_update h draft.slots)

theorem slots_of_admitted {setting : Run.Setting} {state : Run.State} {input : Run.Input}
    {id : String} {draft : Draft} (hid : state.node.filter (· ≠ "") = some id)
    (hfound : setting.context.scenario.node? id = some node) (hawaiting : state.awaiting = true)
    (hslot : node.get "slot" = .text k) (hk : k ≠ "")
    (h : Turn.entry setting state input = .ok (.admitted draft)) :
    draft.slots =
      Mapping.set (Mapping.update state.slots input.form) k (.text (input.text.getD "")) := by
  have hname : (Value.text k).truthy = true := Value.truthy_text_iff.2 hk
  simp only [Turn.entry, hid, hfound, hawaiting, if_true, Turn.answer] at h
  obtain ⟨verdict, -, h⟩ := exists_of_bind_ok h
  cases verdict with
  | rejected message =>
      obtain ⟨shown, -, h⟩ := exists_of_bind_ok h
      cases message <;> cases h
  | accepted =>
      simp only [hslot, hname, if_true] at h
      obtain ⟨stored, hstored, h⟩ := exists_of_bind_ok h
      cases hstored
      cases h
      rfl

theorem get?_of_succeed {context : Context} {output : String} {effect : Effect}
    (houtput : node.get "outputVar" = .text k) (hk : k ≠ "")
    (h : Llm.succeed context node slots output = .ok effect) :
    Mapping.get? effect.slots k = some (.text (Llm.read node output).reply) := by
  have hname : (Value.text k).truthy = true := Value.truthy_text_iff.2 hk
  simp only [Llm.succeed, houtput, hname, if_true] at h
  obtain ⟨stored, hstored, h⟩ := exists_of_bind_ok h
  cases hstored
  rw [slots_leaveWith h, Mapping.get?_set, if_pos rfl]

/-- What a node stores is in the slot of that very name. -/
theorem Stores.get? (h : Stores k v node after) : Mapping.get? after k = some v := by
  cases h with
  | assigned kind items reached named nonempty gives last acted =>
      rw [executeSetSlot_eq items, List.foldlM_append, reached] at acted
      obtain ⟨stored, hstored, acted⟩ := exists_of_bind_ok acted
      rw [slots_leaveWith acted]
      exact get?_of_assigned named nonempty gives last hstored
  | seen kind items reached named nonempty gives last reading =>
      rw [List.foldlM_append, reached] at reading
      exact get?_of_assigned named nonempty gives last reading
  | answered current found awaiting named nonempty admitted =>
      rw [slots_of_admitted current found awaiting named nonempty admitted, Mapping.get?_set,
        if_pos rfl]
  | mapped kind configured mem landed maps last unflagged acted =>
      rw [Api.execute_run _ kind, Api.request_run _ configured, Api.gathered,
        Api.firstFailure?_of_ok landed, Api.merge_of_ok landed] at acted
      simp only [Api.settle, Api.succeed_eq] at acted
      obtain ⟨next, -, acted⟩ := exists_of_bind_ok acted
      split at acted
      · cases acted
      · cases acted
        simp only [Effect.goTo, Mapping.get?_set, Mapping.get?_erase, if_neg (Ne.symm unflagged.1),
          if_neg (Ne.symm unflagged.2)]
        have hnil : (Mapping.keys ([] : Slots)).Nodup := List.nodup_nil
        exact get?_update_of_mem (nodup_merged hnil) (get?_merged maps.nodup maps.get? last []) _
  | completed kind named nonempty acted completed =>
      rename_i world s context slots output effect heard
      rw [Node.execute, kind] at acted
      have hsettles := (Llm.execute_settles context node slots).run world s
      rw [acted] at hsettles
      unfold Completed at completed
      rcases hsettles.of_ok with ⟨reason, hheard, -⟩ | ⟨told, hheard, hsucceed⟩
      · rw [hheard] at completed
        cases List.mem_singleton.1 completed
      · rw [hheard] at completed
        cases List.mem_singleton.1 completed
        exact get?_of_succeed named nonempty hsucceed

end Storing

namespace Sample

def assignment (k : String) (v : Value) : Value := .object [("key", .text k), ("value", v)]

def puts (k : String) (v : Value) : Node :=
  ⟨"put", "setSlot", [("assignments", .list [assignment k v])]⟩

def alone (node : Node) : Context := ⟨⟨"shop", "Shop", "", [node], [], none⟩, "s1", "en", ""⟩

end Sample

/-- Any text but the empty one is the name of a slot. -/
theorem puts_stores (hk : k ≠ "") {w : Value}
    (h : Node.assigned [] (Sample.assignment k v) = .ok w) :
    Stores k w (Sample.puts k v) [(k, w)] := by
  let node := Sample.puts k v
  have hnamed : (Sample.assignment k v).field "key" = .ok (some (.text k)) := rfl
  have hitems : (node.get "assignments").elements = .ok ([] ++ Sample.assignment k v :: []) := rfl
  have hacted : executeSetSlot (Sample.alone node) node [] = .ok (.goTo none [(k, w)] []) := by
    have hassign := assign_named hnamed hk (.ofSlots [])
    rw [executeSetSlot_eq hitems, List.nil_append, List.foldlM_cons, hassign]
    simp only [Draft.ofSlots, h]
    rfl
  exact .assigned rfl hitems rfl hnamed hk h (List.forall_mem_nil _) hacted

/-- Exactly the paths of one step stand in single braces and are read back: under every other slot
that there may be, `{k}` comes to the text of what was stored as `k`. -/
theorem stored_read_back_iff (k : String) :
    ((hole k).Fits ∧ ∀ v node after, Stores k v node after → v.isNull = false →
      fillText (holeText k) (.object after) false = v.toText) ↔ IsName k := by
  constructor
  · rintro ⟨hfits, hread⟩
    have hk : k ≠ "" := by
      rintro rfl
      exact hfits.1 rfl
    exact isName_of_fillText hfits (hread _ _ _ (puts_stores (v := .bool true) hk rfl) rfl)
  · intro hk
    exact ⟨hk.fits, fun v node after hstores hnull => hk.fillText_of_value hstores.get? hnull⟩

theorem order_number_read_back :
    IsName "order-no" ∧
      fillText (holeText "order-no") (.object [("order-no", .int 7)]) false = .ok "7" := by
  have hname : IsName "order-no" := by decide +kernel
  have hstores : Stores "order-no" (.int 7) (Sample.puts "order-no" (.int 7))
      [("order-no", .int 7)] := puts_stores (by decide) rfl
  have hread := ((stored_read_back_iff "order-no").2 hname).2 _ _ _ hstores rfl
  exact ⟨hname, hread.trans (by decide +kernel)⟩

/-- A name with a dot is stored under, but a template takes it for a path of two steps. -/
theorem dotted_name_not_read_back :
    (hole "user.name").Fits ∧
      Stores "user.name" (.text "Ann") (Sample.puts "user.name" (.text "Ann"))
        [("user.name", .text "Ann")] ∧
      (Value.text "Ann").toText = .ok "Ann" ∧
      fillText (holeText "user.name") (.object [("user.name", .text "Ann")]) false =
        .ok "\x7buser.name\x7d" :=
  ⟨by decide, puts_stores (by decide) rfl, rfl, rfl⟩

end Dialogue.Slot
