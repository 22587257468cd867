import Dialogue.Proofs.Json.Enclosed
import Dialogue.Proofs.Slot.Literal
import Dialogue.Proofs.Slot.Stored
/-!
What a text that is assigned to a slot stands for, and the one kind of text that stands for nothing.
-/
namespace Dialogue.Slot

open Dialogue.Text

/-- The text without the blanks at its ends. -/
def core (s : String) : List Char := strip s.toList

def word (b : Bool) : String := if b then "true" else "false"

/-- The text stands for the list or the object that it writes in JSON, for the boolean or the number
that it writes, blanks around them aside, or else for itself. -/
inductive Stands (s : String) : Value → Prop where
  | branch {v : Value} (json : Json.read (String.ofList (core s)) = .ok v)
      (branch : v.isBranch = true) : Stands s v
  | boolean {b : Bool} (same : lower (core s) = (word b).toList) : Stands s (.bool b)
  | number {l : Json.Literal} {v : Value} (number : IsNumber l) (same : core s = l.chars)
      (value : l.value = .ok v) : Stands s v
  | itself (branch : ∀ v, v.isBranch = true → Json.read (String.ofList (core s)) ≠ .ok v)
      (boolean : ∀ b, lower (core s) ≠ (word b).toList)
      (number : ∀ l, IsNumber l → core s ≠ l.chars) : Stands s (.text s)

/-- The text writes an integer of more digits than can be read. -/
def Overlong (s : String) : Prop :=
  ∃ l, IsNumber l ∧ IsWhole l ∧ core s = l.chars ∧ Numeral.maxDigits < l.whole.length

variable {s : String} {v : Value} {l : Json.Literal}

section Reading

theorem trimmed_core (s : String) : Trimmed (core s) := trimmed_strip s.toList

theorem looksLikeJson_of_enclosed {cs : List Char} (h : Json.Enclosed cs [] v) :
    looksLikeJson cs = true := by
  cases h with
  | list opens closes =>
      obtain ⟨front, rfl⟩ := closes
      simp [looksLikeJson, isEnclosed, opens]
  | object opens closes =>
      obtain ⟨front, rfl⟩ := closes
      simp [looksLikeJson, isEnclosed, opens]

theorem head_of_looksLikeJson {cs : List Char} (h : looksLikeJson cs = true) :
    cs.head? = some '\x7b' ∨ cs.head? = some '[' := by
  simp only [looksLikeJson, isEnclosed, Bool.or_eq_true, Bool.and_eq_true, decide_eq_true_eq] at h
  exact h.imp And.left And.left

theorem isBooleanWord_iff {cs : List Char} :
    Condition.isBooleanWord (String.ofList cs) = true ↔ ∃ b, lower cs = (word b).toList := by
  have hword (w : String) : Condition.lowerText (String.ofList cs) = w ↔ lower cs = w.toList := by
    rw [Condition.lowerText, String.toList_ofList, ← String.toList_inj, String.toList_ofList]
  simp [Condition.isBooleanWord, hword, word, or_comm]

/-- A word does not begin with a bracket, whatever its case. -/
theorem looksLikeJson_of_word {cs : List Char} {b : Bool} (h : lower cs = (word b).toList) :
    looksLikeJson cs = false := by
  rw [Bool.eq_false_iff]
  intro hjson
  rcases head_of_looksLikeJson hjson with hhead | hhead
  · obtain ⟨rest, rfl⟩ := List.head?_eq_some_iff.1 hhead
    have hlower : (lower ('\x7b' :: rest)).head? = some '\x7b' := rfl
    rw [h] at hlower
    cases b <;> cases hlower
  · obtain ⟨rest, rfl⟩ := List.head?_eq_some_iff.1 hhead
    have hlower : (lower ('[' :: rest)).head? = some '[' := rfl
    rw [h] at hlower
    cases b <;> cases hlower

theorem coerceText_branch (hread : Json.read (String.ofList (core s)) = .ok v)
    (hv : v.isBranch = true) : coerceText s = .ok v := by
  have hjson := looksLikeJson_of_enclosed (Json.enclosed_of_read hread (trimmed_core s) hv)
  unfold coerceText
  simp only
  rw [← core, if_pos hjson, hread]
  rfl

theorem coerceText_boolean {b : Bool} (h : lower (core s) = (word b).toList) :
    coerceText s = .ok (.bool b) := by
  unfold coerceText
  simp only
  rw [← core, if_neg (Bool.eq_false_iff.1 (looksLikeJson_of_word h)),
    if_pos (isBooleanWord_iff.2 ⟨b, h⟩)]
  rw [Condition.saysTrue, Condition.lowerText, String.toList_ofList, h, String.ofList_toList]
  cases b <;> rfl

theorem coerceText_integer (h : IsNumber l) (hwhole : IsWhole l) (hs : core s = l.chars) :
    coerceText s = do return .int (← Numeral.ofSignedDigits l.negative l.whole) := by
  unfold coerceText
  simp only
  rw [← core, hs, h.looksLikeJson_chars, h.isBooleanWord_chars, h.isInteger_iff.2 hwhole,
    h.parse_eq hwhole]
  rfl

theorem coerceText_float (h : IsNumber l) (hnot : ¬ IsWhole l) (hs : core s = l.chars) :
    coerceText s = .ok (.float (Decimal.signed l.negative
      (Decimal.toFloat (decimalValue (l.whole ++ l.fraction)) l.power))) := by
  unfold coerceText
  simp only
  rw [← core, hs, h.looksLikeJson_chars, h.isBooleanWord_chars,
    Bool.eq_false_iff.2 (mt h.isInteger_iff.1 hnot), h.isFloat_chars hnot, h.parse?_eq]
  rfl

theorem coerceText_number (h : IsNumber l) (hs : core s = l.chars) (hv : l.value = .ok v) :
    coerceText s = .ok v := by
  unfold Json.Literal.value at hv
  split at hv
  · rename_i hwhole
    split at hv
    · cases hv
    · rename_i hlength
      cases hv
      rw [coerceText_integer h hwhole hs, Numeral.ofSignedDigits, Numeral.ofDigits,
        if_neg hlength]
      rfl
  · rename_i hnot
    cases hv
    exact coerceText_float h hnot hs

theorem coerceText_overlong (h : IsNumber l) (hwhole : IsWhole l) (hs : core s = l.chars)
    (hlong : Numeral.maxDigits < l.whole.length) :
    coerceText s = .error (.malformed (.longInteger l.whole.length)) := by
  rw [coerceText_integer h hwhole hs, Numeral.ofSignedDigits, Numeral.ofDigits, if_pos hlong]
  rfl

theorem coerceText_itself
    (hbranch : ∀ v, v.isBranch = true → Json.read (String.ofList (core s)) ≠ .ok v)
    (hboolean : ∀ b, lower (core s) ≠ (word b).toList)
    (hnumber : ∀ l, IsNumber l → core s ≠ l.chars) : coerceText s = .ok (.text s) := by
  have hword : ¬ Condition.isBooleanWord (String.ofList (core s)) = true := fun h => by
    obtain ⟨b, hb⟩ := isBooleanWord_iff.1 h
    exact hboolean b hb
  have hinteger : ¬ isInteger (core s) = true := fun h => by
    obtain ⟨l, hl, -, hs⟩ := exists_of_isInteger h
    exact hnumber l hl hs
  have hfloat : ¬ isFloat (core s) = true := fun h => by
    obtain ⟨l, hl, -, hs⟩ := exists_of_isFloat h
    exact hnumber l hl hs
  unfold coerceText
  simp only
  rw [← core, if_neg hword, if_neg hinteger, if_neg hfloat]
  split
  · rename_i hjson
    cases hread : Json.read (String.ofList (core s)) with
    | error fault => rfl
    | ok v =>
        have hv := Json.isBranch_of_read hread (head_of_looksLikeJson hjson)
        exact absurd hread (hbranch v hv)
  · rfl

theorem Stands.coerceText_eq (h : Stands s v) : coerceText s = .ok v := by
  cases h with
  | branch json branch => exact coerceText_branch json branch
  | boolean same => exact coerceText_boolean same
  | number number same value => exact coerceText_number number same value
  | itself branch boolean number => exact coerceText_itself branch boolean number

theorem Overlong.coerceText_eq (h : Overlong s) :
    ∃ n, coerceText s = .error (.malformed (.longInteger n)) := by
  obtain ⟨l, hl, hwhole, hs, hlong⟩ := h
  exact ⟨_, coerceText_overlong hl hwhole hs hlong⟩

theorem value_cases (l : Json.Literal) :
    (∃ v, l.value = .ok v) ∨ IsWhole l ∧ Numeral.maxDigits < l.whole.length := by
  unfold Json.Literal.value
  split
  · rename_i hwhole
    split
    · rename_i hlong
      exact .inr ⟨hwhole, hlong⟩
    · exact .inl ⟨_, rfl⟩
  · exact .inl ⟨_, rfl⟩

/-- Every text stands for something, but for integers of too many digits. -/
theorem stands_or_overlong (s : String) : (∃ v, Stands s v) ∨ Overlong s := by
  by_cases hbranch : ∃ v, v.isBranch = true ∧ Json.read (String.ofList (core s)) = .ok v
  · obtain ⟨v, hv, hread⟩ := hbranch
    exact .inl ⟨v, .branch hread hv⟩
  by_cases hboolean : ∃ b, lower (core s) = (word b).toList
  · obtain ⟨b, hb⟩ := hboolean
    exact .inl ⟨_, .boolean hb⟩
  by_cases hnumber : ∃ l, IsNumber l ∧ core s = l.chars
  · obtain ⟨l, hl, hs⟩ := hnumber
    rcases value_cases l with ⟨v, hv⟩ | ⟨hwhole, hlong⟩
    · exact .inl ⟨v, .number hl hs hv⟩
    · exact .inr ⟨l, hl, hwhole, hs, hlong⟩
  · exact .inl ⟨_, .itself (fun v hv hread => hbranch ⟨v, hv, hread⟩)
      (fun b hb => hboolean ⟨b, hb⟩) fun l hl hs => hnumber ⟨l, hl, hs⟩⟩

theorem Stands.not_overlong (h : Stands s v) : ¬ Overlong s := fun hlong => by
  obtain ⟨n, herror⟩ := hlong.coerceText_eq
  cases herror.symm.trans h.coerceText_eq

theorem coerceText_eq_ok_iff : coerceText s = .ok v ↔ Stands s v := by
  refine ⟨fun h => ?_, Stands.coerceText_eq⟩
  rcases stands_or_overlong s with ⟨w, hw⟩ | hlong
  · cases h.symm.trans hw.coerceText_eq
    exact hw
  · obtain ⟨n, herror⟩ := hlong.coerceText_eq
    cases herror.symm.trans h

end Reading

end Dialogue.Slot

/-!
A slot that is copied through a template. Booleans, integers, lists and objects are shown as texts
that stand for them, so the copy is what the slot was.
-/
namespace Dialogue.Json

theorem sound_compact : compact.Sound where
  comma := ⟨[], isGap_nil, rfl⟩
  colon := ⟨[], [], isGap_nil, isGap_nil, rfl⟩
  line _ := isGap_nil

end Dialogue.Json

namespace Dialogue.Slot

open Dialogue.Text Dialogue.Template

/-- Values that are shown as texts of their own: booleans, integers that are not too long, and lists
and objects that JSON can hold. -/
inductive Distinct : Value → Prop where
  | bool (b : Bool) : Distinct (.bool b)
  | int {n : Int} (short : n.natAbs < 10 ^ Numeral.maxDigits) : Distinct (.int n)
  | branch {v : Value} (branch : v.isBranch = true) (json : v.IsJson) : Distinct v

variable {v : Value} {s : String}

section Showing

theorem trimmed_enclosed {first last : Char} (hfirst : isBlank first = false)
    (hlast : isBlank last = false) (cs : List Char) : Trimmed (first :: (cs ++ [last])) := by
  have hsingle {c : Char} (hc : isBlank c = false) : Trimmed [c] :=
    trimmed_of_not_blank (by simpa using hc)
  exact trimmed_append (hsingle hfirst) (by simp) (hsingle hlast) (by simp)

/-- A list or an object is shown between its brackets. -/
theorem toText_branch (hv : v.isBranch = true) (h : v.toText = .ok s) :
    Trimmed s.toList ∧ (s.toList.head? = some '\x7b' ∨ s.toList.head? = some '[') := by
  cases v with
  | list items =>
      obtain ⟨cs, hcs, h⟩ := exists_of_bind_ok h
      cases h
      obtain ⟨inner, -, hcs⟩ := exists_of_bind_ok hcs
      cases hcs
      rw [String.toList_ofList]
      exact ⟨trimmed_enclosed (by decide) (by decide) _, .inr rfl⟩
  | object fields =>
      obtain ⟨cs, hcs, h⟩ := exists_of_bind_ok h
      cases h
      obtain ⟨inner, -, hcs⟩ := exists_of_bind_ok hcs
      cases hcs
      rw [String.toList_ofList]
      exact ⟨trimmed_enclosed (by decide) (by decide) _, .inl rfl⟩
  | _ => cases hv

theorem core_eq_self (h : Trimmed s.toList) : core s = s.toList := strip_eq_self h

theorem stands_for_branch (hv : v.isBranch = true) (hjson : v.IsJson) :
    ∃ s, v.toText = .ok s ∧ Stands s v := by
  obtain ⟨s, hwrite, hread⟩ := Json.read_write Json.sound_compact hjson
  have htext : v.toText = .ok s := by
    cases v with
    | list items => exact hwrite
    | object fields => exact hwrite
    | _ => cases hv
  refine ⟨s, htext, .branch ?_ hv⟩
  rw [core_eq_self (toText_branch hv htext).1, String.ofList_toList]
  exact hread

theorem stands_for_int {n : Int} (h : n.natAbs < 10 ^ Numeral.maxDigits) :
    ∃ s, (Value.int n).toText = .ok s ∧ Stands s (.int n) := by
  obtain ⟨s, hs⟩ := Numeral.exists_print h
  obtain ⟨l, hl, hchars, hvalue⟩ := Json.print_int hs
  have hnumber := isNumber_of_sound hl
  refine ⟨s, hs, .number hnumber ?_ hvalue⟩
  rw [core_eq_self (hchars ▸ hnumber.trimmed_chars), hchars]

/-- What the value is shown as stands for it. -/
theorem Distinct.stands (h : Distinct v) : ∃ s, v.toText = .ok s ∧ Stands s v := by
  cases h with
  | bool b => exact ⟨word b, rfl, .boolean (by cases b <;> decide)⟩
  | int short => exact stands_for_int short
  | branch branch json => exact stands_for_branch branch json

theorem Distinct.not_null (h : Distinct v) : v.isNull = false := by
  cases h with
  | branch branch json =>
      cases v with
      | null => cases branch
      | _ => rfl
  | _ => rfl

end Showing

section Copying

variable {a b : String} {slots : Slots} {assignment : Value}

/-- The assignment copies the slot `a` to the slot `b`. -/
structure Copies (assignment : Value) (a b : String) : Prop where
  key : assignment.field "key" = .ok (some (.text b))
  value : assignment.field "value" = .ok (some (.text (holeText a)))

theorem Copies.assigned_eq (h : Copies assignment a b) (slots : Slots) :
    Node.assigned slots assignment =
      fillText (holeText a) (.object slots) false >>= coerceText := by
  simp only [Node.assigned, h.value, bind, Except.bind, Option.getD_some]
  cases fillText (holeText a) (.object slots) false <;> rfl

theorem Copies.assigned_distinct (h : Copies assignment a b) (ha : IsName a)
    (hv : Mapping.get? slots a = some v) (hdistinct : Distinct v) :
    Node.assigned slots assignment = .ok v := by
  obtain ⟨s, htext, hstands⟩ := hdistinct.stands
  rw [h.assigned_eq, ha.fillText_of_value hv hdistinct.not_null, htext]
  exact hstands.coerceText_eq

/-- A node that copies a slot by its name stores what is in the slot. -/
theorem copied_as_it_was (ha : IsName a) (hb : b ≠ "") (hv : Mapping.get? slots a = some v)
    (hdistinct : Distinct v) {node : Node} (hkind : node.kind? = some .setSlot)
    (hitems : (node.get "assignments").elements = .ok [assignment]) (h : Copies assignment a b)
    (context : Node.Context) :
    node.execute context slots =
      Attempt.of (Node.leave context node none (Mapping.set slots b v) []) := by
  have hassign := Node.assign_named h.key hb (.ofSlots slots)
  rw [Node.execute, hkind]
  refine congrArg Attempt.of ?_
  rw [Node.executeSetSlot_eq hitems, List.foldlM_cons, hassign]
  simp only [Draft.ofSlots, h.assigned_distinct ha hv hdistinct]
  rfl

end Copying

namespace Sample

def pan : Value := .object [("name", .text "12\" \x7bpan\x7d\n"), ("count", .int 2)]

def cart : Value :=
  .object [("items", .list [pan]), ("gift", .bool true), ("note", .text "[1, 2]")]

theorem isJson_cart : cart.IsJson := by
  have hpan : pan.IsJson :=
    .object (by decide) (List.forall_mem_cons.2 ⟨.text _,
      List.forall_mem_singleton.2 (.int (by decide +kernel))⟩)
  exact .object (by decide) (List.forall_mem_cons.2 ⟨.list (List.forall_mem_singleton.2 hpan),
    List.forall_mem_cons.2 ⟨.bool true, List.forall_mem_singleton.2 (.text _)⟩⟩)

def copying : Node := puts "copy" (.text (holeText "cart"))

end Sample

/-- What is in the cart is copied with it, and the texts there stay texts. -/
theorem cart_copied :
    Sample.copying.execute (Sample.alone Sample.copying) [("cart", Sample.cart)] =
      Attempt.of (.ok (.goTo none [("cart", Sample.cart), ("copy", Sample.cart)] [])) :=
  copied_as_it_was (a := "cart") (b := "copy") (by decide +kernel) (by decide) rfl
    (.branch rfl Sample.isJson_cart) rfl rfl ⟨rfl, rfl⟩ (Sample.alone Sample.copying)

end Dialogue.Slot
