import Dialogue.Proofs.Decimal.Float
import Dialogue.Proofs.Json.Enclosed
/-!
Which values have a text: those without an integer that is too long to be printed, and so all that
are read from one.
-/
namespace Dialogue

/-- A float is never too long an integer. -/
theorem Decimal.natAbs_integral?_short {x : Float} {n : Int} (h : integral? x = some n) :
    n.natAbs < 10 ^ Numeral.maxDigits := by
  obtain ⟨bits, hbits, hn⟩ := natAbs_integral?_lt h
  calc
    n.natAbs < 2 ^ bits := hn
    _ ≤ 10 ^ bits := Nat.pow_le_pow_left (by decide) bits
    _ ≤ 10 ^ Numeral.maxDigits := Nat.pow_le_pow_right (by decide) (hbits.trans (by decide))

namespace Value

/-- No integer in the value has more digits than are printed. -/
inductive Writable : Value → Prop where
  | null : Writable .null
  | bool (b : Bool) : Writable (.bool b)
  | int {n : Int} (short : n.natAbs < 10 ^ Numeral.maxDigits) : Writable (.int n)
  | float (x : Float) : Writable (.float x)
  | text (s : String) : Writable (.text s)
  | list {items : List Value} (each : ∀ v ∈ items, Writable v) : Writable (.list items)
  | object {fields : Mapping Value} (each : ∀ field ∈ fields, Writable field.2) :
      Writable (.object fields)

variable {v : Value}

theorem Writable.prints (h : Writable v) : Json.Prints v := by
  induction h with
  | null | bool | float | text => exact fun style depth => ⟨_, by rw [Json.writeValue]⟩
  | int short => exact Json.prints_int short
  | list _ ih => exact Json.prints_list ih
  | object _ ih => exact Json.prints_object ih

theorem toText_branch_eq_ok (hv : v.isBranch = true) (h : Json.Prints v) :
    ∃ s, v.toText = .ok s := by
  obtain ⟨cs, hcs⟩ := h Json.compact 0
  cases v with
  | list items => exact ⟨_, congrArg (· >>= fun cs => pure (String.ofList cs)) hcs⟩
  | object fields => exact ⟨_, congrArg (· >>= fun cs => pure (String.ofList cs)) hcs⟩
  | _ => cases hv

theorem exists_floatText (x : Float) : ∃ s, floatText x = .ok s := by
  unfold floatText
  cases hwhole : Decimal.integral? x with
  | some n => exact Numeral.exists_print (Decimal.natAbs_integral?_short hwhole)
  | none => exact ⟨_, rfl⟩

theorem Writable.toText (h : Writable v) : ∃ s, v.toText = .ok s := by
  cases h with
  | null => exact ⟨_, rfl⟩
  | bool b => exact ⟨_, rfl⟩
  | int short => exact Numeral.exists_print short
  | float x => exact exists_floatText x
  | text s => exact ⟨s, rfl⟩
  | list each => exact toText_branch_eq_ok rfl (Writable.list each).prints
  | object each => exact toText_branch_eq_ok rfl (Writable.object each).prints

end Value

namespace Json

open Value (Writable)

mutual

theorem writeValue_cases (style : Style) (depth : Nat) : (v : Value) →
    Writable v ∨ writeValue style depth v = .error (.malformed .unprintableInteger)
  | .null => .inl .null
  | .bool b => .inl (.bool b)
  | .int n => by
      by_cases hn : n.natAbs < 10 ^ Numeral.maxDigits
      · exact .inl (.int hn)
      · exact .inr (by rw [writeValue, Numeral.print_of_le (Nat.not_lt.1 hn)]; rfl)
  | .float x => .inl (.float x)
  | .text s => .inl (.text s)
  | .list items => by
      rcases writeItems_cases style (depth + 1) items with h | h
      · exact .inl (.list h)
      · exact .inr (by rw [writeValue, h]; rfl)
  | .object fields => by
      rcases writeFields_cases style (depth + 1) fields with h | h
      · exact .inl (.object h)
      · exact .inr (by rw [writeValue, h]; rfl)

theorem writeItems_cases (style : Style) (depth : Nat) : (items : List Value) →
    (∀ v ∈ items, Writable v) ∨
      writeItems style depth items = .error (.malformed .unprintableInteger)
  | [] => .inl (List.forall_mem_nil _)
  | [v] => by
      rcases writeValue_cases style depth v with h | h
      · exact .inl (List.forall_mem_singleton.2 h)
      · exact .inr (by rw [writeItems, h]; rfl)
  | v :: w :: rest => by
      rcases writeValue_cases style depth v with h | h
      · obtain ⟨cs, hcs⟩ := h.prints style depth
        rcases writeItems_cases style depth (w :: rest) with hrest | hrest
        · exact .inl (List.forall_mem_cons.2 ⟨h, hrest⟩)
        · exact .inr (by rw [writeItems, hcs, hrest]; rfl; exact List.cons_ne_nil w rest)
      · exact .inr (by rw [writeItems, h]; rfl; exact List.cons_ne_nil w rest)

theorem writeFields_cases (style : Style) (depth : Nat) : (fields : List (String × Value)) →
    (∀ field ∈ fields, Writable field.2) ∨
      writeFields style depth fields = .error (.malformed .unprintableInteger)
  | [] => .inl (List.forall_mem_nil _)
  | [(key, v)] => by
      rcases writeValue_cases style depth v with h | h
      · exact .inl (List.forall_mem_singleton.2 h)
      · exact .inr (by rw [writeFields, h]; rfl)
  | (key, v) :: field :: rest => by
      rcases writeValue_cases style depth v with h | h
      · obtain ⟨cs, hcs⟩ := h.prints style depth
        rcases writeFields_cases style depth (field :: rest) with hrest | hrest
        · exact .inl (List.forall_mem_cons.2 ⟨h, hrest⟩)
        · exact .inr (by rw [writeFields, hcs, hrest]; rfl; exact List.cons_ne_nil field rest)
      · exact .inr (by rw [writeFields, h]; rfl; exact List.cons_ne_nil field rest)

end

variable {v : Value}

theorem writable_of_prints (h : Prints v) : Writable v := by
  obtain ⟨cs, hcs⟩ := h compact 0
  rcases writeValue_cases compact 0 v with hv | hfault
  · exact hv
  · exact nomatch hcs.symm.trans hfault

theorem writable_of_read {text : String} (h : read text = .ok v) : Writable v := by
  rw [← String.ofList_toList (s := text)] at h
  exact writable_of_prints (prints_of_read h)

/-- A value has a text just if its integers have one, and otherwise the first that has none is at
fault, whichever it is. -/
theorem write_cases (style : Style) (v : Value) :
    Writable v ∧ (∃ text, write style v = .ok text) ∨
      ¬ Writable v ∧ write style v = .error (.malformed .unprintableInteger) := by
  by_cases hv : Writable v
  · obtain ⟨cs, hcs⟩ := hv.prints style 0
    exact .inl ⟨hv, _, by rw [write, hcs]; rfl⟩
  · rcases writeValue_cases style 0 v with hwritable | hfault
    · exact absurd hwritable hv
    · exact .inr ⟨hv, by rw [write, hfault]; rfl⟩

/-- The keys of an object that is read are all different. -/
theorem nodup_keys_of_read {text : String} {fields : Mapping Value}
    (h : read text = .ok (.object fields)) : (Mapping.keys fields).Nodup := by
  rw [← String.ofList_toList (s := text)] at h
  obtain ⟨after, hread, -⟩ := of_readChars (readChars_of_read h)
  cases readValue_cases hread with
  | emptyObject => exact List.nodup_nil
  | object => exact Mapping.nodup_keys_ofEntries _
  | constant read => exact nomatch (readConstant?_leaf read).1
  | number read =>
      obtain ⟨n, hn, -⟩ | ⟨x, hx⟩ := readNumber?_cases read
      · cases hn
      · cases hx

end Json

end Dialogue
