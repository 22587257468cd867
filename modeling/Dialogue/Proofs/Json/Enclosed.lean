import Dialogue.Proofs.Json.Suffix
import Dialogue.Proofs.Json.Written
import Dialogue.Proofs.Text.Blank
import Dialogue.Slot.Coercion
/-!
What is read as a list or an object stands between its brackets, and all that is read can be
written.
-/
namespace Dialogue.Json

open Dialogue.Text

variable {depth : Nat} {cursor after : Cursor} {v : Value} {items : List Value}
  {fields : List (String × Value)} {cs : List Char}

/-- The value can be written, whatever the style. -/
def Prints (v : Value) : Prop := ∀ style depth, ∃ cs, writeValue style depth v = .ok cs

section Closing

theorem cons_skip_one {c : Char} (h : cursor.rest.head? = some c) :
    c :: (cursor.skip 1).rest = cursor.rest := by
  obtain ⟨rest, hrest⟩ := List.head?_eq_some_iff.1 h
  rw [Cursor.skip, hrest]
  rfl

theorem readItems_closes (h : readItems depth cursor = .ok (items, after)) :
    ']' :: after.rest <:+ cursor.rest := by
  induction depth generalizing cursor items with
  | zero => cases h
  | succ depth ih =>
      obtain ⟨v, afterValue, hv, ⟨-, hclose, rfl⟩ | ⟨others, -, hothers⟩⟩ := readItems_cases h
      · rw [cons_skip_one hclose]
        exact afterValue.skipGaps_suffix.trans ((leaves depth).value hv)
      · exact (ih hothers).trans (afterValue.pastMark_suffix.trans ((leaves depth).value hv))

theorem readFields_closes (h : readFields depth cursor = .ok (fields, after)) :
    '\x7d' :: after.rest <:+ cursor.rest := by
  induction depth generalizing cursor fields with
  | zero => cases h
  | succ depth ih =>
      obtain ⟨cs, key, afterKey, v, afterValue, hcs, hkey, hv, hrest⟩ := readFields_cases h
      have hvalue := (leaves depth).fieldValue hcs hkey hv
      obtain ⟨-, hclose, rfl⟩ | ⟨others, -, hothers⟩ := hrest
      · rw [cons_skip_one hclose]
        exact afterValue.skipGaps_suffix.trans hvalue
      · exact (ih hothers).trans (afterValue.pastMark_suffix.trans hvalue)

theorem readConstant?_leaf (h : readConstant? cursor = some (v, after)) :
    v.isBranch = false ∧ Prints v := by
  obtain ⟨⟨name, found⟩, hmem, h⟩ := List.exists_of_findSome?_eq_some h
  dsimp only at h
  split at h
  · cases h
    simp only [constants, List.mem_cons, List.not_mem_nil, or_false, Prod.mk.injEq] at hmem
    rcases hmem with ⟨-, rfl⟩ | ⟨-, rfl⟩ | ⟨-, rfl⟩ | ⟨-, rfl⟩ | ⟨-, rfl⟩ | ⟨-, rfl⟩ <;>
      exact ⟨rfl, fun _ _ => ⟨_, rfl⟩⟩
  · cases h

/-- A number is an integer that is not too long, or a float. -/
theorem readNumber?_cases (h : readNumber? cursor = some (.ok (v, after))) :
    (∃ n : Int, v = .int n ∧ n.natAbs < 10 ^ Numeral.maxDigits) ∨ ∃ x, v = .float x := by
  unfold readNumber? at h
  extract_lets negative start whole afterWhole fraction afterFraction n at h
  split at h
  · cases h
  split at h
  split at h
  · split at h
    · cases h
    · rename_i hlength
      cases h
      refine .inl ⟨_, rfl, ?_⟩
      have hbound := (decimalValue_lt whole).trans_le
        (Nat.pow_le_pow_right (by decide) (Nat.le_of_not_lt hlength))
      split <;> simpa [n] using hbound
  · cases h
    exact .inr ⟨_, rfl⟩

/-- A list or an object begins with one bracket and ends with the other. -/
inductive Enclosed (text rest : List Char) : Value → Prop where
  | list {items : List Value} (opens : text.head? = some '[') (closes : ']' :: rest <:+ text) :
      Enclosed text rest (.list items)
  | object {fields : Mapping Value} (opens : text.head? = some '\x7b')
      (closes : '\x7d' :: rest <:+ text) : Enclosed text rest (.object fields)

theorem readValue_enclosed (h : readValue depth cursor = .ok (v, after))
    (hv : v.isBranch = true) : Enclosed cursor.rest after.rest v := by
  cases depth with
  | zero => cases h
  | succ depth =>
      cases readValue_cases h with
      | text opens _ => cases hv
      | emptyList opens closes =>
          exact .list (by rw [opens]; rfl) (cons_skip_one closes ▸ Cursor.opened_suffix opens _)
      | list opens read =>
          exact .list (by rw [opens]; rfl)
            ((readItems_closes read).trans (Cursor.opened_suffix opens _))
      | emptyObject opens closes =>
          exact .object (by rw [opens]; rfl) (cons_skip_one closes ▸ Cursor.opened_suffix opens _)
      | object opens read =>
          exact .object (by rw [opens]; rfl)
            ((readFields_closes read).trans (Cursor.opened_suffix opens _))
      | constant read =>
          rw [(readConstant?_leaf read).1] at hv
          cases hv
      | number read =>
          obtain ⟨n, rfl, -⟩ | ⟨x, rfl⟩ := readNumber?_cases read
          · cases hv
          · cases hv

theorem isBlank_of_isGap {c : Char} (h : isGap c = true) : isBlank c = true := by
  simp only [isGap, Bool.or_eq_true, decide_eq_true_eq] at h
  rcases h with ((rfl | rfl) | rfl) | rfl <;> decide

end Closing

section Whole

theorem of_readChars (h : readChars cs = .ok v) :
    ∃ after, readValue (cs.length + 1) (skipGaps 0 cs) = .ok (v, after) ∧
      after.skipGaps.rest = [] := by
  unfold readChars at h
  split at h
  · cases h
  · obtain ⟨⟨found, after⟩, hfound, h⟩ := exists_of_bind_ok h
    dsimp only at h
    split at h
    · rename_i hend
      cases h
      exact ⟨after, hfound, List.isEmpty_iff.1 hend⟩
    · cases h

theorem readChars_of_read (h : read (String.ofList cs) = .ok v) : readChars cs = .ok v := by
  rw [read, String.toList_ofList] at h
  cases hchars : readChars cs with
  | error refusal =>
      rw [hchars] at h
      cases h
  | ok found =>
      rw [hchars] at h
      cases h
      rfl

/-- A text that writes no value has a wrong place, or an integer that is too long. -/
theorem read_error_cases {text : String} {fault : Fault} (h : read text = .error fault) :
    (∃ e, fault = .invalidJson e) ∨ ∃ digits, fault = .malformed (.longInteger digits) := by
  unfold read at h
  cases hread : readChars text.toList with
  | ok v =>
      rw [hread] at h
      cases h
  | error refusal =>
      rw [hread] at h
      cases h
      cases refusal with
      | «at» complaint position => exact .inl ⟨_, rfl⟩
      | longInteger digits => exact .inr ⟨_, rfl⟩

theorem isGap_of_skipGaps_eq_nil {position : Nat} (h : (skipGaps position cs).rest = []) :
    IsGap cs := by
  fun_induction skipGaps position cs with
  | case1 position => exact isGap_nil
  | case2 position c cs hc ih => exact List.forall_mem_cons.2 ⟨hc, ih h⟩
  | case3 position c cs hc => cases h

theorem skipGaps_of_head (h : ∀ c ∈ cs.head?, isBlank c = false) : skipGaps 0 cs = ⟨0, cs⟩ := by
  have hgap : ∀ c ∈ cs.head?, isGap c = false := fun c hc =>
    Bool.eq_false_iff.2 fun hgap => Bool.false_ne_true ((h c hc).symm.trans (isBlank_of_isGap hgap))
  exact skipGaps_eq isGap_nil hgap 0

/-- Without blanks around it nothing is left behind a list or an object. -/
theorem enclosed_of_read (h : read (String.ofList cs) = .ok v) (hcs : Trimmed cs)
    (hv : v.isBranch = true) : Enclosed cs [] v := by
  obtain ⟨after, hread, hend⟩ := of_readChars (readChars_of_read h)
  rw [skipGaps_of_head hcs.head] at hread
  have henclosed := readValue_enclosed hread hv
  have hnothing : after.rest = [] := by
    by_contra hne
    obtain ⟨c, hc⟩ := Option.ne_none_iff_exists'.1 (mt List.getLast?_eq_none_iff.1 hne)
    obtain ⟨closing, hsuffix⟩ : ∃ closing, closing :: after.rest <:+ cs := by
      cases henclosed with
      | list _ closes => exact ⟨_, closes⟩
      | object _ closes => exact ⟨_, closes⟩
    have hlast : cs.getLast? = some c := by
      obtain ⟨front, rfl⟩ := hsuffix
      rw [List.getLast?_append_of_ne_nil _ (List.cons_ne_nil _ _), List.getLast?_cons, hc]
      rfl
    have hgap := isGap_of_skipGaps_eq_nil hend c (List.mem_of_getLast? hc)
    exact Bool.false_ne_true ((hcs.last c hlast).symm.trans (isBlank_of_isGap hgap))
  rwa [hnothing] at henclosed

/-- An opening bracket is read as the beginning of a list or an object. -/
theorem isBranch_of_read (h : read (String.ofList cs) = .ok v)
    (hcs : cs.head? = some '\x7b' ∨ cs.head? = some '[') : v.isBranch = true := by
  have hhead : ∀ c ∈ cs.head?, isBlank c = false := by
    intro c hc
    rcases hcs with hcs | hcs
    · rw [hcs] at hc
      cases hc
      decide
    · rw [hcs] at hc
      cases hc
      decide
  obtain ⟨after, hread, -⟩ := of_readChars (readChars_of_read h)
  rw [skipGaps_of_head hhead] at hread
  rcases hcs with hcs | hcs
  · obtain ⟨rest, rfl⟩ := List.head?_eq_some_iff.1 hcs
    simp only [readValue] at hread
    split at hread
    · cases hread
      rfl
    · obtain ⟨fields, -, hread⟩ := exists_of_bind_ok hread
      cases hread
      rfl
  · obtain ⟨rest, rfl⟩ := List.head?_eq_some_iff.1 hcs
    simp only [readValue] at hread
    split at hread
    · cases hread
      rfl
    · obtain ⟨items, -, hread⟩ := exists_of_bind_ok hread
      cases hread
      rfl

end Whole

section Printing

theorem writeItems_eq_ok (h : ∀ v ∈ items, Prints v) (style : Style) (depth : Nat) :
    ∃ cs, writeItems style depth items = .ok cs := by
  induction items with
  | nil => exact ⟨_, rfl⟩
  | cons v rest ih =>
      obtain ⟨cs, hcs⟩ := h v (.head rest) style depth
      obtain ⟨more, hmore⟩ := ih fun w hw => h w (.tail v hw)
      cases rest with
      | nil => exact ⟨_, by rw [writeItems, hcs]; rfl⟩
      | cons w rest => exact ⟨_, by rw [writeItems, hcs, hmore]; rfl; nofun⟩

theorem writeFields_eq_ok (h : ∀ field ∈ fields, Prints field.2) (style : Style) (depth : Nat) :
    ∃ cs, writeFields style depth fields = .ok cs := by
  induction fields with
  | nil => exact ⟨_, rfl⟩
  | cons field rest ih =>
      obtain ⟨key, v⟩ := field
      obtain ⟨cs, hcs⟩ := h (key, v) (.head rest) style depth
      obtain ⟨more, hmore⟩ := ih fun w hw => h w (.tail _ hw)
      cases rest with
      | nil => exact ⟨_, by rw [writeFields, hcs]; rfl⟩
      | cons w rest => exact ⟨_, by rw [writeFields, hcs, hmore]; rfl; nofun⟩

theorem prints_list (h : ∀ v ∈ items, Prints v) : Prints (.list items) := fun style depth => by
  obtain ⟨cs, hcs⟩ := writeItems_eq_ok h style (depth + 1)
  exact ⟨_, by rw [writeValue, hcs]; rfl⟩

theorem prints_object (h : ∀ field ∈ fields, Prints field.2) : Prints (.object fields) :=
  fun style depth => by
    obtain ⟨cs, hcs⟩ := writeFields_eq_ok h style (depth + 1)
    exact ⟨_, by rw [writeValue, hcs]; rfl⟩

theorem prints_int {n : Int} (h : n.natAbs < 10 ^ Numeral.maxDigits) : Prints (.int n) :=
  fun style depth => by
    obtain ⟨s, hs⟩ := Numeral.exists_print h
    exact ⟨_, by rw [writeValue, hs]; rfl⟩

/-- What the readers find can be written, with as many steps left. -/
structure Printed (depth : Nat) : Prop where
  value {cursor after : Cursor} {v : Value} (h : readValue depth cursor = .ok (v, after)) : Prints v
  items {cursor after : Cursor} {items : List Value}
    (h : readItems depth cursor = .ok (items, after)) : ∀ v ∈ items, Prints v
  fields {cursor after : Cursor} {fields : List (String × Value)}
    (h : readFields depth cursor = .ok (fields, after)) : ∀ field ∈ fields, Prints field.2

theorem readValue_prints {depth : Nat} (hprinted : Printed depth)
    (h : readValue (depth + 1) cursor = .ok (v, after)) : Prints v := by
  cases readValue_cases h with
  | text _ _ => exact fun _ _ => ⟨_, rfl⟩
  | emptyList _ _ => exact prints_list (List.forall_mem_nil _)
  | list _ read => exact prints_list (hprinted.items read)
  | emptyObject _ _ => exact prints_object (List.forall_mem_nil _)
  | object _ read =>
      exact prints_object fun field hfield =>
        hprinted.fields read field (Mapping.mem_of_mem_ofEntries hfield)
  | constant read => exact (readConstant?_leaf read).2
  | number read =>
      obtain ⟨n, rfl, hn⟩ | ⟨x, rfl⟩ := readNumber?_cases read
      · exact prints_int hn
      · exact fun _ _ => ⟨_, rfl⟩

theorem printed (depth : Nat) : Printed depth := by
  induction depth with
  | zero => exact ⟨nofun, nofun, nofun⟩
  | succ depth ih =>
      refine ⟨readValue_prints ih, fun {cursor after items} h => ?_,
        fun {cursor after fields} h => ?_⟩
      · obtain ⟨v, afterValue, hv, ⟨rfl, -⟩ | ⟨others, rfl, hothers⟩⟩ := readItems_cases h
        · exact List.forall_mem_singleton.2 (ih.value hv)
        · exact List.forall_mem_cons.2 ⟨ih.value hv, ih.items hothers⟩
      · obtain ⟨cs, key, afterKey, v, afterValue, -, -, hv, hrest⟩ := readFields_cases h
        obtain ⟨rfl, -⟩ | ⟨others, rfl, hothers⟩ := hrest
        · exact List.forall_mem_singleton.2 (ih.value hv)
        · exact List.forall_mem_cons.2 ⟨ih.value hv, ih.fields hothers⟩

/-- What is read can be written. -/
theorem prints_of_read (h : read (String.ofList cs) = .ok v) : Prints v := by
  obtain ⟨after, hread, -⟩ := of_readChars (readChars_of_read h)
  exact (printed _).value hread

end Printing

end Dialogue.Json
