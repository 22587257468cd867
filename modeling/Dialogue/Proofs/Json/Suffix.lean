import Dialogue.Proofs.Json.Ascii
import Dialogue.Proofs.Json.Number
import Dialogue.Proofs.Program
/-!
How much of a text its readers take. Each leaves an end of what it began with, and a quoted text
says no more than what stands between its quotes, and all of that only if nothing is escaped.
-/
namespace Dialogue.Json

open Dialogue.Text

/-- Between quotes `body` says `text`: the same, if it is inert, or less. -/
def Says (body text : List Char) : Prop :=
  text = body ∧ (∀ c ∈ body, isInert c = true) ∨ text.length < body.length

section Texts

variable {body text cs : List Char} {c : Char} {after : Cursor}

theorem Says.length_le (h : Says body text) : text.length ≤ body.length := by
  rcases h with ⟨rfl, -⟩ | h
  · exact Nat.le_refl _
  · exact Nat.le_of_lt h

theorem Says.inert (h : Says body text) (hc : isInert c = true) : Says (c :: body) (c :: text) := by
  rcases h with ⟨rfl, hinert⟩ | h
  · exact .inl ⟨rfl, List.forall_mem_cons.2 ⟨hc, hinert⟩⟩
  · exact .inr (Nat.succ_lt_succ h)

/-- The front of the text, up to a quote that is left out, says `text`. -/
def SaysUpTo (cs text : List Char) (after : Cursor) : Prop :=
  ∃ body, cs = body ++ '"' :: after.rest ∧ Says body text

/-- One character is read for at least two of an escape. -/
theorem saysUpTo_escaped (front : List Char) (hfront : 2 ≤ front.length)
    {read : Except Refusal (List Char × Cursor)}
    (hread : ∀ {text after}, read = .ok (text, after) → SaysUpTo cs text after)
    (h : (do let (s, cursor) ← read; return (c :: s, cursor)) = .ok (text, after)) :
    SaysUpTo (front ++ cs) text after := by
  obtain ⟨⟨said, last⟩, hsaid, htext⟩ := exists_of_bind_ok h
  cases htext
  obtain ⟨body, rfl, htold⟩ := hread hsaid
  have hlength := htold.length_le
  refine ⟨front ++ body, (List.append_assoc _ _ _).symm, .inr ?_⟩
  simp only [List.length_cons, List.length_append]
  omega

theorem readText_saysUpTo {start position : Nat}
    (h : readText start position cs = .ok (text, after)) : SaysUpTo cs text after := by
  fun_induction readText start position cs generalizing text after with
  | case1 | case3 | case4 | case5 | case9 | case12 | case13 | case14 => cases h
  | case2 position cs =>
      cases h
      exact ⟨[], rfl, .inl ⟨rfl, nofun⟩⟩
  | case6 position a b c d e f g h' next cs high hhigh hsurrogate low hlow hlow' ih =>
      exact saysUpTo_escaped ['\\', 'u', a, b, c, d, '\\', 'u', e, f, g, h']
        (by simp) ih h
  | case7 position a b c d e f g h' next cs high hhigh hsurrogate low hlow hlow' ih =>
      exact saysUpTo_escaped ['\\', 'u', a, b, c, d] (by simp) ih h
  | case8 position a b c d e f g h' next cs high hhigh hsurrogate ih =>
      exact saysUpTo_escaped ['\\', 'u', a, b, c, d] (by simp) ih h
  | case10 position a b c d next cs hpair code hcode ih =>
      exact saysUpTo_escaped ['\\', 'u', a, b, c, d] (by simp) ih h
  | case11 position c cs hpair hcode plain hplain ih =>
      exact saysUpTo_escaped ['\\', c] (by simp) ih h
  | case15 position c cs hquote hend hpair hcode hescape hcontrol ih =>
      obtain ⟨⟨said, last⟩, hsaid, htext⟩ := exists_of_bind_ok h
      cases htext
      obtain ⟨body, rfl, htold⟩ := ih hsaid
      have hc : c ≠ '\\' := by
        rintro rfl
        cases hcs : body ++ '"' :: after.rest with
        | nil => exact hend rfl hcs
        | cons d ds => exact hescape d ds rfl hcs
      exact ⟨c :: body, rfl, htold.inert (by simpa [isInert, hc] using ⟨by omega, hquote⟩)⟩

theorem SaysUpTo.suffix (h : SaysUpTo cs text after) : after.rest <:+ cs := by
  obtain ⟨body, rfl, -⟩ := h
  exact ⟨body ++ ['"'], List.append_cons body '"' after.rest ▸ rfl⟩

theorem SaysUpTo.length_lt (h : SaysUpTo cs text after) : text.length < cs.length := by
  obtain ⟨body, rfl, htold⟩ := h
  have hlength := htold.length_le
  simp only [List.length_append, List.length_cons]
  omega

end Texts

section Values

theorem skipGaps_suffix (position : Nat) (cs : List Char) : (skipGaps position cs).rest <:+ cs := by
  fun_induction skipGaps position cs with
  | case1 position => exact List.suffix_refl _
  | case2 position c cs hc ih => exact ih.trans (List.suffix_cons c cs)
  | case3 position c cs hc => exact List.suffix_refl _

theorem Cursor.skipGaps_suffix (cursor : Cursor) : cursor.skipGaps.rest <:+ cursor.rest :=
  Json.skipGaps_suffix _ _

/-- After a mark that opens something. -/
theorem Cursor.opened_suffix {cursor : Cursor} {mark : Char} {cs : List Char}
    (h : cursor.rest = mark :: cs) (position : Nat) :
    (Json.skipGaps position cs).rest <:+ cursor.rest :=
  h ▸ (Json.skipGaps_suffix position cs).trans (List.suffix_cons mark cs)

theorem Cursor.skip_suffix (cursor : Cursor) (n : Nat) : (cursor.skip n).rest <:+ cursor.rest :=
  List.drop_suffix n cursor.rest

theorem cutSign_suffix (cs : List Char) : (Decimal.cutSign cs).2 <:+ cs := by
  unfold Decimal.cutSign
  split
  · exact List.suffix_cons _ _
  · exact List.suffix_cons _ _
  · exact List.suffix_refl _

theorem cutExponent_suffix (isDigit : Char → Bool) (cs : List Char) :
    (Decimal.cutExponent isDigit cs).2 <:+ cs := by
  unfold Decimal.cutExponent
  split
  · rename_i c more
    split
    · have hdigits := (List.dropWhile_suffix isDigit).trans (cutSign_suffix more)
      dsimp only
      split
      · exact List.suffix_refl _
      · exact hdigits.trans (List.suffix_cons c more)
    · exact List.suffix_refl _
  · exact List.suffix_refl _

variable {cursor after : Cursor} {v : Value}

theorem readNumber?_suffix (h : readNumber? cursor = some (.ok (v, after))) :
    after.rest <:+ cursor.rest := by
  unfold readNumber? at h
  extract_lets negative start whole afterWhole fraction afterFraction n at h
  have hstart : start.rest <:+ cursor.rest := by
    unfold start
    split
    · exact cursor.skip_suffix 1
    · exact List.suffix_refl _
  have hfraction : afterFraction.rest <:+ start.rest := by
    unfold afterFraction
    split
    · exact start.skip_suffix _
    · exact (afterWhole.skip_suffix _).trans (start.skip_suffix _)
  have hrest := cutExponent_suffix isAsciiDigit afterFraction.rest
  split at h
  · cases h
  split at h
  rename_i exponent rest hcut
  rw [hcut] at hrest
  suffices hafter : after.rest = rest from hafter ▸ hrest.trans (hfraction.trans hstart)
  split at h
  · split at h
    · cases h
    · cases h
      rfl
  · cases h
    rfl

theorem readConstant?_suffix (h : readConstant? cursor = some (v, after)) :
    after.rest <:+ cursor.rest := by
  obtain ⟨⟨name, found⟩, -, h⟩ := List.exists_of_findSome?_eq_some h
  dsimp only at h
  split at h
  · cases h
    exact cursor.skip_suffix _
  · cases h

theorem readItems_cases {depth : Nat} {items : List Value}
    (h : readItems (depth + 1) cursor = .ok (items, after)) :
    ∃ v afterValue, readValue depth cursor = .ok (v, afterValue) ∧
      (items = [v] ∧ afterValue.skipGaps.rest.head? = some ']' ∧ after = afterValue.skipGaps.skip 1 ∨
        ∃ others, items = v :: others ∧
          readItems depth (afterValue.skipGaps.skip 1).skipGaps = .ok (others, after)) := by
  obtain ⟨⟨v, afterValue⟩, hv, h⟩ := exists_of_bind_ok h
  refine ⟨v, afterValue, hv, ?_⟩
  dsimp only at h
  split at h
  · rename_i hnext
    cases h
    exact .inl ⟨rfl, by rw [hnext]; rfl, rfl⟩
  · obtain ⟨⟨others, last⟩, hothers, h⟩ := exists_of_bind_ok h
    cases h
    exact .inr ⟨others, rfl, hothers⟩
  · cases h

theorem readFields_cases {depth : Nat} {fields : List (String × Value)}
    (h : readFields (depth + 1) cursor = .ok (fields, after)) :
    ∃ cs key afterKey v afterValue, cursor.rest = '"' :: cs ∧
      readText cursor.position (cursor.position + 1) cs = .ok (key, afterKey) ∧
      readValue depth (afterKey.skipGaps.skip 1).skipGaps = .ok (v, afterValue) ∧
      (fields = [(String.ofList key, v)] ∧ afterValue.skipGaps.rest.head? = some '}' ∧
          after = afterValue.skipGaps.skip 1 ∨
        ∃ others, fields = (String.ofList key, v) :: others ∧
          readFields depth (afterValue.skipGaps.skip 1).skipGaps = .ok (others, after)) := by
  unfold readFields at h
  split at h
  · rename_i cs hcs
    obtain ⟨⟨key, afterKey⟩, hkey, h⟩ := exists_of_bind_ok h
    dsimp only at h
    split at h
    · cases h
    · obtain ⟨⟨v, afterValue⟩, hv, h⟩ := exists_of_bind_ok h
      refine ⟨cs, key, afterKey, v, afterValue, hcs, hkey, hv, ?_⟩
      dsimp only at h
      split at h
      · rename_i hnext
        cases h
        exact .inl ⟨rfl, by rw [hnext]; rfl, rfl⟩
      · obtain ⟨⟨others, last⟩, hothers, h⟩ := exists_of_bind_ok h
        cases h
        exact .inr ⟨others, rfl, hothers⟩
      · cases h
  · cases h

/-- Past a mark and the blanks around it. -/
theorem Cursor.pastMark_suffix (cursor : Cursor) :
    (cursor.skipGaps.skip 1).skipGaps.rest <:+ cursor.rest :=
  (Cursor.skipGaps_suffix _).trans ((Cursor.skip_suffix _ 1).trans cursor.skipGaps_suffix)

/-- What the readers leave, with as many steps left. -/
structure Leaves (depth : Nat) : Prop where
  value {cursor after : Cursor} {v : Value} (h : readValue depth cursor = .ok (v, after)) :
    after.rest <:+ cursor.rest
  items {cursor after : Cursor} {items : List Value}
    (h : readItems depth cursor = .ok (items, after)) : after.rest <:+ cursor.rest
  fields {cursor after : Cursor} {fields : List (String × Value)}
    (h : readFields depth cursor = .ok (fields, after)) : after.rest <:+ cursor.rest

/-- What a value can be read from, one case for each way to begin. -/
inductive Found (depth : Nat) (cursor : Cursor) : Value → Cursor → Prop where
  | text {cs text : List Char} {after : Cursor} (opens : cursor.rest = '"' :: cs)
      (read : readText cursor.position (cursor.position + 1) cs = .ok (text, after)) :
      Found depth cursor (.text (String.ofList text)) after
  | emptyList {cs : List Char} (opens : cursor.rest = '[' :: cs)
      (closes : (skipGaps (cursor.position + 1) cs).rest.head? = some ']') :
      Found depth cursor (.list []) ((skipGaps (cursor.position + 1) cs).skip 1)
  | list {cs : List Char} {items : List Value} {after : Cursor} (opens : cursor.rest = '[' :: cs)
      (read : readItems depth (skipGaps (cursor.position + 1) cs) = .ok (items, after)) :
      Found depth cursor (.list items) after
  | emptyObject {cs : List Char} (opens : cursor.rest = '{' :: cs)
      (closes : (skipGaps (cursor.position + 1) cs).rest.head? = some '}') :
      Found depth cursor (.object []) ((skipGaps (cursor.position + 1) cs).skip 1)
  | object {cs : List Char} {fields : List (String × Value)} {after : Cursor}
      (opens : cursor.rest = '{' :: cs)
      (read : readFields depth (skipGaps (cursor.position + 1) cs) = .ok (fields, after)) :
      Found depth cursor (.object (Mapping.ofEntries fields)) after
  | constant {v : Value} {after : Cursor} (read : readConstant? cursor = some (v, after)) :
      Found depth cursor v after
  | number {v : Value} {after : Cursor} (read : readNumber? cursor = some (.ok (v, after))) :
      Found depth cursor v after

theorem readValue_cases {depth : Nat} (h : readValue (depth + 1) cursor = .ok (v, after)) :
    Found depth cursor v after := by
  unfold readValue at h
  split at h
  · rename_i cs hcs
    obtain ⟨⟨text, last⟩, htext, h⟩ := exists_of_bind_ok h
    cases h
    exact .text hcs htext
  · rename_i cs hcs
    dsimp only at h
    split at h
    · rename_i hclose
      cases h
      exact .emptyList hcs hclose
    · obtain ⟨⟨items, last⟩, hitems, h⟩ := exists_of_bind_ok h
      cases h
      exact .list hcs hitems
  · rename_i cs hcs
    dsimp only at h
    split at h
    · rename_i hclose
      cases h
      exact .emptyObject hcs hclose
    · obtain ⟨⟨fields, last⟩, hfields, h⟩ := exists_of_bind_ok h
      cases h
      exact .object hcs hfields
  · split at h
    · rename_i hconstant
      cases h
      exact .constant hconstant
    · cases hnumber : readNumber? cursor with
      | none =>
          rw [hnumber] at h
          cases h
      | some found =>
          rw [hnumber] at h
          exact .number (hnumber.trans (congrArg some h))

theorem readValue_suffix {depth : Nat} (hleaves : Leaves depth)
    (h : readValue (depth + 1) cursor = .ok (v, after)) : after.rest <:+ cursor.rest := by
  cases readValue_cases h with
  | text opens read =>
      rw [opens]
      exact (readText_saysUpTo read).suffix.trans (List.suffix_cons _ _)
  | emptyList opens _ => exact (Cursor.skip_suffix _ 1).trans (Cursor.opened_suffix opens _)
  | list opens read => exact (hleaves.items read).trans (Cursor.opened_suffix opens _)
  | emptyObject opens _ => exact (Cursor.skip_suffix _ 1).trans (Cursor.opened_suffix opens _)
  | object opens read => exact (hleaves.fields read).trans (Cursor.opened_suffix opens _)
  | constant read => exact readConstant?_suffix read
  | number read => exact readNumber?_suffix read

theorem Leaves.fieldValue {depth : Nat} (hleaves : Leaves depth) {cs key : List Char}
    {afterKey afterValue : Cursor} (hcs : cursor.rest = '"' :: cs)
    (hkey : readText cursor.position (cursor.position + 1) cs = .ok (key, afterKey))
    (hv : readValue depth (afterKey.skipGaps.skip 1).skipGaps = .ok (v, afterValue)) :
    afterValue.rest <:+ cursor.rest := by
  have hvalue := (hleaves.value hv).trans afterKey.pastMark_suffix
  have hopening := (readText_saysUpTo hkey).suffix.trans (List.suffix_cons '"' cs)
  exact hcs ▸ hvalue.trans hopening

theorem leaves (depth : Nat) : Leaves depth := by
  induction depth with
  | zero => exact ⟨nofun, nofun, nofun⟩
  | succ depth ih =>
      refine ⟨readValue_suffix ih, fun {cursor after items} h => ?_,
        fun {cursor after fields} h => ?_⟩
      · obtain ⟨v, afterValue, hv, ⟨-, -, rfl⟩ | ⟨others, -, hothers⟩⟩ := readItems_cases h
        · exact (Cursor.skip_suffix _ 1).trans (afterValue.skipGaps_suffix.trans (ih.value hv))
        · exact (ih.items hothers).trans (afterValue.pastMark_suffix.trans (ih.value hv))
      · obtain ⟨cs, key, afterKey, v, afterValue, hcs, hkey, hv, hrest⟩ := readFields_cases h
        have hvalue := ih.fieldValue hcs hkey hv
        obtain ⟨-, -, rfl⟩ | ⟨others, -, hothers⟩ := hrest
        · exact (Cursor.skip_suffix _ 1).trans (afterValue.skipGaps_suffix.trans hvalue)
        · exact (ih.fields hothers).trans (afterValue.pastMark_suffix.trans hvalue)

/-- The keys of an object are no longer than the text of its fields. -/
theorem length_key_lt {depth : Nat} {fields : List (String × Value)}
    (h : readFields depth cursor = .ok (fields, after)) :
    ∀ field ∈ fields, field.1.length < cursor.rest.length := by
  induction depth generalizing cursor fields with
  | zero => cases h
  | succ depth ih =>
      obtain ⟨cs, key, afterKey, v, afterValue, hcs, hkey, hv, hrest⟩ := readFields_cases h
      have hlength : (String.ofList key).length < cursor.rest.length := by
        have hkeyLength := (readText_saysUpTo hkey).length_lt
        rw [hcs, String.length_ofList, List.length_cons]
        omega
      obtain ⟨rfl, -⟩ | ⟨others, rfl, hothers⟩ := hrest
      · exact List.forall_mem_singleton.2 hlength
      · have hsuffix := afterValue.pastMark_suffix.trans ((leaves depth).fieldValue hcs hkey hv)
        refine List.forall_mem_cons.2 ⟨hlength, fun field hfield => ?_⟩
        exact (ih hothers field hfield).trans_le hsuffix.length_le

end Values

end Dialogue.Json
