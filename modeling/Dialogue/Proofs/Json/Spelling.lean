import Dialogue.Proofs.Json.Number
import Dialogue.Proofs.Json.Quoted
/-!
The texts of a value: blanks may stand around each mark, and of two fields with one key the first
place and the last value hold. Each of these texts is read to its end.
-/
namespace Dialogue.Json

open Dialogue.Text

def IsGap (gap : List Char) : Prop := ∀ c ∈ gap, isGap c = true

mutual

/-- The text writes the value. -/
inductive Spells : List Char → Value → Prop where
  | null : Spells "null".toList .null
  | bool (b : Bool) : Spells (if b then "true".toList else "false".toList) (.bool b)
  | number {l : Literal} {v : Value} (hl : l.Sound) (hv : l.value = .ok v) : Spells l.chars v
  | text {cs text : List Char} (h : Quotes cs text) :
      Spells ('"' :: (cs ++ ['"'])) (.text (String.ofList text))
  | emptyList {gap : List Char} (hgap : IsGap gap) : Spells ('[' :: (gap ++ [']'])) (.list [])
  | list {gap cs : List Char} {items : List Value} (hgap : IsGap gap) (h : SpellsItems cs items) :
      Spells ('[' :: (gap ++ (cs ++ [']']))) (.list items)
  | emptyObject {gap : List Char} (hgap : IsGap gap) : Spells ('{' :: (gap ++ ['}'])) (.object [])
  | object {gap cs : List Char} {fields : List (String × Value)} (hgap : IsGap gap)
      (h : SpellsFields cs fields) :
      Spells ('{' :: (gap ++ (cs ++ ['}']))) (.object (Mapping.ofEntries fields))

inductive SpellsItems : List Char → List Value → Prop where
  | last {cs gap : List Char} {v : Value} (h : Spells cs v) (hgap : IsGap gap) :
      SpellsItems (cs ++ gap) [v]
  | more {cs gap rest : List Char} {v : Value} {vs : List Value} (h : Spells cs v)
      (hgap : IsGap gap) {next : List Char} (hnext : IsGap next) (hrest : SpellsItems rest vs) :
      SpellsItems (cs ++ (gap ++ ',' :: (next ++ rest))) (v :: vs)

inductive SpellsFields : List Char → List (String × Value) → Prop where
  | last {cs name before after value gap : List Char} {v : Value} (hname : Quotes cs name)
      (hbefore : IsGap before) (hafter : IsGap after) (h : Spells value v) (hgap : IsGap gap) :
      SpellsFields ('"' :: (cs ++ '"' :: (before ++ ':' :: (after ++ (value ++ gap)))))
        [(String.ofList name, v)]
  | more {cs name before after value gap : List Char} {v : Value} (hname : Quotes cs name)
      (hbefore : IsGap before) (hafter : IsGap after) (h : Spells value v) (hgap : IsGap gap)
      {next rest : List Char} {fields : List (String × Value)} (hnext : IsGap next)
      (hrest : SpellsFields rest fields) :
      SpellsFields
        ('"' :: (cs ++ '"' :: (before ++ ':' :: (after ++ (value ++ (gap ++ ',' :: (next ++ rest)))))))
        ((String.ofList name, v) :: fields)

end

/-- The text begins with a character that no value goes on with. -/
def Ends (tail : List Char) : Prop :=
  ∀ c ∈ tail.head?, isGap c = true ∨ c = ',' ∨ c = ']' ∨ c = '}'

theorem Ends.stops {tail : List Char} (h : Ends tail) : Stops tail := by
  intro c hc
  have hgap : isGap c = true → c = ' ' ∨ c = '\t' ∨ c = '\n' ∨ c = '\r' := by
    simp only [isGap, Bool.or_eq_true, decide_eq_true_eq]
    tauto
  rcases h c hc with hc | rfl | rfl | rfl
  · rcases hgap hc with rfl | rfl | rfl | rfl <;> decide
  all_goals decide

theorem ends_append {gap tail : List Char} (hgap : IsGap gap) (h : Ends tail) :
    Ends (gap ++ tail) := by
  cases gap with
  | nil => exact h
  | cons c cs =>
      rintro d ⟨⟩
      exact .inl (hgap c (by simp))

theorem skipGaps_eq {gap tail : List Char} (hgap : IsGap gap)
    (htail : ∀ c ∈ tail.head?, isGap c = false) (position : Nat) :
    skipGaps position (gap ++ tail) = ⟨position + gap.length, tail⟩ := by
  induction gap generalizing position with
  | nil =>
      cases tail with
      | nil => rfl
      | cons c cs =>
          rw [List.nil_append, skipGaps, htail c rfl]
          rfl
  | cons c cs ih =>
      rw [List.cons_append, skipGaps, hgap c (by simp), if_pos rfl,
        ih fun d hd => hgap d (by simp [hd])]
      simp
      omega

theorem skipGaps_mark {gap : List Char} (hgap : IsGap gap) {c : Char} (hc : isGap c = false)
    (position : Nat) (tail : List Char) :
    Cursor.skipGaps ⟨position, gap ++ c :: tail⟩ = ⟨position + gap.length, c :: tail⟩ :=
  skipGaps_eq hgap (by rintro d ⟨⟩; exact hc) position

/-- A value begins with an ASCII character that is neither a blank nor an end. -/
def Opens (cs : List Char) : Prop :=
  ∃ c rest, cs = c :: rest ∧ c.toNat < 128 ∧ isGap c = false ∧ c ≠ ']' ∧ c ≠ '}'

/-- A number begins with a digit, or with a sign before a digit. -/
theorem Literal.Sound.chars_cases {l : Literal} (h : l.Sound) :
    ∃ d rest, isAsciiDigit d = true ∧ (l.chars = d :: rest ∨ l.chars = '-' :: d :: rest) := by
  obtain ⟨d, rest, hwhole, hd⟩ : ∃ d rest, l.whole = d :: rest ∧ isAsciiDigit d = true := by
    rcases h.whole with hw | ⟨⟨d, ds, hw, -⟩, hdigits⟩
    · exact ⟨_, _, hw, rfl⟩
    · exact ⟨d, ds, hw, hdigits d (by simp [hw])⟩
  unfold Literal.chars
  rw [hwhole]
  cases l.negative with
  | true => exact ⟨d, _, hd, .inr rfl⟩
  | false => exact ⟨d, _, hd, .inl rfl⟩

theorem ne_of_isAsciiDigit {d c : Char} (hd : isAsciiDigit d = true)
    (hc : isAsciiDigit c = false) : d ≠ c := by
  rintro rfl
  rw [hd] at hc
  cases hc

theorem Literal.Sound.opens {l : Literal} (h : l.Sound) : Opens l.chars := by
  obtain ⟨d, rest, hd, hl | hl⟩ := h.chars_cases
  · refine ⟨d, rest, hl, ?_, ?_, ne_of_isAsciiDigit hd rfl, ne_of_isAsciiDigit hd rfl⟩
    · have := isAsciiDigit_iff.1 hd
      omega
    simp [isGap, ne_of_isAsciiDigit hd (c := ' ') rfl, ne_of_isAsciiDigit hd (c := '\t') rfl,
      ne_of_isAsciiDigit hd (c := '\n') rfl, ne_of_isAsciiDigit hd (c := '\r') rfl]
  · exact ⟨'-', _, hl, by decide⟩

theorem Spells.opens {cs : List Char} {v : Value} (h : Spells cs v) : Opens cs := by
  cases h with
  | null => exact ⟨_, _, rfl, by decide⟩
  | bool b => cases b <;> exact ⟨_, _, rfl, by decide⟩
  | number hl => exact hl.opens
  | _ => exact ⟨_, _, rfl, by decide⟩

theorem SpellsItems.opens {cs : List Char} {vs : List Value} (h : SpellsItems cs vs) : Opens cs := by
  cases h with
  | last h =>
      obtain ⟨c, rest, rfl, hc⟩ := h.opens
      exact ⟨c, _, rfl, hc⟩
  | more h =>
      obtain ⟨c, rest, rfl, hc⟩ := h.opens
      exact ⟨c, _, rfl, hc⟩

theorem SpellsFields.opens {cs : List Char} {fields : List (String × Value)}
    (h : SpellsFields cs fields) : Opens cs := by
  cases h <;> exact ⟨_, _, rfl, by decide⟩

theorem Opens.head {cs : List Char} (h : Opens cs) (tail : List Char) :
    ∀ c ∈ (cs ++ tail).head?, isGap c = false ∧ c ≠ ']' ∧ c ≠ '}' := by
  obtain ⟨c, rest, rfl, -, hc⟩ := h
  rintro d ⟨⟩
  exact hc

-- As for the quoted texts, the equations are made once.
attribute [local simp] readValue readItems readFields

theorem readValue_number (depth position : Nat) {c : Char} {rest : List Char} (hquote : c ≠ '"')
    (hlist : c ≠ '[') (hobject : c ≠ '{') (hconstant : readConstant? ⟨position, c :: rest⟩ = none) :
    readValue (depth + 1) ⟨position, c :: rest⟩ =
      (readNumber? ⟨position, c :: rest⟩).getD (.error (.at .noValue position)) := by
  simp only [readValue]
  split
  · rename_i heq
    cases heq
    exact absurd rfl hquote
  · rename_i heq
    cases heq
    exact absurd rfl hlist
  · rename_i heq
    cases heq
    exact absurd rfl hobject
  · rw [hconstant]

theorem isPrefixOf_cons_ne {c d : Char} (h : c ≠ d) (cs ds : List Char) :
    (c :: cs).isPrefixOf (d :: ds) = false := by
  simp [List.isPrefixOf, h]

theorem readConstant?_eq_none {position : Nat} {text : List Char}
    (h : ∀ name ∈ ["null", "true", "false", "NaN", "Infinity", "-Infinity"],
      name.toList.isPrefixOf text = false) : readConstant? ⟨position, text⟩ = none := by
  unfold readConstant?
  rw [List.findSome?_eq_none_iff]
  rintro ⟨name, v⟩ hmem
  have hname : name ∈ constants.map Prod.fst := List.mem_map_of_mem hmem
  simp [h name hname]

/-- Numbers are none of the constants, which begin with letters after the sign. -/
theorem Literal.Sound.readConstant?_eq {l : Literal} (h : l.Sound) (position : Nat)
    (tail : List Char) : readConstant? ⟨position, l.chars ++ tail⟩ = none := by
  apply readConstant?_eq_none
  obtain ⟨d, rest, hd, hl | hl⟩ := h.chars_cases
  · have hne {c : Char} (hc : isAsciiDigit c = false) (cs : List Char) :
        (c :: cs).isPrefixOf (d :: (rest ++ tail)) = false :=
      isPrefixOf_cons_ne (ne_of_isAsciiDigit hd hc).symm _ _
    rw [hl, List.cons_append]
    simp only [List.mem_cons, List.not_mem_nil, or_false]
    rintro name (rfl | rfl | rfl | rfl | rfl | rfl) <;> exact hne rfl _
  · have hne (cs : List Char) : ('-' :: 'I' :: cs).isPrefixOf ('-' :: d :: (rest ++ tail)) = false :=
      isPrefixOf_cons_ne (ne_of_isAsciiDigit hd rfl).symm _ _
    rw [hl, List.cons_append, List.cons_append]
    simp only [List.mem_cons, List.not_mem_nil, or_false]
    rintro name (rfl | rfl | rfl | rfl | rfl | rfl)
    iterate 5 exact isPrefixOf_cons_ne (by decide) _ _
    exact hne _

theorem Literal.Sound.readValue_eq {l : Literal} (h : l.Sound) {v : Value} (hv : l.value = .ok v)
    (depth position : Nat) {tail : List Char} (htail : Ends tail) :
    readValue (depth + 1) ⟨position, l.chars ++ tail⟩ =
      .ok (v, ⟨position + l.chars.length, tail⟩) := by
  have hnumber := h.readNumber?_eq htail.stops position
  have hconstant := h.readConstant?_eq position tail
  rw [hv] at hnumber
  obtain ⟨d, rest, hd, hl | hl⟩ := h.chars_cases
  · rw [hl, List.cons_append] at hnumber hconstant ⊢
    rw [readValue_number _ _ (ne_of_isAsciiDigit hd rfl) (ne_of_isAsciiDigit hd rfl)
      (ne_of_isAsciiDigit hd rfl) hconstant, hnumber]
    rfl
  · rw [hl, List.cons_append] at hnumber hconstant ⊢
    rw [readValue_number _ _ (by decide) (by decide) (by decide) hconstant, hnumber]
    rfl

theorem readValue_text {cs text : List Char} (h : Quotes cs text) (depth position : Nat)
    (tail : List Char) :
    readValue (depth + 1) ⟨position, '"' :: (cs ++ '"' :: tail)⟩ =
      .ok (.text (String.ofList text), ⟨position + cs.length + 2, tail⟩) := by
  simp only [readValue, h.readText_eq, bind, Except.bind, pure, Except.pure]
  refine congrArg (fun place => Except.ok (Value.text (String.ofList text), Cursor.mk place tail)) ?_
  omega

theorem readValue_emptyList {gap : List Char} (hgap : IsGap gap) (depth position : Nat)
    (tail : List Char) :
    readValue (depth + 1) ⟨position, '[' :: (gap ++ ']' :: tail)⟩ =
      .ok (.list [], ⟨position + gap.length + 2, tail⟩) := by
  have hskip : skipGaps (position + 1) (gap ++ ']' :: tail) = _ :=
    skipGaps_mark hgap rfl (position + 1) tail
  simp only [readValue, hskip, List.head?_cons, ↓reduceIte, Cursor.skip, List.drop_one, List.tail_cons]
  refine congrArg (fun place => Except.ok (Value.list [], Cursor.mk place tail)) ?_
  omega

theorem readValue_list {gap cs : List Char} (hgap : IsGap gap) (hopens : Opens cs)
    {depth position : Nat} {tail : List Char} {found : Except Refusal (List Value × Cursor)}
    (h : readItems depth ⟨position + 1 + gap.length, cs ++ tail⟩ = found) :
    readValue (depth + 1) ⟨position, '[' :: (gap ++ (cs ++ tail))⟩ =
      found.map fun found => (.list found.1, found.2) := by
  have hskip := skipGaps_eq hgap (fun c hc => (hopens.head tail c hc).1) (position + 1)
  have hhead : ¬ (cs ++ tail).head? = some ']' := fun hc => (hopens.head tail _ hc).2.1 rfl
  simp only [readValue, hskip, hhead, ↓reduceIte, h]
  cases found <;> rfl

theorem readValue_emptyObject {gap : List Char} (hgap : IsGap gap) (depth position : Nat)
    (tail : List Char) :
    readValue (depth + 1) ⟨position, '{' :: (gap ++ '}' :: tail)⟩ =
      .ok (.object [], ⟨position + gap.length + 2, tail⟩) := by
  have hskip : skipGaps (position + 1) (gap ++ '}' :: tail) = _ :=
    skipGaps_mark hgap rfl (position + 1) tail
  simp only [readValue, hskip, List.head?_cons, ↓reduceIte, Cursor.skip, List.drop_one, List.tail_cons]
  refine congrArg (fun place => Except.ok (Value.object [], Cursor.mk place tail)) ?_
  omega

theorem readValue_object {gap cs : List Char} (hgap : IsGap gap) (hopens : Opens cs)
    {depth position : Nat} {tail : List Char}
    {found : Except Refusal (List (String × Value) × Cursor)}
    (h : readFields depth ⟨position + 1 + gap.length, cs ++ tail⟩ = found) :
    readValue (depth + 1) ⟨position, '{' :: (gap ++ (cs ++ tail))⟩ =
      found.map fun found => (.object (Mapping.ofEntries found.1), found.2) := by
  have hskip := skipGaps_eq hgap (fun c hc => (hopens.head tail c hc).1) (position + 1)
  have hhead : ¬ (cs ++ tail).head? = some '}' := fun hc => (hopens.head tail _ hc).2.2 rfl
  simp only [readValue, hskip, hhead, ↓reduceIte, h]
  cases found <;> rfl

theorem ends_gap {gap : List Char} (hgap : IsGap gap) {c : Char} (hc : c = ',' ∨ c = ']' ∨ c = '}')
    (tail : List Char) : Ends (gap ++ c :: tail) :=
  ends_append hgap (by rintro d ⟨⟩; exact .inr hc)

section Entries

variable {gap next more tail : List Char} {depth : Nat} {cursor last : Cursor} {position : Nat}

theorem readItems_last {v : Value}
    (h : readValue depth cursor = .ok (v, ⟨position, gap ++ ']' :: tail⟩)) (hgap : IsGap gap) :
    readItems (depth + 1) cursor = .ok ([v], ⟨position + gap.length + 1, tail⟩) := by
  have hmark := skipGaps_mark hgap (c := ']') rfl position tail
  simp only [readItems, h, bind, Except.bind, hmark]
  rfl

theorem readItems_more {v : Value} {vs : List Value}
    (h : readValue depth cursor = .ok (v, ⟨position, gap ++ ',' :: (next ++ more)⟩))
    (hgap : IsGap gap) (hnext : IsGap next) (hmore : ∀ c ∈ more.head?, isGap c = false)
    (hrest : readItems depth ⟨position + gap.length + 1 + next.length, more⟩ = .ok (vs, last)) :
    readItems (depth + 1) cursor = .ok (v :: vs, last) := by
  have hmark := skipGaps_mark hgap (c := ',') rfl position (next ++ more)
  have hskip : Cursor.skipGaps ⟨position + gap.length + 1, next ++ more⟩ = _ :=
    skipGaps_eq hnext hmore _
  simp only [readItems, h, bind, Except.bind, hmark, Cursor.skip, List.drop_one, List.tail_cons,
    hskip, hrest]
  rfl

/-- Between the name of a field and its value stands a colon. -/
theorem skipGaps_colon {before after value : List Char} (hbefore : IsGap before)
    (hafter : IsGap after) (hvalue : ∀ c ∈ value.head?, isGap c = false) (place : Nat) :
    Cursor.skipGaps ⟨place, before ++ ':' :: (after ++ value)⟩ =
        ⟨place + before.length, ':' :: (after ++ value)⟩ ∧
      Cursor.skipGaps ⟨place + before.length + 1, after ++ value⟩ =
        ⟨place + before.length + 1 + after.length, value⟩ :=
  ⟨skipGaps_mark hbefore rfl place _, skipGaps_eq hafter hvalue _⟩

theorem readFields_last {v : Value} {cs name before after value : List Char}
    (hname : Quotes cs name) (hbefore : IsGap before) (hafter : IsGap after)
    (hopens : ∀ c ∈ value.head?, isGap c = false) {place : Nat}
    (h : readValue depth
      ⟨position + 1 + cs.length + 1 + before.length + 1 + after.length, value⟩ =
      .ok (v, ⟨place, gap ++ '}' :: tail⟩)) (hgap : IsGap gap) :
    readFields (depth + 1) ⟨position, '"' :: (cs ++ '"' :: (before ++ ':' :: (after ++ value)))⟩ =
      .ok ([(String.ofList name, v)], ⟨place + gap.length + 1, tail⟩) := by
  have hmark := skipGaps_mark hgap (c := '}') rfl place tail
  obtain ⟨hcolon, hskip⟩ := skipGaps_colon hbefore hafter hopens (position + 1 + cs.length + 1)
  simp only [readFields, hname.readText_eq, bind, Except.bind, hcolon, List.head?_cons,
    Cursor.skip, List.drop_one, List.tail_cons, hskip, ne_eq, not_true_eq_false, ↓reduceIte, h,
    hmark]
  rfl

theorem readFields_more {v : Value} {cs name before after value : List Char}
    (hname : Quotes cs name) (hbefore : IsGap before) (hafter : IsGap after)
    (hopens : ∀ c ∈ value.head?, isGap c = false) {place : Nat}
    (h : readValue depth
      ⟨position + 1 + cs.length + 1 + before.length + 1 + after.length, value⟩ =
      .ok (v, ⟨place, gap ++ ',' :: (next ++ more)⟩)) (hgap : IsGap gap) (hnext : IsGap next)
    (hmore : ∀ c ∈ more.head?, isGap c = false) {fields : List (String × Value)}
    (hrest : readFields depth ⟨place + gap.length + 1 + next.length, more⟩ = .ok (fields, last)) :
    readFields (depth + 1) ⟨position, '"' :: (cs ++ '"' :: (before ++ ':' :: (after ++ value)))⟩ =
      .ok ((String.ofList name, v) :: fields, last) := by
  have hmark := skipGaps_mark hgap (c := ',') rfl place (next ++ more)
  have hskip : Cursor.skipGaps ⟨place + gap.length + 1, next ++ more⟩ = _ :=
    skipGaps_eq hnext hmore _
  obtain ⟨hcolon, hvalue⟩ := skipGaps_colon hbefore hafter hopens (position + 1 + cs.length + 1)
  simp only [readFields, hname.readText_eq, bind, Except.bind, hcolon, List.head?_cons,
    Cursor.skip, List.drop_one, List.tail_cons, hvalue, ne_eq, not_true_eq_false, ↓reduceIte, h,
    hmark, hskip, hrest]
  rfl

end Entries

/-- The reader reads what is written to its end, if it may take enough steps. -/
theorem reads (depth : Nat) :
    (∀ {cs v}, Spells cs v → cs.length ≤ depth → ∀ position {tail}, Ends tail →
      readValue depth ⟨position, cs ++ tail⟩ = .ok (v, ⟨position + cs.length, tail⟩)) ∧
    (∀ {cs items}, SpellsItems cs items → cs.length < depth → ∀ position tail,
      readItems depth ⟨position, cs ++ ']' :: tail⟩ =
        .ok (items, ⟨position + cs.length + 1, tail⟩)) ∧
    ∀ {cs fields}, SpellsFields cs fields → cs.length < depth → ∀ position tail,
      readFields depth ⟨position, cs ++ '}' :: tail⟩ =
        .ok (fields, ⟨position + cs.length + 1, tail⟩) := by
  induction depth with
  | zero =>
      refine ⟨fun h hlength => ?_, nofun, nofun⟩
      obtain ⟨c, rest, rfl, -⟩ := h.opens
      simp at hlength
  | succ depth ih =>
      obtain ⟨ihValue, ihItems, ihFields⟩ := ih
      refine ⟨?_, ?_, ?_⟩
      · intro cs v h hlength position tail htail
        cases h with
        | null => rfl
        | bool b => cases b <;> rfl
        | number hl hv => exact hl.readValue_eq hv depth position htail
        | text h =>
            simpa [Nat.add_assoc] using readValue_text h depth position tail
        | emptyList hgap =>
            simpa [Nat.add_assoc] using readValue_emptyList hgap depth position tail
        | emptyObject hgap =>
            simpa [Nat.add_assoc] using readValue_emptyObject hgap depth position tail
        | @list gap cs items hgap h =>
            have hinner := ihItems h (by simp at hlength; omega) (position + 1 + gap.length) tail
            have := readValue_list hgap h.opens hinner
            simp only [List.cons_append, List.append_assoc, List.nil_append, this]
            simp [Except.map]
            omega
        | @object gap cs fields hgap h =>
            have hinner := ihFields h (by simp at hlength; omega) (position + 1 + gap.length) tail
            have := readValue_object hgap h.opens hinner
            simp only [List.cons_append, List.append_assoc, List.nil_append, this]
            simp [Except.map]
            omega
      · intro cs items h hlength position tail
        cases h with
        | last h hgap =>
            rename_i cs gap v
            have hvalue := ihValue h (by simp at hlength; omega) position (ends_gap hgap (c := ']') (by simp) tail)
            have := readItems_last hvalue hgap
            simp only [List.append_assoc, this]
            simp
            omega
        | more h hgap hnext hrest =>
            rename_i cs gap rest v vs next
            have hvalue := ihValue h (by simp at hlength; omega) position
              (ends_gap hgap (c := ',') (by simp) (next ++ (rest ++ ']' :: tail)))
            have hmore := ihItems hrest (by simp at hlength; omega) (position + cs.length + gap.length + 1 + next.length) tail
            have := readItems_more hvalue hgap hnext (fun c hc => (hrest.opens.head _ c hc).1) hmore
            simp only [List.append_assoc, List.cons_append, this]
            simp
            omega
      · intro cs fields h hlength position tail
        cases h with
        | last hname hbefore hafter h hgap =>
            rename_i cs name before after value gap v
            simp only [List.length_cons, List.length_append] at hlength
            have hvalue := ihValue h (by omega)
              (position + 1 + cs.length + 1 + before.length + 1 + after.length)
              (ends_gap hgap (c := '}') (by simp) tail)
            have hread := readFields_last hname hbefore hafter
              (fun c hc => (h.opens.head _ c hc).1) hvalue hgap
            simp only [List.append_assoc, List.cons_append, hread]
            simp
            omega
        | more hname hbefore hafter h hgap hnext hrest =>
            rename_i cs name before after value gap v next rest fields
            simp only [List.length_cons, List.length_append] at hlength
            have hvalue := ihValue h (by omega)
              (position + 1 + cs.length + 1 + before.length + 1 + after.length)
              (ends_gap hgap (c := ',') (by simp) (next ++ (rest ++ '}' :: tail)))
            have hmore := ihFields hrest (by omega) (position + 1 + cs.length + 1 + before.length +
              1 + after.length + value.length + gap.length + 1 + next.length) tail
            have hread := readFields_more hname hbefore hafter
              (fun c hc => (h.opens.head _ c hc).1) hvalue hgap hnext
              (fun c hc => (hrest.opens.head _ c hc).1) hmore
            simp only [List.append_assoc, List.cons_append, hread]
            simp
            omega

/-- A text of a value between blanks is read as the value. -/
theorem Spells.read_eq {cs : List Char} {v : Value} (h : Spells cs v) {before after : List Char}
    (hbefore : IsGap before) (hafter : IsGap after) :
    read (String.ofList (before ++ (cs ++ after))) = .ok v := by
  obtain ⟨c, rest, hcs, hascii, hc⟩ := h.opens
  have hmark : (before ++ (cs ++ after)).head? ≠ some (Char.ofNat 0xfeff) := by
    cases before with
    | nil =>
        rw [hcs]
        rintro ⟨⟩
        exact absurd hascii (by decide)
    | cons d ds =>
        rintro ⟨⟩
        exact absurd (hbefore _ List.mem_cons_self) (by decide)
  have hstart := skipGaps_eq hbefore (fun d hd => (h.opens.head after d hd).1) 0
  have hlength : cs.length ≤ (before ++ (cs ++ after)).length + 1 := by
    simp only [List.length_append]
    omega
  have htail : Ends (after ++ []) := ends_append hafter (by rintro c ⟨⟩)
  have hvalue := (reads _).1 h hlength (0 + before.length) htail
  have hend : skipGaps _ (after ++ []) = _ :=
    skipGaps_eq hafter (by rintro c ⟨⟩) (0 + before.length + cs.length)
  rw [List.append_nil] at hvalue hend
  simp only [read, readChars, String.toList_ofList, if_neg hmark, hstart, hvalue, bind, Except.bind,
    Cursor.skipGaps, hend]
  rfl

end Dialogue.Json
