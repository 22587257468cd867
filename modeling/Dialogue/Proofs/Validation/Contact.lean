import Dialogue.Proofs.Text
import Dialogue.Proofs.Text.Blank
import Dialogue.Proofs.Validation.Undated
/-!
Email addresses and phone numbers. An answer is accepted as one if it is written like one from its
first character to its last, or has a line break after that and nothing else.
-/
namespace Dialogue

namespace Text

variable {sep : Char} {cs a : List Char}

/-- The parts of a text with the separator between them are the text again. -/
theorem intercalate_splitAll (sep : Char) (cs : List Char) :
    [sep].intercalate (splitAll sep cs) = cs := by
  induction cs with
  | nil => rfl
  | cons c cs ih =>
      obtain ⟨part, parts, hparts⟩ := List.exists_cons_of_ne_nil (splitAll_ne_nil sep cs)
      rw [hparts] at ih
      by_cases hc : c = sep
      · rw [splitAll, if_pos hc, hparts, List.intercalate_cons_cons, ih, hc]
        rfl
      · rw [splitAll, if_neg hc, hparts, ← ih]
        cases parts with
        | nil => rfl
        | cons next rest => rfl

theorem splitAll_append_of_not_mem (h : sep ∉ a) (b : List Char) :
    splitAll sep (a ++ sep :: b) = a :: splitAll sep b := by
  rw [splitAll_append, splitAll_of_not_mem h, List.singleton_append]

end Text

namespace Rule

open Dialogue.Text

/-- From `least` to `most` decimal digits. -/
structure Digits (least most : Nat) (cs : List Char) : Prop where
  each : ∀ c ∈ cs, isDecimal c = true
  enough : least ≤ cs.length
  few : cs.length ≤ most

/-- Part of an address: some characters, none of them a blank or `@`. -/
structure Part (cs : List Char) : Prop where
  nonempty : cs ≠ []
  each : ∀ c ∈ cs, isBlank c = false ∧ c ≠ '@'

inductive PhoneNumber : List Char → Prop where
  | groups {a b c : List Char} (first : Digits 2 3 a) (middle : Digits 3 4 b)
      (last : Digits 4 4 c) : PhoneNumber (a ++ '-' :: (b ++ '-' :: c))

inductive EmailAddress : List Char → Prop where
  | parts {name domain suffix : List Char} (name_part : Part name) (domain_part : Part domain)
      (suffix_part : Part suffix) : EmailAddress (name ++ '@' :: (domain ++ '.' :: suffix))

section Checks

variable {least most : Nat} {cs line : List Char} {c : Char}

theorem digitsOf_iff : digitsOf least most cs = true ↔ Digits least most cs := by
  simp only [digitsOf, Bool.and_eq_true, List.all_eq_true, decide_eq_true_eq]
  exact ⟨fun ⟨⟨heach, henough⟩, hfew⟩ => ⟨heach, henough, hfew⟩,
    fun h => ⟨⟨h.each, h.enough⟩, h.few⟩⟩

theorem isAddressChar_iff : isAddressChar c = true ↔ isBlank c = false ∧ c ≠ '@' := by
  simp [isAddressChar]

theorem hasInnerDot_iff : hasInnerDot cs = true ↔
    ∃ domain suffix, domain ≠ [] ∧ suffix ≠ [] ∧ cs = domain ++ '.' :: suffix := by
  cases cs with
  | nil => simp [hasInnerDot]
  | cons c cs =>
      rw [hasInnerDot, List.contains_iff_mem]
      constructor
      · intro hdot
        obtain ⟨middle, tail, htail⟩ := List.append_of_mem hdot
        have hne : cs ≠ [] := by
          rintro rfl
          cases hdot
        have hcs : cs = middle ++ '.' :: (tail ++ [cs.getLast hne]) := by
          simpa [htail] using (List.dropLast_append_getLast hne).symm
        exact ⟨c :: middle, tail ++ [cs.getLast hne], by simp, by simp, congrArg (c :: ·) hcs⟩
      · rintro ⟨domain, suffix, hdomain, hsuffix, heq⟩
        obtain ⟨d, middle, rfl⟩ := List.exists_cons_of_ne_nil hdomain
        obtain ⟨-, hcs⟩ := List.cons.inj heq
        rw [hcs]
        show '.' ∈ (middle ++ '.' :: suffix).dropLast
        rw [List.dropLast_append_of_ne_nil (by simp), List.dropLast_cons_of_ne_nil hsuffix]
        simp

theorem isPhone_iff : isPhone cs = true ↔ PhoneNumber (endLine cs) := by
  unfold isPhone
  generalize endLine cs = line
  constructor
  · intro h
    have hline := intercalate_splitAll '-' line
    split at h
    · rename_i a b c hparts
      simp only [Bool.and_eq_true, digitsOf_iff] at h
      simp only [hparts, List.intercalate_cons_cons, List.intercalate_singleton,
        List.append_assoc, List.singleton_append] at hline
      rw [← hline]
      exact .groups h.1.1 h.1.2 h.2
    · cases h
  · rintro ⟨first, middle, last⟩
    have hhyphen {least most : Nat} {cs : List Char} (h : Digits least most cs) : '-' ∉ cs :=
      fun hmem => absurd (h.each _ hmem) (by decide)
    rw [splitAll_append_of_not_mem (hhyphen first), splitAll_append_of_not_mem (hhyphen middle),
      splitAll_of_not_mem (hhyphen last)]
    simp only [Bool.and_eq_true, digitsOf_iff]
    exact ⟨⟨first, middle⟩, last⟩

theorem isEmail_iff : isEmail cs = true ↔ EmailAddress (endLine cs) := by
  unfold isEmail
  generalize endLine cs = line
  constructor
  · intro h
    split at h
    · rename_i name host hcut
      simp only [Bool.and_eq_true, Bool.not_eq_true', List.isEmpty_eq_false_iff, List.all_eq_true,
        isAddressChar_iff, hasInnerDot_iff] at h
      obtain ⟨⟨⟨hsome, hname⟩, hhost⟩, domain, suffix, hdomain, hsuffix, rfl⟩ := h
      rw [eq_append_of_cut? hcut]
      exact .parts ⟨hsome, hname⟩ ⟨hdomain, fun c hc => hhost c (by simp [hc])⟩
        ⟨hsuffix, fun c hc => hhost c (by simp [hc])⟩
    · cases h
  · rintro ⟨name, domain, suffix⟩
    rw [cut?_append fun hmem => (name.each _ hmem).2 rfl]
    simp only [Bool.and_eq_true, Bool.not_eq_true', List.isEmpty_eq_false_iff, List.all_eq_true,
      isAddressChar_iff, hasInnerDot_iff]
    refine ⟨⟨⟨name.nonempty, name.each⟩, fun c hc => ?_⟩, _, _, domain.nonempty, suffix.nonempty,
      rfl⟩
    rcases List.mem_append.1 hc with hc | hc
    · exact domain.each c hc
    · rcases List.mem_cons.1 hc with rfl | hc
      · decide
      · exact suffix.each c hc

end Checks

section LineBreak

variable {cs : List Char}

theorem endLine_break (line : List Char) : endLine (line ++ ['\n']) = line := by
  simp [endLine]

theorem endLine_eq_self (h : ∀ line, cs ≠ line ++ ['\n']) : endLine cs = cs := by
  unfold endLine
  split
  · rename_i front hfront
    exact absurd (by simpa using congrArg List.reverse hfront) (h front.reverse)
  · rfl

/-- What no text with a line break at its end satisfies, the text without it may. -/
theorem endLine_iff {P : List Char → Prop} (hP : ∀ line, ¬ P (line ++ ['\n'])) :
    P (endLine cs) ↔ P cs ∨ ∃ line, P line ∧ cs = line ++ ['\n'] := by
  by_cases hbreak : ∃ line, cs = line ++ ['\n']
  · obtain ⟨line, rfl⟩ := hbreak
    simp [endLine_break, hP]
  · rw [endLine_eq_self fun line hline => hbreak ⟨line, hline⟩]
    exact ⟨.inl, fun h => h.resolve_right fun ⟨line, _, hline⟩ => hbreak ⟨line, hline⟩⟩

end LineBreak

/-- What an answer under a rule is to be written like. -/
inductive Contact where
  | email
  | phone
  deriving DecidableEq, Repr

namespace Contact

def name : Contact → String
  | .email => "email"
  | .phone => "phone number"

def Form : Contact → List Char → Prop
  | .email => EmailAddress
  | .phone => PhoneNumber

variable {contact : Contact} {cs : List Char}

theorem Form.not_blank (h : contact.Form cs) : ∀ c ∈ cs, isBlank c = false := by
  intro c hc
  cases contact with
  | email =>
      obtain ⟨name, domain, suffix⟩ := h
      simp only [List.mem_append, List.mem_cons] at hc
      rcases hc with hc | rfl | hc | rfl | hc
      · exact (name.each c hc).1
      · decide
      · exact (domain.each c hc).1
      · decide
      · exact (suffix.each c hc).1
  | phone =>
      obtain ⟨first, middle, last⟩ := h
      simp only [List.mem_append, List.mem_cons] at hc
      rcases hc with hc | rfl | hc | rfl | hc
      · exact isBlank_of_isDecimal (first.each c hc)
      · decide
      · exact isBlank_of_isDecimal (middle.each c hc)
      · decide
      · exact isBlank_of_isDecimal (last.each c hc)

theorem not_form_break (contact : Contact) (line : List Char) :
    ¬ contact.Form (line ++ ['\n']) := fun h =>
  absurd (h.not_blank '\n' (by simp)) (by decide)

end Contact

section Verdicts

variable {rule : Mapping Value} {kind : Value}

theorem truthy_of_type (h : Mapping.get? rule "type" = some kind) :
    (Value.object rule).truthy = true := by
  cases rule with
  | nil => cases h
  | cons field rest => rfl

theorem isAccepted_choice {accepts : Bool} {setting : Setting} {override : Value}
    {notice : Notice} :
    (if accepts then .accepted else reject setting override notice : Verdict).isAccepted =
      accepts := by
  cases accepts <;> rfl

theorem exists_check_contact (contact : Contact) (setting : Setting)
    (hrule : Mapping.get? rule "type" = some (.text contact.name)) (s : String) :
    ∃ verdict, check setting (.text s) (.object rule) = .ok verdict ∧
      (verdict.isAccepted = true ↔ contact.Form (endLine s.toList)) := by
  have htruthy := truthy_of_type hrule
  cases contact with
  | email =>
      refine ⟨if isEmail s.toList then .accepted else
        reject setting ((Mapping.get? rule "errorMessage").getD .null) .email, ?_, ?_⟩
      · simp only [check, htruthy, Value.field, hrule]
        rfl
      · rw [isAccepted_choice]
        exact isEmail_iff
  | phone =>
      refine ⟨if isPhone s.toList then .accepted else
        reject setting ((Mapping.get? rule "errorMessage").getD .null) .phone, ?_, ?_⟩
      · simp only [check, htruthy, Value.field, hrule]
        rfl
      · rw [isAccepted_choice]
        exact isPhone_iff

end Verdicts

/-- An email address or a phone number is accepted as it is and with a line break after it, and
nothing else is. So the rule accepts just what is written like one, except that it takes no notice
of a line break at the end. -/
theorem contacts_accepted_to_line_end (contact : Contact) (setting : Setting) {rule : Mapping Value}
    (hrule : Mapping.get? rule "type" = some (.text contact.name)) (s : String) :
    ∃ verdict, check setting (.text s) (.object rule) = .ok verdict ∧
      (verdict.isAccepted = true ↔
        contact.Form s.toList ∨ ∃ line, contact.Form line ∧ s.toList = line ++ ['\n']) ∧
      ((verdict.isAccepted = true ↔ contact.Form s.toList) ↔
        ∀ line, contact.Form line → s.toList ≠ line ++ ['\n']) := by
  obtain ⟨verdict, hcheck, hverdict⟩ := exists_check_contact contact setting hrule s
  rw [endLine_iff contact.not_form_break] at hverdict
  refine ⟨verdict, hcheck, hverdict, ?_⟩
  rw [hverdict]
  constructor
  · intro hsame line hline hs
    exact contact.not_form_break line (hs ▸ hsame.1 (.inr ⟨line, hline, hs⟩))
  · intro hnone
    exact ⟨fun h => h.resolve_right fun ⟨line, hline, hs⟩ => hnone line hline hs, .inl⟩

namespace Sample

def june : Setting := ⟨"en", ⟨2024, 6, 15⟩⟩

def phoneRule : Mapping Value := [("type", .text "phone number"), ("errorMessage", .text "Again!")]

end Sample

open Sample in
theorem number_accepted_with_line_break :
    Mapping.get? phoneRule "type" = some (.text Contact.phone.name) ∧
      ∃ verdict, check june (.text "010-1234-5678\n") (.object phoneRule) = .ok verdict ∧
        verdict.isAccepted = true := by
  have hnumber : Contact.phone.Form "010-1234-5678".toList :=
    PhoneNumber.groups (a := ['0', '1', '0']) (b := ['1', '2', '3', '4'])
      (c := ['5', '6', '7', '8']) ⟨List.all_eq_true.1 rfl, by decide, by decide⟩
      ⟨List.all_eq_true.1 rfl, by decide, by decide⟩ ⟨List.all_eq_true.1 rfl, by decide, by decide⟩
  have hrule : Mapping.get? phoneRule "type" = some (.text Contact.phone.name) := rfl
  obtain ⟨verdict, hcheck, haccepted, -⟩ :=
    contacts_accepted_to_line_end .phone june hrule "010-1234-5678\n"
  exact ⟨hrule, verdict, hcheck, haccepted.2 (.inr ⟨_, hnumber, by decide⟩)⟩

open Sample in
/-- The line break is no part of an address, and yet is accepted. -/
theorem broken_address_accepted :
    check june (.text "ann@example.com\n") (.object [("type", .text "email")]) = .ok .accepted ∧
      ¬ EmailAddress "ann@example.com\n".toList :=
  ⟨rfl, Contact.email.not_form_break "ann@example.com".toList⟩

end Rule

end Dialogue
