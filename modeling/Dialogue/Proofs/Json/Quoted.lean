import Dialogue.Json.Reader
import Dialogue.Json.Writer
/-!
Quoted texts: what they may be written as, and that all of it is read back.
-/
namespace Dialogue.Json

open Dialogue.Text

/-- The characters between two quotes, and the text that they write. -/
inductive Quotes : List Char → List Char → Prop where
  | nil : Quotes [] []
  | plain {c : Char} {cs text : List Char} (hcontrol : 32 ≤ c.toNat) (hquote : c ≠ '"')
      (hescape : c ≠ '\\') (h : Quotes cs text) : Quotes (c :: cs) (c :: text)
  | simple {c d : Char} {cs text : List Char} (hc : simpleEscape? c = some d) (h : Quotes cs text) :
      Quotes ('\\' :: c :: cs) (d :: text)
  | code {a b c d : Char} {n : Nat} {cs text : List Char} (hn : hexNumber? [a, b, c, d] = some n)
      (hhigh : isHighSurrogate n = false) (hlow : isLowSurrogate n = false) (h : Quotes cs text) :
      Quotes ('\\' :: 'u' :: a :: b :: c :: d :: cs) (Char.ofNat n :: text)
  | pair {a b c d e f g h : Char} {m n : Nat} {cs text : List Char}
      (hm : hexNumber? [a, b, c, d] = some m) (hhigh : isHighSurrogate m = true)
      (hn : hexNumber? [e, f, g, h] = some n) (hlow : isLowSurrogate n = true)
      (hrest : Quotes cs text) :
      Quotes ('\\' :: 'u' :: a :: b :: c :: d :: '\\' :: 'u' :: e :: f :: g :: h :: cs)
        (joinSurrogates m n :: text)

-- Makes the equations here, once for all the proofs that take them side by side.
attribute [local simp] readText

theorem readText_plain {c : Char} (hcontrol : 32 ≤ c.toNat) (hquote : c ≠ '"') (hescape : c ≠ '\\')
    (start position : Nat) (cs : List Char) :
    readText start position (c :: cs) =
      (readText start (position + 1) cs).map fun found => (c :: found.1, found.2) := by
  rw [readText]
  · rw [if_neg (by omega)]
    cases readText start (position + 1) cs <;> rfl
  all_goals simp_all

theorem readText_simple {c d : Char} (hc : simpleEscape? c = some d) (start position : Nat)
    (cs : List Char) :
    readText start position ('\\' :: c :: cs) =
      (readText start (position + 2) cs).map fun found => (d :: found.1, found.2) := by
  have hu : c ≠ 'u' := by
    rintro rfl
    cases hc
  rw [readText]
  · rw [hc]
    cases readText start (position + 2) cs <;> rfl
  all_goals simp_all

theorem readText_code {a b c d : Char} {n : Nat} (hn : hexNumber? [a, b, c, d] = some n)
    (hhigh : isHighSurrogate n = false) (start position : Nat) {cs : List Char} (hcs : cs ≠ []) :
    readText start position ('\\' :: 'u' :: a :: b :: c :: d :: cs) =
      (readText start (position + 6) cs).map fun found => (charOfCode n :: found.1, found.2) := by
  obtain ⟨next, rest, rfl⟩ := List.exists_cons_of_ne_nil hcs
  by_cases hpair : ∃ e f g h more last, next :: rest = '\\' :: 'u' :: e :: f :: g :: h :: more :: last
  · obtain ⟨e, f, g, h, more, last, hpair⟩ := hpair
    rw [hpair, readText]
    simp only [hn, hhigh, Bool.false_eq_true, ↓reduceIte]
    cases readText start (position + 6) ('\\' :: 'u' :: e :: f :: g :: h :: more :: last) <;> rfl
  · rw [readText]
    · simp only [hn]
      cases readText start (position + 6) (next :: rest) <;> rfl
    · intro e f g h more last hnext hrest
      exact hpair ⟨e, f, g, h, more, last, by rw [hnext, hrest]⟩

theorem readText_pair {a b c d e f g h : Char} {m n : Nat} (hm : hexNumber? [a, b, c, d] = some m)
    (hhigh : isHighSurrogate m = true) (hn : hexNumber? [e, f, g, h] = some n)
    (hlow : isLowSurrogate n = true) (start position : Nat) {cs : List Char} (hcs : cs ≠ []) :
    readText start position
        ('\\' :: 'u' :: a :: b :: c :: d :: '\\' :: 'u' :: e :: f :: g :: h :: cs) =
      (readText start (position + 12) cs).map fun found =>
        (joinSurrogates m n :: found.1, found.2) := by
  obtain ⟨next, rest, rfl⟩ := List.exists_cons_of_ne_nil hcs
  rw [readText]
  simp only [hm, hhigh, hn, hlow, ↓reduceIte]
  cases readText start (position + 12) (next :: rest) <;> rfl

/-- What is quoted is read to the closing quote. -/
theorem Quotes.readText_eq {cs text : List Char} (h : Quotes cs text) (start position : Nat)
    (tail : List Char) :
    readText start position (cs ++ '"' :: tail) =
      .ok (text, ⟨position + cs.length + 1, tail⟩) := by
  induction h generalizing position with
  | nil => rw [List.nil_append, readText] <;> rfl
  | plain hcontrol hquote hescape h ih =>
      rw [List.cons_append, readText_plain hcontrol hquote hescape, ih]
      simp [Except.map]
      omega
  | simple hc h ih =>
      rw [List.cons_append, List.cons_append, readText_simple hc, ih]
      simp [Except.map]
      omega
  | code hn hhigh hlow h ih =>
      simp only [List.cons_append]
      rw [readText_code hn hhigh _ _ (by simp), ih]
      simp [Except.map, charOfCode, hhigh, hlow]
      omega
  | pair hm hhigh hn hlow h ih =>
      simp only [List.cons_append]
      rw [readText_pair hm hhigh hn hlow _ _ (by simp), ih]
      simp [Except.map]
      omega

theorem quotes_escape (c : Char) {cs text : List Char} (h : Quotes cs text) :
    Quotes (escape c ++ cs) (c :: text) := by
  have hofNat {n : Nat} (hn : c.toNat = n) : c = Char.ofNat n := by rw [← hn, Char.ofNat_toNat]
  unfold escape
  split
  · subst c
    exact .simple rfl h
  split
  · subst c
    exact .simple rfl h
  split
  · subst c
    exact .simple rfl h
  split
  · subst c
    exact .simple rfl h
  split
  · subst c
    exact .simple rfl h
  split
  · rw [hofNat ‹_›]
    exact .simple rfl h
  split
  · rw [hofNat ‹_›]
    exact .simple rfl h
  split
  · rename_i hcontrol
    have hhex : ∀ n < 32, hexNumber? ['0', '0', hexDigit (n / 16), hexDigit (n % 16)] = some n := by
      decide
    have hc := Quotes.code (hhex c.toNat hcontrol) (by simp [isHighSurrogate]; omega)
      (by simp [isLowSurrogate]; omega) h
    rwa [Char.ofNat_toNat] at hc
  · exact .plain (by omega) ‹_› ‹_› h

theorem quotes_escaped (text : List Char) : Quotes (text.flatMap escape) text := by
  induction text with
  | nil => exact .nil
  | cons c cs ih => exact quotes_escape c ih

end Dialogue.Json
