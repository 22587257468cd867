import Dialogue.Proofs.Template.Piece
import Dialogue.Proofs.Url.Query
/-!
Percent-encoded braces in templates. Only two coded braces in a row are read as braces, so a hole
that was encoded survives in two braces on each side and not in one.
-/
namespace Dialogue.Template

open Dialogue.Text Dialogue.Url

/-- A brace as it is encoded; `x` is its last digit. -/
def code (x : Char) : List Char := ['%', '7', x]

/-- Two coded braces in a row are replaced by `new`. -/
def replaceCodes (x : Char) (new cs : List Char) : List Char :=
  replaceAll (code x ++ code x) new cs

theorem plainBraces_eq (cs : List Char) :
    plainBraces cs = replaceCodes 'D' ['\x7d', '\x7d'] (replaceCodes 'B' ['\x7b', '\x7b'] cs) := rfl

section Codes

variable {x c : Char} {new : List Char}

theorem replaceCodes_cons (h : c ≠ '%') (x : Char) (new cs : List Char) :
    replaceCodes x new (c :: cs) = c :: replaceCodes x new cs := by
  have hno : ¬ (code x ++ code x).isPrefixOf (c :: cs) = true := by
    simp [code, Ne.symm h]
  rw [replaceCodes, replaceAll, replaceFrom, if_neg hno]
  rfl

theorem replaceCodes_of_plain {cs : List Char} (h : '%' ∉ cs) (rest : List Char) :
    replaceCodes x new (cs ++ rest) = cs ++ replaceCodes x new rest := by
  induction cs with
  | nil => rfl
  | cons c cs ih =>
      simp only [List.mem_cons, not_or] at h
      rw [List.cons_append, replaceCodes_cons (Ne.symm h.1), ih h.2]
      rfl

/-- A single escape is not replaced if what comes after it is not the same escape. -/
theorem replaceCodes_escape {a b : Char} (ha : a ≠ '%') (hb : b ≠ '%') {rest : List Char}
    (h : ¬ (a = '7' ∧ b = x ∧ (code x).isPrefixOf rest = true)) :
    replaceCodes x new ('%' :: a :: b :: rest) = '%' :: a :: b :: replaceCodes x new rest := by
  have hno : ¬ (code x ++ code x).isPrefixOf ('%' :: a :: b :: rest) = true := by
    intro hp
    simp only [code, List.cons_append, List.nil_append, List.isPrefixOf, Bool.and_eq_true,
      beq_iff_eq] at hp
    exact h ⟨hp.2.1.symm, hp.2.2.1.symm, by simpa [code] using hp.2.2.2⟩
  rw [replaceCodes, replaceAll, replaceFrom, if_neg hno, ← replaceAll, ← replaceCodes,
    replaceCodes_cons ha, replaceCodes_cons hb]

theorem replaceCodes_pair (x : Char) (new rest : List Char) :
    replaceCodes x new (code x ++ (code x ++ rest)) = new ++ replaceCodes x new rest := by
  have hp : (code x ++ code x).isPrefixOf ('%' :: '7' :: x :: (code x ++ rest)) = true := by
    simp [code]
  rw [show code x ++ (code x ++ rest) = '%' :: '7' :: x :: (code x ++ rest) from rfl]
  rw [replaceCodes, replaceAll, replaceFrom, if_pos hp]
  simp [code, replaceFrom]
  rfl

theorem eq_of_upperHex {d b : Nat} (hx : hexValue? x = some d) (hb : b < 0x100)
    (hhigh : upperHex (b / 16) = '7') (hlow : upperHex (b % 16) = x) : b = 0x70 + d := by
  have h1 := hexValue?_upperHex (n := b / 16) (by omega)
  have h2 := hexValue?_upperHex (n := b % 16) (by omega)
  rw [hhigh, show hexValue? '7' = some 7 by decide, Option.some.injEq] at h1
  rw [hlow, hx, Option.some.injEq] at h2
  omega

theorem replaceCodes_octet {d b : Nat} (hx : hexValue? x = some d) (hb : b < 0x100)
    (hne : b ≠ 0x70 + d) (rest : List Char) :
    replaceCodes x new (encodeOctet b ++ rest) = encodeOctet b ++ replaceCodes x new rest := by
  have hdigit (n : Nat) (hn : n < 16) : upperHex n ≠ '%' := fun heq => by
    have h := upperHex_isUnreserved hn
    rw [heq] at h
    exact absurd h (by decide)
  refine replaceCodes_escape (hdigit _ (by omega)) (hdigit _ (by omega)) ?_
  rintro ⟨hhigh, hlow, -⟩
  exact hne (eq_of_upperHex hx hb hhigh hlow)

theorem replaceCodes_octets {d : Nat} (hx : hexValue? x = some d) {bs : List Nat}
    (hbs : ∀ b ∈ bs, b < 0x100 ∧ b ≠ 0x70 + d) (rest : List Char) :
    replaceCodes x new (bs.flatMap encodeOctet ++ rest) =
      bs.flatMap encodeOctet ++ replaceCodes x new rest := by
  induction bs with
  | nil => rfl
  | cons b bs ih =>
      obtain ⟨hb, hne⟩ := hbs b (by simp)
      rw [List.flatMap_cons, List.append_assoc, replaceCodes_octet hx hb hne,
        ih fun b hb => hbs b (by simp [hb]), List.append_assoc]

/-- A field without the brace has no code of it. -/
theorem replaceCodes_field {d : Nat} (hx : hexValue? x = some d) (hd : d < 16) {cs : List Char}
    (hcs : ∀ c ∈ cs, c.toNat ≠ 0x70 + d) (rest : List Char) :
    replaceCodes x new (encodeField cs ++ rest) = encodeField cs ++ replaceCodes x new rest := by
  induction cs with
  | nil => rfl
  | cons c cs ih =>
      rw [show c :: cs = [c] ++ cs from rfl, encodeField_append, List.append_assoc, List.append_assoc,
        ← ih fun c hc => hcs c (by simp [hc]), encodeField_singleton]
      split
      · rename_i hkept
        have hne : c ≠ '%' := by
          rintro rfl
          exact absurd hkept (by decide)
        exact replaceCodes_cons hne x new _
      · split
        · exact replaceCodes_cons (by decide) x new _
        · refine replaceCodes_octets hx (fun b hb => ?_) _
          rcases octets_cases hb with ⟨h1, h2⟩ | ⟨h1, h2⟩
          · exact ⟨by omega, fun h => hcs c (by simp) (h1.trans h)⟩
          · exact ⟨h2, by omega⟩

theorem not_code_prefix {d : Nat} (hx : hexValue? x = some d) {cs : List Char} (hsome : cs ≠ [])
    (hd : d < 16) (hcs : ∀ c ∈ cs, c.toNat ≠ 0x70 + d) (rest : List Char) :
    ¬ (code x).isPrefixOf (encodeField cs ++ rest) = true := by
  intro hp
  cases cs with
  | nil => exact hsome rfl
  | cons c cs =>
      rw [show c :: cs = [c] ++ cs from rfl, encodeField_append, List.append_assoc,
        encodeField_singleton] at hp
      split at hp
      · rename_i hkept
        simp only [code, List.cons_append, List.isPrefixOf, Bool.and_eq_true, beq_iff_eq] at hp
        rw [← hp.1] at hkept
        exact absurd hkept (by decide)
      · split at hp
        · exact absurd hp (by simp [code])
        · cases hoctets : octets c with
          | nil => exact octets_ne_nil c hoctets
          | cons b bs =>
              rw [hoctets] at hp
              have hb : b ∈ octets c := by simp [hoctets]
              simp only [code, List.flatMap_cons, encodeOctet, List.cons_append, List.isPrefixOf,
                Bool.and_eq_true, beq_iff_eq] at hp
              have hvalue := eq_of_upperHex hx (octets_lt hb) hp.2.1.symm hp.2.2.1.symm
              rcases octets_cases hb with ⟨h1, h2⟩ | ⟨h1, h2⟩
              · exact hcs c (by simp) (h1.trans hvalue)
              · omega

end Codes

def BraceFree (cs : List Char) : Prop := ∀ c ∈ cs, isBrace c = false

instance (cs : List Char) : Decidable (BraceFree cs) :=
  decidable_of_iff (cs.all (fun c => !isBrace c) = true) (by simp [BraceFree])

variable {cs : List Char} {c : Char}

theorem isBrace_eq_false (h : c ≠ '\x7b') (h' : c ≠ '\x7d') : isBrace c = false := by
  simp [isBrace, h, h']

theorem BraceFree.toNat_ne (h : BraceFree cs) (hc : c ∈ cs) : c.toNat ≠ 0x7b ∧ c.toNat ≠ 0x7d := by
  have hbrace := h c hc
  constructor
  · intro hn
    rw [← Char.ofNat_toNat c, hn] at hbrace
    exact absurd hbrace (by decide)
  · intro hn
    rw [← Char.ofNat_toNat c, hn] at hbrace
    exact absurd hbrace (by decide)

theorem replaceCodes_open (h : BraceFree cs) (new rest : List Char) :
    replaceCodes 'B' new (encodeField cs ++ rest) = encodeField cs ++ replaceCodes 'B' new rest :=
  replaceCodes_field (d := 11) (by decide) (by decide) (fun _ hc => (h.toNat_ne hc).1) rest

theorem replaceCodes_close (h : BraceFree cs) (new rest : List Char) :
    replaceCodes 'D' new (encodeField cs ++ rest) = encodeField cs ++ replaceCodes 'D' new rest :=
  replaceCodes_field (d := 13) (by decide) (by decide) (fun _ hc => (h.toNat_ne hc).2) rest

theorem plainBraces_of_plain (h : '%' ∉ cs) : plainBraces cs = cs := by
  have hkept (x : Char) (new : List Char) : replaceCodes x new cs = cs := by
    have hcodes : replaceCodes x new (cs ++ []) = cs ++ replaceCodes x new [] :=
      replaceCodes_of_plain h []
    rw [List.append_nil] at hcodes
    exact hcodes.trans (List.append_nil cs)
  rw [plainBraces_eq, hkept, hkept]

theorem plainBraces_append (h : c ∉ ['%', '7', 'B', 'D']) (a b : List Char) :
    plainBraces (a ++ c :: b) = plainBraces a ++ c :: plainBraces b := by
  simp only [List.mem_cons, List.not_mem_nil, or_false, not_or] at h
  have hold (x : Char) (hx : c ≠ x) : c ∉ code x ++ code x := by simp [code, h.1, h.2.1, hx]
  have hne (x : Char) : code x ++ code x ≠ [] := by simp [code]
  simp only [plainBraces_eq, replaceCodes]
  rw [replaceAll_append (hne 'B') (hold 'B' h.2.2.1), replaceAll_append (hne 'D') (hold 'D' h.2.2.2)]

theorem encodeField_text (h : Hole) :
    encodeField h.text = if h.doubled then
        code 'B' ++ (code 'B' ++ (encodeField h.inner ++ (code 'D' ++ code 'D')))
      else code 'B' ++ (encodeField h.inner ++ code 'D') := by
  have hopen : encodeField ['\x7b'] = code 'B' := by decide
  have hclose : encodeField ['\x7d'] = code 'D' := by decide
  have htext : h.text = if h.doubled then
        ['\x7b'] ++ (['\x7b'] ++ (h.inner ++ (['\x7d'] ++ ['\x7d'])))
      else ['\x7b'] ++ (h.inner ++ ['\x7d']) := rfl
  rw [htext]
  split <;> simp only [encodeField_append, hopen, hclose]

theorem Hole.Fits.braceFree {h : Hole} (hfits : h.Fits) : BraceFree h.inner := by
  intro c hc
  have hstop := hfits.2 c hc
  split at hstop
  · exact hstop
  · simp only [endsPath, Bool.or_eq_false_iff] at hstop
    exact hstop.1.1.1.1.1

/-- A hole as it is encoded with the query around it. -/
def Hole.coded (h : Hole) : Hole := ⟨h.doubled, encodeField h.inner⟩

namespace Piece

/-- What a piece is in a query that has been encoded. A hole in single braces is none any more. -/
def coded : Piece → List Piece
  | .plain c => (encodeField [c]).map .plain
  | .hole h => if h.doubled then [.hole h.coded] else (encodeField h.text).map .plain

/-- An encoded piece when its opening braces are read as braces again, and the closing ones not. -/
def reopened : Piece → List Char
  | .plain c => encodeField [c]
  | .hole h =>
      if h.doubled then '\x7b' :: '\x7b' :: (encodeField h.inner ++ (code 'D' ++ code 'D'))
      else encodeField h.text

variable {piece : Piece} {rest : List Char}

theorem braceFree_plain {c : Char} (h : (plain c).Fits) : BraceFree [c] := by
  intro d hd
  rw [List.mem_singleton.1 hd]
  exact h

theorem written_plain (cs : List Char) : written (cs.map .plain) = cs := by
  simp [written, List.flatMap_map, Piece.text]

theorem replaceCodes_text (h : piece.Fits) (rest : List Char) :
    replaceCodes 'B' ['\x7b', '\x7b'] (encodeField piece.text ++ rest) =
      piece.reopened ++ replaceCodes 'B' ['\x7b', '\x7b'] rest := by
  have hescape (rest : List Char) : replaceCodes 'B' ['\x7b', '\x7b'] (code 'D' ++ rest) =
      code 'D' ++ replaceCodes 'B' ['\x7b', '\x7b'] rest :=
    replaceCodes_escape (by decide) (by decide) fun hcode => absurd hcode.2.1 (by decide)
  cases piece with
  | plain c =>
      have hfree := braceFree_plain h
      exact replaceCodes_open hfree _ _
  | hole hole =>
      have hfree := Hole.Fits.braceFree h
      simp only [Piece.text, reopened, encodeField_text]
      split
      · simp only [List.append_assoc, List.cons_append]
        rw [replaceCodes_pair, replaceCodes_open hfree, hescape, hescape]
        rfl
      · have hlead := not_code_prefix (x := 'B') (d := 11) (by decide) h.1 (by decide)
          (fun _ hc => (hfree.toNat_ne hc).1) (code 'D' ++ rest)
        simp only [List.append_assoc]
        rw [show ∀ rest, code 'B' ++ rest = '%' :: '7' :: 'B' :: rest from fun _ => rfl,
          replaceCodes_escape (by decide) (by decide) fun hcode => hlead hcode.2.2,
          replaceCodes_open hfree, hescape]
        rfl

theorem reopened_not_code (h : piece.Fits) (rest : List Char) :
    ¬ (code 'D').isPrefixOf (piece.reopened ++ rest) = true := by
  cases piece with
  | plain c =>
      have hfree := braceFree_plain h
      exact not_code_prefix (d := 13) (by decide) (by simp) (by decide)
        (fun _ hc => (hfree.toNat_ne hc).2) rest
  | hole hole =>
      simp only [reopened, encodeField_text]
      split <;> simp [code]

theorem replaceCodes_reopened (h : piece.Fits) (hrest : ¬ (code 'D').isPrefixOf rest = true) :
    replaceCodes 'D' ['\x7d', '\x7d'] (piece.reopened ++ rest) =
      written piece.coded ++ replaceCodes 'D' ['\x7d', '\x7d'] rest := by
  cases piece with
  | plain c =>
      have hfree := braceFree_plain h
      rw [coded, written_plain]
      exact replaceCodes_close hfree _ _
  | hole hole =>
      have hfree := Hole.Fits.braceFree h
      obtain ⟨doubled, inner⟩ := hole
      cases doubled with
      | true =>
          have hcoded : written (coded (.hole ⟨true, inner⟩)) =
              '\x7b' :: '\x7b' :: (encodeField inner ++ ['\x7d', '\x7d']) := by
            simp [written, coded, Piece.text, Hole.text, Hole.coded]
          rw [hcoded]
          simp only [reopened, if_true, List.append_assoc, List.cons_append]
          rw [replaceCodes_cons (by decide), replaceCodes_cons (by decide), replaceCodes_close hfree,
            replaceCodes_pair]
          rfl
      | false =>
          have hcoded : written (coded (.hole ⟨false, inner⟩)) =
              encodeField (Hole.mk false inner).text := written_plain _
          rw [hcoded]
          simp only [reopened, encodeField_text, Bool.false_eq_true, if_false, List.append_assoc]
          rw [show ∀ rest, code 'B' ++ rest = '%' :: '7' :: 'B' :: rest from fun _ => rfl,
            replaceCodes_escape (by decide) (by decide) fun hcode => absurd hcode.2.1 (by decide),
            replaceCodes_close hfree, show ∀ rest, code 'D' ++ rest = '%' :: '7' :: 'D' :: rest from
              fun _ => rfl, replaceCodes_escape (by decide) (by decide) fun hcode => hrest hcode.2.2]
          rfl

end Piece

/-- Of a template that is encoded as a whole what is left are its holes in double braces, around
encoded paths. -/
theorem plainBraces_written {pieces : List Piece} (hfits : ∀ piece ∈ pieces, piece.Fits) :
    plainBraces (encodeField (written pieces)) = written (pieces.flatMap Piece.coded) := by
  have hopen : replaceCodes 'B' ['\x7b', '\x7b'] (encodeField (written pieces)) =
      pieces.flatMap Piece.reopened := by
    induction pieces with
    | nil => rfl
    | cons piece pieces ih =>
        rw [written, List.flatMap_cons, encodeField_append,
          Piece.replaceCodes_text (hfits piece (by simp)), ← written,
          ih fun p hp => hfits p (by simp [hp])]
        rfl
  rw [plainBraces_eq, hopen]
  clear hopen
  induction pieces with
  | nil => rfl
  | cons piece pieces ih =>
      have hrest : ¬ (code 'D').isPrefixOf (pieces.flatMap Piece.reopened) = true := by
        cases pieces with
        | nil => decide
        | cons next pieces => exact Piece.reopened_not_code (hfits next (by simp)) _
      rw [List.flatMap_cons, Piece.replaceCodes_reopened (hfits piece (by simp)) hrest,
        ih fun p hp => hfits p (by simp [hp]), List.flatMap_cons]
      simp [written]

end Dialogue.Template
