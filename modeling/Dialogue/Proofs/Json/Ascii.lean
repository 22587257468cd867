import Dialogue.Proofs.Json.Spelling
import Dialogue.Proofs.Template.Coded
/-!
Quoted texts in ASCII. Characters outside it are written by their codes, those beyond the first
plane in two halves. What is quoted in this way is a template as well: its holes are the holes of
the text, as long as their paths need no escapes.
-/
namespace Dialogue.Json

open Dialogue.Text

/-- A code of sixteen bits. -/
def codeUnit (n : Nat) : List Char :=
  ['\\', 'u', hexDigit (n / 0x1000 % 16), hexDigit (n / 0x100 % 16), hexDigit (n / 16 % 16),
    hexDigit (n % 16)]

/-- A character inside a text that is quoted in ASCII. -/
def escapeAscii (c : Char) : List Char :=
  if c.toNat < 127 then escape c
  else if c.toNat < 0x10000 then codeUnit c.toNat
  else codeUnit (0xd800 + (c.toNat - 0x10000) / 0x400) ++
    codeUnit (0xdc00 + (c.toNat - 0x10000) % 0x400)

section Reading

variable {n : Nat} {c : Char} {cs text : List Char}

theorem hexValue?_hexDigit (h : n < 16) : hexValue? (hexDigit n) = some n := by
  have hall : ∀ n < 16, hexValue? (hexDigit n) = some n := by decide
  exact hall n h

theorem hexNumber?_codeUnit (h : n < 0x10000) :
    hexNumber? [hexDigit (n / 0x1000 % 16), hexDigit (n / 0x100 % 16), hexDigit (n / 16 % 16),
      hexDigit (n % 16)] = some n := by
  simp only [hexNumber?, List.foldl_cons, List.foldl_nil,
    hexValue?_hexDigit (Nat.mod_lt _ (by decide : 0 < 16))]
  show some _ = some n
  congr 1
  omega

theorem toNat_lt_or_gt (c : Char) : c.toNat < 0xd800 ∨ 0xdfff < c.toNat ∧ c.toNat < 0x110000 :=
  c.valid

theorem quotes_escapeAscii (c : Char) (h : Quotes cs text) :
    Quotes (escapeAscii c ++ cs) (c :: text) := by
  have hvalid := toNat_lt_or_gt c
  unfold escapeAscii
  split
  · exact quotes_escape c h
  split
  · rename_i hsmall
    have hcode := Quotes.code (hexNumber?_codeUnit hsmall) (by simp [isHighSurrogate]; omega)
      (by simp [isLowSurrogate]; omega) h
    rwa [Char.ofNat_toNat] at hcode
  · rename_i hlarge
    have hpair := Quotes.pair
      (hexNumber?_codeUnit (n := 0xd800 + (c.toNat - 0x10000) / 0x400) (by omega))
      (by simp [isHighSurrogate]; omega)
      (hexNumber?_codeUnit (n := 0xdc00 + (c.toNat - 0x10000) % 0x400) (by omega))
      (by simp [isLowSurrogate]; omega) h
    have hjoined : joinSurrogates (0xd800 + (c.toNat - 0x10000) / 0x400)
        (0xdc00 + (c.toNat - 0x10000) % 0x400) = c := by
      have hsum : 0x10000 + (0xd800 + (c.toNat - 0x10000) / 0x400 - 0xd800) * 0x400 +
          (0xdc00 + (c.toNat - 0x10000) % 0x400 - 0xdc00) = c.toNat := by omega
      rw [joinSurrogates, hsum, Char.ofNat_toNat]
    rw [hjoined] at hpair
    exact hpair

end Reading

section Characters

variable {c d : Char}

/-- The characters that stand for themselves. -/
def isInert (c : Char) : Bool := 32 ≤ c.toNat && c ≠ '"' && c ≠ '\\'

def isInertAscii (c : Char) : Bool := isInert c && c.toNat < 127

theorem escapeAscii_of_isInertAscii (h : isInertAscii c = true) : escapeAscii c = [c] := by
  simp only [isInertAscii, Bool.and_eq_true, decide_eq_true_eq] at h
  have hall := of_toNat_lt (fun c => isInert c = true → escape c = [c]) (by decide)
    (show c.toNat < 127 from h.2)
  rw [escapeAscii, if_pos h.2, hall h.1]

theorem mem_codeUnit {n : Nat} (hd : d ∈ codeUnit n) : d ≠ '%' ∧ Template.isBrace d = false := by
  have hdigit : ∀ n < 16, hexDigit n ≠ '%' ∧ Template.isBrace (hexDigit n) = false := by decide
  simp only [codeUnit, List.mem_cons, List.not_mem_nil, or_false] at hd
  rcases hd with rfl | rfl | rfl | rfl | rfl | rfl
  · decide
  · decide
  all_goals exact hdigit _ (Nat.mod_lt _ (by decide))

/-- What is escaped begins with a backslash and holds neither percent signs nor braces. -/
theorem escapeAscii_of_not (h : isInertAscii c = false) :
    (escapeAscii c).head? = some '\\' ∧
      ∀ d ∈ escapeAscii c, d ≠ '%' ∧ Template.isBrace d = false := by
  unfold escapeAscii
  split
  · rename_i hsmall
    have hall := of_toNat_lt (fun c => isInert c = false → (escape c).head? = some '\\' ∧
      (escape c).all (fun d => d ≠ '%' && !Template.isBrace d) = true) (by decide) hsmall
    obtain ⟨hhead, hrest⟩ := hall (by simpa [isInertAscii, hsmall] using h)
    exact ⟨hhead, fun d hd => by simpa using List.all_eq_true.1 hrest d hd⟩
  split
  · exact ⟨rfl, fun d => mem_codeUnit⟩
  · exact ⟨rfl, fun d hd => (List.mem_append.1 hd).elim mem_codeUnit mem_codeUnit⟩

end Characters

section Templates

open Template

variable {x : Char} {new cs : List Char}

theorem flatMap_escapeAscii (h : ∀ c ∈ cs, isInertAscii c = true) :
    cs.flatMap escapeAscii = cs := by
  induction cs with
  | nil => rfl
  | cons c cs ih =>
      rw [List.flatMap_cons, escapeAscii_of_isInertAscii (h c List.mem_cons_self),
        ih fun d hd => h d (List.mem_cons_of_mem c hd)]
      rfl

theorem isPrefixOf_flatMap_escapeAscii {old : List Char} (hold : ∀ c ∈ old, isInertAscii c = true)
    (h : old.isPrefixOf (cs.flatMap escapeAscii) = true) : old.isPrefixOf cs = true := by
  induction old generalizing cs with
  | nil => rfl
  | cons o old ih =>
      cases cs with
      | nil => simp at h
      | cons c cs =>
          rw [List.flatMap_cons] at h
          by_cases hc : isInertAscii c = true
          · rw [escapeAscii_of_isInertAscii hc, List.singleton_append, List.isPrefixOf,
              Bool.and_eq_true] at h
            rw [List.isPrefixOf, Bool.and_eq_true]
            exact ⟨h.1, ih (fun d hd => hold d (List.mem_cons_of_mem o hd)) h.2⟩
          · obtain ⟨hhead, -⟩ := escapeAscii_of_not (Bool.eq_false_iff.2 hc)
            obtain ⟨rest, hescape⟩ := List.head?_eq_some_iff.1 hhead
            rw [hescape, List.cons_append, List.isPrefixOf, Bool.and_eq_true, beq_iff_eq] at h
            have ho := hold o List.mem_cons_self
            rw [h.1] at ho
            exact absurd ho (by decide)

theorem replaceCodes_of_not (h : ¬ (code x ++ code x).isPrefixOf cs = true) :
    ∀ c rest, cs = c :: rest → replaceCodes x new (c :: rest) = c :: replaceCodes x new rest := by
  rintro c rest rfl
  rw [replaceCodes, replaceAll, replaceFrom, if_neg h]
  rfl

/-- Coded braces are found in a quoted text where they are in the text. -/
theorem replaceCodes_flatMap (hx : isInertAscii x = true)
    (hnew : ∀ c ∈ new, isInertAscii c = true) (cs : List Char) :
    replaceCodes x new (cs.flatMap escapeAscii) = (replaceCodes x new cs).flatMap escapeAscii := by
  have hcode : ∀ c ∈ code x ++ code x, isInertAscii c = true := by
    have hpercent : isInertAscii '%' = true := by decide
    have hseven : isInertAscii '7' = true := by decide
    simp [code, hx, hpercent, hseven]
  induction hlength : cs.length using Nat.strong_induction_on generalizing cs with
  | _ n ih =>
  subst hlength
  cases cs with
  | nil => rfl
  | cons c cs =>
      by_cases hp : (code x ++ code x).isPrefixOf (c :: cs) = true
      · obtain ⟨rest, hrest⟩ := List.isPrefixOf_iff_prefix.1 hp
        rw [← hrest, List.flatMap_append, flatMap_escapeAscii hcode, List.append_assoc,
          List.append_assoc, replaceCodes_pair, replaceCodes_pair, List.flatMap_append,
          flatMap_escapeAscii hnew, ih rest.length (by rw [← hrest]; simp [code]; omega) rest rfl]
      · have hrest := ih cs.length (by simp) cs rfl
        rw [replaceCodes_of_not hp c cs rfl, List.flatMap_cons, List.flatMap_cons, ← hrest]
        by_cases hc : isInertAscii c = true
        · have hnot : ¬ (code x ++ code x).isPrefixOf (c :: cs.flatMap escapeAscii) = true := by
            intro hp'
            refine hp (isPrefixOf_flatMap_escapeAscii hcode ?_)
            rwa [List.flatMap_cons, escapeAscii_of_isInertAscii hc]
          rw [escapeAscii_of_isInertAscii hc]
          exact replaceCodes_of_not hnot c _ rfl
        · obtain ⟨-, hmem⟩ := escapeAscii_of_not (Bool.eq_false_iff.2 hc)
          exact replaceCodes_of_plain (fun h => (hmem '%' h).1 rfl) _

theorem plainBraces_flatMap (cs : List Char) :
    plainBraces (cs.flatMap escapeAscii) = (plainBraces cs).flatMap escapeAscii := by
  have hopen : ∀ c ∈ ['\x7b', '\x7b'], isInertAscii c = true := List.all_eq_true.1 (by decide)
  have hclose : ∀ c ∈ ['\x7d', '\x7d'], isInertAscii c = true := List.all_eq_true.1 (by decide)
  rw [plainBraces_eq, plainBraces_eq, replaceCodes_flatMap (by decide) hopen,
    replaceCodes_flatMap (by decide) hclose]

/-- What a piece is in a quoted text. -/
def quotedPiece : Piece → List Piece
  | .plain c => (escapeAscii c).map .plain
  | .hole h => [.hole h]

variable {pieces : List Piece}

theorem written_quoted
    (h : ∀ hole, Piece.hole hole ∈ pieces → ∀ c ∈ hole.inner, isInertAscii c = true) :
    written (pieces.flatMap quotedPiece) = (written pieces).flatMap escapeAscii := by
  induction pieces with
  | nil => rfl
  | cons piece pieces ih =>
      have hrest := ih fun hole hhole => h hole (List.mem_cons_of_mem _ hhole)
      have hpiece : written (quotedPiece piece) = piece.text.flatMap escapeAscii := by
        cases piece with
        | plain c => simp [quotedPiece, Piece.written_plain, Piece.text]
        | hole hole =>
            have htext : ∀ c ∈ hole.text, isInertAscii c = true := by
              intro c hc
              rcases Hole.mem_text hc with rfl | rfl | hc
              · decide
              · decide
              · exact h hole List.mem_cons_self c hc
            simp [quotedPiece, written, Piece.text, flatMap_escapeAscii htext]
      simp only [written, List.flatMap_cons, List.flatMap_append] at hrest hpiece ⊢
      rw [hrest, hpiece]

theorem fits_quoted (h : ∀ piece ∈ pieces, piece.Fits) :
    ∀ piece ∈ pieces.flatMap quotedPiece, piece.Fits := by
  intro piece hpiece
  obtain ⟨original, horiginal, hpiece⟩ := List.mem_flatMap.1 hpiece
  have hfits := h original horiginal
  cases original with
  | hole hole =>
      obtain rfl := List.mem_singleton.1 hpiece
      exact hfits
  | plain c =>
      obtain ⟨d, hd, rfl⟩ := List.mem_map.1 hpiece
      by_cases hc : isInertAscii c = true
      · rw [escapeAscii_of_isInertAscii hc] at hd
        obtain rfl := List.mem_singleton.1 hd
        exact hfits
      · exact ((escapeAscii_of_not (Bool.eq_false_iff.2 hc)).2 d hd).2

theorem hole_mem_quoted {hole : Hole} :
    .hole hole ∈ pieces.flatMap quotedPiece ↔ .hole hole ∈ pieces := by
  rw [List.mem_flatMap]
  constructor
  · rintro ⟨original, horiginal, hmem⟩
    cases original with
    | plain c => simp [quotedPiece] at hmem
    | hole other =>
        obtain rfl := Piece.hole.inj (List.mem_singleton.1 hmem)
        exact horiginal
  · exact fun h => ⟨.hole hole, h, List.mem_singleton.2 rfl⟩

end Templates

end Dialogue.Json
