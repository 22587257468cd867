import Dialogue.Proofs.Program
import Dialogue.Proofs.Template.Coded
import Dialogue.Proofs.Template.Contained
/-!
Filling in a template is a substitution. Part by part, a literal text stays and a hole gives way to
what its path says, and nothing in what comes in is read again. A text in which no hole has a value
is left as it is, but for braces in it that are written in code.
-/
namespace Dialogue.Template

open Dialogue.Text

/-- A part of a template: a text without holes, or a hole. -/
inductive Part where
  | literal (text : List Char)
  | hole (h : Hole)
  deriving DecidableEq

namespace Part

def text : Part → List Char
  | literal text => text
  | hole h => h.text

def pieces : Part → List Piece
  | literal text => text.map .plain
  | hole h => [.hole h]

/-- A part has no other braces than its own, nor could such braces be written in code. -/
def Fits : Part → Prop
  | literal text => BraceFree text ∧ '%' ∉ text
  | hole h => h.Fits ∧ '%' ∉ h.inner

instance : (part : Part) → Decidable part.Fits
  | literal text => inferInstanceAs (Decidable (BraceFree text ∧ '%' ∉ text))
  | hole h => inferInstanceAs (Decidable (h.Fits ∧ '%' ∉ h.inner))

/-- What a part comes to: a hole gives way to what its path says, and stays if that is nothing. -/
def expand (data : Value) : Part → Except Fault (List Char)
  | literal text => .ok text
  | hole h => do return (← data.textAt h.path).getD h.text

variable {part : Part}

theorem pieces_fit (h : part.Fits) : ∀ piece ∈ part.pieces, piece.Fits := by
  intro piece hpiece
  cases part with
  | literal text =>
      obtain ⟨c, hc, rfl⟩ := List.mem_map.1 hpiece
      exact h.1 c hc
  | hole hole =>
      obtain rfl := List.mem_singleton.1 hpiece
      exact h.1

theorem percent_not_mem (h : part.Fits) : '%' ∉ part.text := by
  cases part with
  | literal text => exact h.2
  | hole hole =>
      intro hmem
      rcases Hole.mem_text hmem with hopen | hclose | hinner
      · cases hopen
      · cases hclose
      · exact h.2 hinner

theorem written_pieces (part : Part) : written part.pieces = part.text := by
  cases part with
  | literal text => exact Piece.written_plain text
  | hole h => simp [pieces, written, Piece.text, text]

end Part

section Filling

variable {encodeQuery : Bool} {data : Value} {parts : List Part}

theorem fillParts_plain (text : List Char) (before : Option Char) (pieces : List Piece) :
    fillParts encodeQuery data (found before (text.map .plain ++ pieces)) =
      (fillParts encodeQuery data (found (text.getLast?.or before) pieces)).map (text ++ ·) := by
  induction text generalizing before with
  | nil => cases h : fillParts encodeQuery data (found before pieces) <;> simp [h, Except.map]
  | cons c text ih =>
      have hlast : (c :: text).getLast?.or before = text.getLast?.or (some c) := by
        cases text <;> simp [List.getLast?_cons]
      rw [List.map_cons, List.cons_append, found, fillParts, ih, hlast]
      cases fillParts encodeQuery data (found (text.getLast?.or (some c)) pieces) <;> rfl

theorem fillParts_pieces (before : Option Char) (parts : List Part) :
    fillParts false data (found before (parts.flatMap Part.pieces)) =
      (parts.mapM (Part.expand data)).map List.flatten := by
  induction parts generalizing before with
  | nil => rfl
  | cons part parts ih =>
      rw [List.flatMap_cons, List.mapM_cons]
      cases part with
      | literal text =>
          rw [Part.pieces, fillParts_plain, ih]
          cases hrest : parts.mapM (Part.expand data) <;> rfl
      | hole h =>
          rw [Part.pieces, List.singleton_append, found, fillParts, fill_eq, ih, Part.expand]
          cases data.textAt h.path with
          | error fault => rfl
          | ok text => cases hrest : parts.mapM (Part.expand data) <;> cases text <;> rfl

/-- A template that is put together from parts is filled in part by part, from left to right. What a
value brings in is taken as it is. -/
theorem fillText_parts (hfits : ∀ part ∈ parts, part.Fits) (data : Value) :
    fillText (String.ofList (parts.flatMap Part.text)) data false =
      (parts.mapM (Part.expand data)).map fun texts => String.ofList texts.flatten := by
  have hpercent : '%' ∉ parts.flatMap Part.text := by
    intro hmem
    obtain ⟨part, hpart, hmem⟩ := List.mem_flatMap.1 hmem
    exact Part.percent_not_mem (hfits part hpart) hmem
  have hwritten : parts.flatMap Part.text = written (parts.flatMap Part.pieces) := by
    rw [written, List.flatMap_assoc]
    exact congrArg parts.flatMap (funext fun part => (Part.written_pieces part).symm)
  have hpieces : ∀ piece ∈ parts.flatMap Part.pieces, piece.Fits := by
    intro piece hpiece
    obtain ⟨part, hpart, hpiece⟩ := List.mem_flatMap.1 hpiece
    exact Part.pieces_fit (hfits part hpart) piece hpiece
  have hfound : Text.parts placeholder (parts.flatMap Part.text) =
      found none (parts.flatMap Part.pieces) := by
    rw [hwritten]
    exact partsFrom_written hpieces none
  simp only [fillText, String.toList_ofList, plainBraces_of_plain hpercent, hfound, fillParts_pieces]
  cases parts.mapM (Part.expand data) <;> rfl

def badge : List Part :=
  [.literal "Dear ".toList, .hole ⟨false, "first".toList⟩, .hole ⟨true, " last ".toList⟩,
    .literal ", table: ".toList, .hole ⟨true, "table".toList⟩, .hole ⟨false, "seat".toList⟩]

def guest : Value :=
  .object
    [("first", .text "\x7blast\x7d"), ("last", .text "%7B%7Btable%7D%7D"), ("table", .bool true)]

/-- Braces in the values, plain or in code, are not filled in. -/
theorem badge_filled :
    (∀ part ∈ badge, part.Fits) ∧
      String.ofList (badge.flatMap Part.text) =
        "Dear \x7bfirst\x7d\x7b\x7b last \x7d\x7d, table: \x7b\x7btable\x7d\x7d\x7bseat\x7d" ∧
      fillText (String.ofList (badge.flatMap Part.text)) guest false =
        .ok "Dear \x7blast\x7d%7B%7Btable%7D%7D, table: true\x7bseat\x7d" := by
  have hfits : ∀ part ∈ badge, part.Fits := by decide +kernel
  exact ⟨hfits, rfl, (fillText_parts hfits guest).trans rfl⟩

end Filling

/-- No hole in the text has a value. -/
def Vacant (data : Value) (cs : List Char) : Prop :=
  ∀ p, .inr p ∈ parts placeholder cs →
    ∀ v, data.lookup (String.ofList p.path) = .ok v → v.isNull = true

/-- Every hole in the text can be looked up. -/
def Answers (data : Value) (cs : List Char) : Prop :=
  ∀ p, .inr p ∈ parts placeholder cs → ∃ v, data.lookup (String.ofList p.path) = .ok v

/-- No braces in the text are written in code. -/
def Codeless (cs : List Char) : Prop :=
  ¬ "%7B%7B".toList <:+: cs ∧ ¬ "%7D%7D".toList <:+: cs

instance (cs : List Char) : Decidable (Codeless cs) :=
  decidable_of_iff
    (occursIn "%7B%7B".toList cs = false ∧ occursIn "%7D%7D".toList cs = false) (by
      simp only [Codeless, ← occursIn_iff_infix, Bool.not_eq_true])

section Again

variable {encodeQuery : Bool} {data : Value} {cs : List Char}

/-- Braces in code are longer than plain ones. -/
theorem length_plainBraces_lt (h : ¬ Codeless cs) : (plainBraces cs).length < cs.length := by
  have hopen : ['\x7b', '\x7b'].length < "%7B%7B".toList.length := by decide
  have hclose : ['\x7d', '\x7d'].length < "%7D%7D".toList.length := by decide
  by_cases hcode : "%7B%7B".toList <:+: cs
  · have hshort := length_replaceAll_lt hopen hcode
    have hafter := length_replaceFrom_le hclose.le 0
      (replaceAll "%7B%7B".toList ['\x7b', '\x7b'] cs)
    simp only [plainBraces, replaceAll] at hshort hafter ⊢
    omega
  · have hcode' : "%7D%7D".toList <:+: cs := by
      by_contra hno
      exact h ⟨hcode, hno⟩
    rw [plainBraces, replaceAll_of_not_infix hcode]
    exact length_replaceAll_lt hclose hcode'

theorem plainBraces_eq_self_iff : plainBraces cs = cs ↔ Codeless cs := by
  constructor
  · intro heq
    by_contra hcode
    exact (length_plainBraces_lt hcode).ne (congrArg List.length heq)
  · rintro ⟨hno, hno'⟩
    rw [plainBraces, replaceAll_of_not_infix hno, replaceAll_of_not_infix hno']

theorem fill_of_null {p : Placeholder} {v : Value}
    (hv : data.lookup (String.ofList p.path) = .ok v) (hnull : v.isNull = true) :
    p.fill encodeQuery data = .ok p.written := by
  simp only [Placeholder.fill, hv, bind, Except.bind, hnull, if_true]
  rfl

theorem lookup_of_fillParts {parts : List (Char ⊕ Placeholder)} {text : List Char}
    (h : fillParts encodeQuery data parts = .ok text) {p : Placeholder} (hp : .inr p ∈ parts) :
    ∃ v, data.lookup (String.ofList p.path) = .ok v := by
  induction parts generalizing text with
  | nil => cases hp
  | cons part parts ih =>
      cases part with
      | inl c =>
          obtain ⟨rest, hrest, -⟩ := exists_of_bind_ok h
          obtain heq | hp := List.mem_cons.1 hp
          · cases heq
          · exact ih hrest hp
      | inr q =>
          obtain ⟨filled, hfilled, h⟩ := exists_of_bind_ok h
          obtain ⟨rest, hrest, -⟩ := exists_of_bind_ok h
          obtain heq | hp := List.mem_cons.1 hp
          · cases heq
            obtain ⟨v, hv, -⟩ := exists_of_bind_ok hfilled
            exact ⟨v, hv⟩
          · exact ih hrest hp

theorem Answers.of_fillText {filled : String}
    (h : fillText (String.ofList cs) data encodeQuery = .ok filled) :
    Answers data (plainBraces cs) := by
  obtain ⟨text, htext, -⟩ := exists_of_bind_ok h
  rw [String.toList_ofList] at htext
  exact fun p hp => lookup_of_fillParts htext hp

/-- Where nothing is left to fill in, only braces in code change. -/
theorem Vacant.fillText (hvacant : Vacant data (plainBraces cs))
    (hanswers : Answers data (plainBraces cs)) :
    Template.fillText (String.ofList cs) data encodeQuery =
      .ok (String.ofList (plainBraces cs)) := by
  have hwritten : ∀ p, .inr p ∈ parts placeholder (plainBraces cs) →
      p.fill encodeQuery data = .ok p.written := by
    intro p hp
    obtain ⟨v, hv⟩ := hanswers p hp
    exact fill_of_null hv (hvacant p hp v hv)
  rw [Template.fillText, String.toList_ofList, fillParts_of_fill hwritten, spelled_parts]
  rfl

/-- A text in which no hole has a value stays as it is, and still has nothing to fill in with the
braces plain that are written in code, exactly if there are no such braces and every hole can be
looked up. -/
theorem fillText_again_iff (out : String) (hvacant : Vacant data out.toList) :
    (fillText out data encodeQuery = .ok out ∧ Vacant data (plainBraces out.toList)) ↔
      Codeless out.toList ∧ Answers data out.toList := by
  obtain ⟨cs, rfl⟩ : ∃ cs, out = String.ofList cs := ⟨out.toList, String.ofList_toList.symm⟩
  rw [String.toList_ofList] at hvacant ⊢
  constructor
  · rintro ⟨hfilled, hplain⟩
    have hanswers := Answers.of_fillText hfilled
    rw [hplain.fillText hanswers] at hfilled
    have hsame : plainBraces cs = cs := String.ofList_injective (Except.ok.inj hfilled)
    exact ⟨plainBraces_eq_self_iff.1 hsame, hsame ▸ hanswers⟩
  · rintro ⟨hcodeless, hanswers⟩
    have hsame := plainBraces_eq_self_iff.2 hcodeless
    rw [← hsame] at hvacant hanswers
    have hfilled : Template.fillText (String.ofList cs) data encodeQuery =
        .ok (String.ofList (plainBraces cs)) := hvacant.fillText hanswers
    rw [hsame] at hfilled
    exact ⟨hfilled, hvacant⟩

def named : Value := .object [("name", .text "Ann"), ("note", .text "see %7B%7Bid%7D%7D")]

/-- The hole that is left has no value, and stays. -/
theorem greeting_filled_again :
    fillText "Hi \x7bname\x7d, \x7bgone\x7d!" named false = .ok "Hi Ann, \x7bgone\x7d!" ∧
      Vacant named "Hi Ann, \x7bgone\x7d!".toList ∧ Codeless "Hi Ann, \x7bgone\x7d!".toList ∧
      Answers named "Hi Ann, \x7bgone\x7d!".toList ∧
      fillText "Hi Ann, \x7bgone\x7d!" named false = .ok "Hi Ann, \x7bgone\x7d!" := by
  have hholes : ∀ p, .inr p ∈ parts placeholder "Hi Ann, \x7bgone\x7d!".toList →
      p.path = "gone".toList := by
    have hall : (parts placeholder "Hi Ann, \x7bgone\x7d!".toList).all
        (Sum.elim (fun _ => true) fun p => p.path = "gone".toList) = true := by decide +kernel
    intro p hp
    simpa using List.all_eq_true.1 hall (.inr p) hp
  have hgone : named.lookup (String.ofList "gone".toList) = .ok .null := rfl
  have hvacant : Vacant named "Hi Ann, \x7bgone\x7d!".toList := by
    intro p hp v hv
    rw [hholes p hp, hgone] at hv
    cases hv
    rfl
  have hanswers : Answers named "Hi Ann, \x7bgone\x7d!".toList :=
    fun p hp => ⟨.null, hholes p hp ▸ hgone⟩
  have hcodeless : Codeless "Hi Ann, \x7bgone\x7d!".toList := by decide +kernel
  exact ⟨rfl, hvacant, hcodeless, hanswers,
    ((fillText_again_iff "Hi Ann, \x7bgone\x7d!" hvacant).2 ⟨hcodeless, hanswers⟩).1⟩

/-- Braces that a value brings in in code are plain braces after the next filling in. -/
theorem code_filled_again :
    fillText "\x7bnote\x7d" named false = .ok "see %7B%7Bid%7D%7D" ∧
      Vacant named "see %7B%7Bid%7D%7D".toList ∧
      fillText "see %7B%7Bid%7D%7D" named false = .ok "see \x7b\x7bid\x7d\x7d" := by
  refine ⟨rfl, ?_, rfl⟩
  have hall : (parts placeholder "see %7B%7Bid%7D%7D".toList).all Sum.isLeft = true := by
    decide +kernel
  exact fun p hp => nomatch List.all_eq_true.1 hall (.inr p) hp

end Again

end Dialogue.Template
