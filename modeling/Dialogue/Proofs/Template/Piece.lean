import Dialogue.Proofs.Url.Query
import Dialogue.Template
/-!
Templates as authors write them: plain characters and holes. What is found in a template that is
put together from pieces are its pieces, so filling it in goes piece by piece.
-/
namespace Dialogue

open Dialogue.Text

/-- What a slot path says, nothing for a null. -/
def Value.textAt (data : Value) (path : List Char) : Except Fault (Option (List Char)) := do
  let v ← data.lookup (String.ofList path)
  if v.isNull then return none
  return some (← v.toText).toList

namespace Template

/-- A placeholder in two braces on each side or in one. -/
structure Hole where
  doubled : Bool
  inner : List Char
  deriving DecidableEq

namespace Hole

def text (h : Hole) : List Char :=
  if h.doubled then '\x7b' :: '\x7b' :: (h.inner ++ ['\x7d', '\x7d'])
  else '\x7b' :: (h.inner ++ ['\x7d'])

def path (h : Hole) : List Char := strip h.inner

def Fits (h : Hole) : Prop :=
  h.inner ≠ [] ∧ ∀ c ∈ h.inner, (if h.doubled then isBrace c else endsPath c) = false

instance (h : Hole) : Decidable h.Fits :=
  decidable_of_iff
    (h.inner ≠ [] ∧ h.inner.all (fun c => !if h.doubled then isBrace c else endsPath c) = true)
    (by simp [Fits])

theorem mem_text {h : Hole} {c : Char} (hc : c ∈ h.text) :
    c = '\x7b' ∨ c = '\x7d' ∨ c ∈ h.inner := by
  obtain ⟨doubled, inner⟩ := h
  cases doubled <;>
    · simp only [text, Bool.false_eq_true, if_false, if_true, List.mem_cons, List.mem_append,
        List.not_mem_nil, or_false] at hc
      grind

end Hole

inductive Piece where
  | plain (c : Char)
  | hole (h : Hole)
  deriving DecidableEq

namespace Piece

def text : Piece → List Char
  | .plain c => [c]
  | .hole h => h.text

def Fits : Piece → Prop
  | .plain c => isBrace c = false
  | .hole h => h.Fits

instance : (piece : Piece) → Decidable piece.Fits
  | .plain c => inferInstanceAs (Decidable (isBrace c = false))
  | .hole h => inferInstanceAs (Decidable h.Fits)

end Piece

def written (pieces : List Piece) : List Char := pieces.flatMap Piece.text

/-- What is found in a template that is written after the character `before`. -/
def found : Option Char → List Piece → List (Char ⊕ Placeholder)
  | _, [] => []
  | _, .plain c :: pieces => .inl c :: found (some c) pieces
  | before, .hole h :: pieces =>
      .inr ⟨h.text, h.path, isMark before⟩ :: found (some '\x7d') pieces

section Finding

variable {h : Hole} {c : Char} {pieces : List Piece}

theorem run?_append {stop : Char → Bool} {run : List Char} (hne : run ≠ [])
    (hrun : ∀ c ∈ run, stop c = false) {closing : List Char} (hsome : closing ≠ [])
    (hclosing : ∀ c ∈ closing.head?, stop c = true) (rest : List Char) :
    run? stop closing (run ++ (closing ++ rest)) = some run := by
  have hall : ∀ c ∈ run, (!stop c) = true := fun c hc => by simp [hrun c hc]
  have htake : (run ++ (closing ++ rest)).takeWhile (fun c => !stop c) = run := by
    rw [List.takeWhile_append_of_pos hall]
    cases closing with
    | nil => exact absurd rfl hsome
    | cons c closing => simp [hclosing c rfl]
  have hprefix : closing.isPrefixOf (closing ++ rest) = true := by
    rw [List.isPrefixOf_iff_prefix]
    exact List.prefix_append closing rest
  simp [run?, htake, hprefix, hne]

theorem placeholder_plain (h : isBrace c = false) (before : Option Char) (rest : List Char) :
    placeholder before (c :: rest) = none := by
  have hopen : c ≠ '\x7b' := by
    rintro rfl
    cases h
  have hdouble : double? (c :: rest) = none := by
    unfold double?
    split
    · rename_i heq
      exact absurd (List.cons.inj heq).1 hopen
    · rfl
  have hsingle : single? (c :: rest) = none := by
    unfold single?
    split
    · rename_i heq
      exact absurd (List.cons.inj heq).1 hopen
    · rfl
  simp [placeholder, hdouble, hsingle]

theorem placeholder_hole (h : Hole) (hfits : h.Fits) (before : Option Char) (rest : List Char) :
    placeholder before (h.text ++ rest) = some (⟨h.text, h.path, isMark before⟩, h.text.length) := by
  have htake : (h.text ++ rest).take h.text.length = h.text := List.take_left
  obtain ⟨doubled, inner⟩ := h
  obtain ⟨hne, hinner⟩ := hfits
  cases doubled with
  | true =>
      have hclosing : ∀ c ∈ ['\x7d', '\x7d'].head?, isBrace c = true := by simp [isBrace]
      have hrun := run?_append hne hinner (by simp) hclosing rest
      have hlength : (Hole.mk true inner).text.length = inner.length + 4 := by simp [Hole.text]
      have hdouble : double? ((Hole.mk true inner).text ++ rest) = some inner := by
        simpa [Hole.text, double?] using hrun
      rw [hlength] at htake ⊢
      simp only [placeholder, hdouble, htake]
      rfl
  | false =>
      have hclosing : ∀ c ∈ ['\x7d'].head?, endsPath c = true := by simp [endsPath, isBrace]
      have hrun := run?_append hne hinner (by simp) hclosing rest
      have hlength : (Hole.mk false inner).text.length = inner.length + 2 := by simp [Hole.text]
      have hsingle : single? ((Hole.mk false inner).text ++ rest) = some inner := by
        simpa [Hole.text, single?] using hrun
      have hdouble : double? ((Hole.mk false inner).text ++ rest) = none := by
        cases inner with
        | nil => exact absurd rfl hne
        | cons c inner =>
            have hc : c ≠ '\x7b' := by
              rintro rfl
              have hbrace : endsPath '\x7b' = false := hinner '\x7b' (by simp)
              exact absurd hbrace (by decide)
            simp [Hole.text, double?, hc]
      rw [hlength] at htake ⊢
      simp only [placeholder, hdouble, hsingle, Option.map_some, htake]
      rfl

theorem partsFrom_hole (h : Hole) (hfits : h.Fits) (before : Option Char) (rest : List Char) :
    partsFrom placeholder before 0 (h.text ++ rest) =
      .inr ⟨h.text, h.path, isMark before⟩ :: partsFrom placeholder (some '\x7d') 0 rest := by
  obtain ⟨d, front, htext, hlast⟩ : ∃ d front, h.text = '\x7b' :: d :: front ∧
      (d :: front).getLast? = some '\x7d' := by
    obtain ⟨doubled, inner⟩ := h
    cases doubled with
    | true => exact ⟨'\x7b', inner ++ ['\x7d', '\x7d'], rfl, by simp [List.getLast?_cons]⟩
    | false =>
        cases inner with
        | nil => exact absurd rfl hfits.1
        | cons c inner => exact ⟨c, inner ++ ['\x7d'], rfl, by simp [List.getLast?_cons]⟩
  have hfound := placeholder_hole h hfits before rest
  rw [htext] at hfound ⊢
  have hskip := partsFrom_skip placeholder (some '\x7b') d front rest
  simp only [List.cons_append] at hfound ⊢
  rw [partsFrom, hfound]
  simp only [List.length_cons, Nat.add_sub_cancel]
  rw [hskip, hlast]

theorem partsFrom_written_append (hfits : ∀ piece ∈ pieces, piece.Fits) (before : Option Char)
    (tail : List Char) :
    ∃ last, partsFrom placeholder before 0 (written pieces ++ tail) =
      found before pieces ++ partsFrom placeholder last 0 tail := by
  induction pieces generalizing before with
  | nil => exact ⟨before, rfl⟩
  | cons piece pieces ih =>
      have hrest := ih fun p hp => hfits p (by simp [hp])
      have hpiece := hfits piece (by simp)
      rw [written, List.flatMap_cons, List.append_assoc, ← written]
      cases piece with
      | plain c =>
          obtain ⟨last, hlast⟩ := hrest (some c)
          refine ⟨last, ?_⟩
          rw [Piece.text, List.singleton_append, partsFrom, placeholder_plain hpiece, found, hlast]
          rfl
      | hole h =>
          obtain ⟨last, hlast⟩ := hrest (some '\x7d')
          refine ⟨last, ?_⟩
          rw [Piece.text, partsFrom_hole h hpiece, found, hlast]
          rfl

theorem partsFrom_written (hfits : ∀ piece ∈ pieces, piece.Fits) (before : Option Char) :
    partsFrom placeholder before 0 (written pieces) = found before pieces := by
  obtain ⟨last, hparts⟩ := partsFrom_written_append hfits before []
  rwa [List.append_nil, partsFrom, List.append_nil] at hparts

end Finding

/-- The text of a value as it goes into the place after `before`. -/
def inserted (encodeQuery : Bool) (before : Option Char) (text : List Char) : List Char :=
  if encodeQuery && isMark before then encodeQueryValue text else text

/-- The pieces with the texts of their paths; holes whose path says nothing stay. -/
def filled (encodeQuery : Bool) (texts : List Char → Option (List Char)) :
    Option Char → List Piece → List Char
  | _, [] => []
  | _, .plain c :: pieces => c :: filled encodeQuery texts (some c) pieces
  | before, .hole h :: pieces =>
      (texts h.path).elim h.text (inserted encodeQuery before) ++
        filled encodeQuery texts (some '\x7d') pieces

section Filling

variable {encodeQuery : Bool} {data : Value} {texts : List Char → Option (List Char)}
  {pieces : List Piece}

theorem fill_eq (p : Placeholder) (encodeQuery : Bool) (data : Value) :
    p.fill encodeQuery data = (data.textAt p.path).map fun text =>
      text.elim p.written fun text =>
        if encodeQuery && p.afterMark then encodeQueryValue text else text := by
  unfold Placeholder.fill Value.textAt
  cases data.lookup (String.ofList p.path) with
  | error fault => rfl
  | ok v =>
      simp only [bind, Except.bind]
      split
      · rfl
      · cases v.toText <;> rfl

theorem fillParts_found (hfits : ∀ piece ∈ pieces, piece.Fits)
    (htexts : ∀ h, Piece.hole h ∈ pieces → data.textAt h.path = .ok (texts h.path))
    (before : Option Char) :
    fillParts encodeQuery data (found before pieces) =
      .ok (filled encodeQuery texts before pieces) := by
  induction pieces generalizing before with
  | nil => rfl
  | cons piece pieces ih =>
      have hrest := ih (fun p hp => hfits p (by simp [hp])) fun h hh => htexts h (by simp [hh])
      cases piece with
      | plain c => simp only [found, fillParts, filled, hrest]; rfl
      | hole h =>
          simp only [found, fillParts, filled, hrest, fill_eq, htexts h (by simp)]
          rfl

theorem fillText_written (hfits : ∀ piece ∈ pieces, piece.Fits)
    (htexts : ∀ h, Piece.hole h ∈ pieces → data.textAt h.path = .ok (texts h.path))
    {template : List Char} (htemplate : plainBraces template = written pieces) :
    fillText (String.ofList template) data encodeQuery =
      .ok (String.ofList (filled encodeQuery texts none pieces)) := by
  have hparts : parts placeholder (written pieces) = found none pieces :=
    partsFrom_written hfits none
  simp only [fillText, String.toList_ofList, htemplate, hparts, fillParts_found hfits htexts]
  rfl

theorem filled_plain (cs : List Char) (before : Option Char) (pieces : List Piece) :
    filled encodeQuery texts before (cs.map Piece.plain ++ pieces) =
      cs ++ filled encodeQuery texts (cs.getLast?.or before) pieces := by
  induction cs generalizing before with
  | nil => rfl
  | cons c cs ih =>
      simp only [List.map_cons, List.cons_append, filled, ih]
      cases cs <;> simp [List.getLast?_cons]

theorem filled_map_plain (cs : List Char) (before : Option Char) :
    filled encodeQuery texts before (cs.map Piece.plain) = cs := by
  have h : filled encodeQuery texts before (cs.map Piece.plain ++ []) =
      cs ++ filled encodeQuery texts (cs.getLast?.or before) [] := filled_plain cs before []
  rwa [List.append_nil, filled, List.append_nil] at h

theorem inserted_congr {before before' : Option Char} (h : isMark before = isMark before') :
    inserted encodeQuery before = inserted encodeQuery before' := by
  unfold inserted
  rw [h]

theorem filled_congr {before before' : Option Char} (h : isMark before = isMark before')
    (pieces : List Piece) :
    filled encodeQuery texts before pieces = filled encodeQuery texts before' pieces := by
  cases pieces with
  | nil => rfl
  | cons piece pieces =>
      cases piece with
      | plain c => rfl
      | hole hole => rw [filled, filled, inserted_congr h]

/-- No hole stands first. -/
def Opens (pieces : List Piece) : Prop := ∀ h, pieces.head? ≠ some (.hole h)

theorem Opens.append {a b : List Piece} (ha : Opens a) (hb : Opens b) : Opens (a ++ b) := by
  cases a with
  | nil => exact hb
  | cons piece a => exact ha

theorem filled_append {rest : List Piece} (hrest : Opens rest) (before : Option Char)
    (pieces : List Piece) :
    filled encodeQuery texts before (pieces ++ rest) =
      filled encodeQuery texts before pieces ++ filled encodeQuery texts none rest := by
  induction pieces generalizing before with
  | nil =>
      cases rest with
      | nil => rfl
      | cons piece rest =>
          cases piece with
          | plain c => rfl
          | hole h => exact absurd rfl (hrest h)
  | cons piece pieces ih =>
      cases piece with
      | plain c => simp only [List.cons_append, filled, ih]
      | hole h => simp only [List.cons_append, filled, ih, List.append_assoc]

theorem filled_append_plain (before : Option Char) (pieces : List Piece) (c : Char)
    (rest : List Piece) :
    filled encodeQuery texts before (pieces ++ .plain c :: rest) =
      filled encodeQuery texts before pieces ++ c :: filled encodeQuery texts (some c) rest :=
  filled_append (fun _ h => by cases h) before pieces

/-- Where no path says anything the template stays as it is written. -/
theorem filled_none (before : Option Char) (pieces : List Piece) :
    filled encodeQuery (fun _ => none) before pieces = written pieces := by
  induction pieces generalizing before with
  | nil => rfl
  | cons piece pieces ih =>
      cases piece with
      | plain c => exact congrArg (c :: ·) (ih _)
      | hole h => exact congrArg (h.text ++ ·) (ih _)

end Filling

end Template

end Dialogue
