import Dialogue.Proofs.Template.Page
/-!
Fields of a query that is encoded before its holes are filled in. A hole is still there only in
double braces, and it is the same hole only if encoding leaves its path as it is.
-/
namespace Dialogue.Template

open Dialogue.Text Dialogue.Url

section Characters

variable {c d : Char}

theorem ne_of_isUnreserved (h : isUnreserved c = true) (hd : isUnreserved d = false) : c ≠ d := by
  rintro rfl
  rw [h] at hd
  cases hd

theorem isFieldChar_of_isUnreserved (h : isUnreserved c = true) : isFieldChar c = true := by
  have hne (d : Char) (hd : isUnreserved d = false) : c ≠ d := ne_of_isUnreserved h hd
  simp [isFieldChar, isKept, hne '&' (by decide), hne '#' (by decide), hne '\t' (by decide),
    hne '\n' (by decide), hne '\r' (by decide)]

theorem isBrace_of_isUnreserved (h : isUnreserved c = true) : isBrace c = false :=
  isBrace_eq_false (ne_of_isUnreserved h (by decide)) (ne_of_isUnreserved h (by decide))

theorem isFieldChar_encodeField (cs : List Char) : ∀ c ∈ encodeField cs, isFieldChar c = true :=
  forall_mem_encodeField (by decide) (by decide) (fun _ => isFieldChar_of_isUnreserved) cs

theorem isFieldChar_encodeParam (param : Param) : ∀ c ∈ encodeParam param, isFieldChar c = true :=
  forall_mem_encodeParam (by decide) (by decide) (by decide) (fun _ => isFieldChar_of_isUnreserved)
    param

theorem braceFree_encodeField (cs : List Char) : BraceFree (encodeField cs) :=
  forall_mem_encodeField (by decide) (by decide) (fun _ => isBrace_of_isUnreserved) cs

theorem braceFree_encodeParam (param : Param) : BraceFree (encodeParam param) :=
  forall_mem_encodeParam (by decide) (by decide) (by decide) (fun _ => isBrace_of_isUnreserved) param

end Characters

theorem encodeField_ne_nil {cs : List Char} (h : cs ≠ []) : encodeField cs ≠ [] := by
  intro hnil
  have hdecoded := decodeField_encodeField cs
  rw [hnil] at hdecoded
  exact h hdecoded.symm

/-- The hole is the same after the query around it has been encoded. -/
def Hole.survives (h : Hole) : Bool := h.doubled && h.inner.all isUnreserved

theorem Hole.coded_of_survives {h : Hole} (hs : h.survives = true) : h.coded = h := by
  simp only [survives, Bool.and_eq_true, List.all_eq_true] at hs
  simp only [coded, encodeField_of_unreserved hs.2]

theorem Piece.coded_fits {piece : Piece} (h : piece.Fits) : ∀ p ∈ piece.coded, p.Fits := by
  have hplain (cs : List Char) : ∀ p ∈ (encodeField cs).map Piece.plain, p.Fits := by
    intro p hp
    obtain ⟨c, hc, rfl⟩ := List.mem_map.1 hp
    exact braceFree_encodeField cs c hc
  intro p hp
  cases piece with
  | plain c => exact hplain [c] p hp
  | hole hole =>
      obtain ⟨doubled, inner⟩ := hole
      cases doubled with
      | false => exact hplain _ p hp
      | true =>
          obtain rfl := List.mem_singleton.1 hp
          exact ⟨encodeField_ne_nil h.1, braceFree_encodeField inner⟩

theorem Piece.hole_mem_coded {piece : Piece} {h : Hole} (hmem : .hole h ∈ piece.coded) :
    ∃ original, piece = .hole original ∧ original.doubled = true ∧ h = original.coded := by
  cases piece with
  | plain c => simp [coded] at hmem
  | hole original =>
      by_cases hdoubled : original.doubled = true
      · rw [coded, if_pos hdoubled] at hmem
        exact ⟨original, rfl, hdoubled, Piece.hole.inj (List.mem_singleton.1 hmem)⟩
      · simp [coded, hdoubled] at hmem

section Values

variable {texts : List Char → Option (List Char)} {before : Option Char} {piece : Piece}
  {value : List Piece}

/-- A value with no character that stands for another one or after which values are encoded. -/
def Settled (value : List Piece) : Prop :=
  ∀ c ∈ written value, c ≠ '%' ∧ c ≠ '+' ∧ isMark (some c) = false

instance (value : List Piece) : Decidable (Settled value) :=
  decidable_of_iff ((written value).all (fun c => c ≠ '%' && c ≠ '+' && !isMark (some c)) = true)
    (by simp [Settled, and_assoc])

/-- Where the path of a hole has been encoded nothing is found. -/
def Silent (texts : List Char → Option (List Char)) (value : List Piece) : Prop :=
  ∀ h, Piece.hole h ∈ value → h.doubled = true → h.survives = false → texts h.coded.path = none

theorem Settled.tail (h : Settled (piece :: value)) : Settled value :=
  fun c hc => h c (by simp only [written] at hc; simp [written, hc])

theorem isMark_encodeField {cs : List Char} (h : cs ≠ []) (before : Option Char) :
    isMark ((encodeField cs).getLast?.or before) = false := by
  obtain ⟨c, hlast⟩ : ∃ c, (encodeField cs).getLast? = some c :=
    Option.ne_none_iff_exists'.1 (by simpa using encodeField_ne_nil h)
  have hmem := List.mem_of_getLast? hlast
  have hequals : c ≠ '=' := fun heq =>
    not_mem_encodeField (by decide) (by decide) (by decide) cs (heq ▸ hmem)
  have hand : c ≠ '&' := fun heq =>
    not_mem_encodeField (by decide) (by decide) (by decide) cs (heq ▸ hmem)
  simp [hlast, isMark, hequals, hand]

theorem filled_hole_cons (h : Hole) (value : List Piece) (before : Option Char) :
    filled true texts before (.hole h :: value) =
      filled true texts before [.hole h] ++ filled true texts none value := by
  have hmark : isMark (some '\x7d') = isMark none := by decide
  rw [filled, filled_congr hmark]
  simp [filled]

theorem filled_settled_cons (hsettled : Settled (piece :: value)) (before : Option Char) :
    filled true texts before (piece :: value) =
      filled true texts before [piece] ++ filled true texts none value := by
  cases piece with
  | plain c =>
      have hmark : isMark (some c) = isMark none := (hsettled c (by simp [written, Piece.text])).2.2
      rw [filled, filled_congr hmark]
      rfl
  | hole h => exact filled_hole_cons h value before

theorem filled_coded_cons (piece : Piece) (value : List Piece) (before : Option Char) :
    filled true texts before ((piece :: value).flatMap Piece.coded) =
      filled true texts before piece.coded ++ filled true texts none (value.flatMap Piece.coded) := by
  have hplain {cs : List Char} (hcs : cs ≠ []) (rest : List Piece) :
      filled true texts before ((encodeField cs).map .plain ++ rest) =
        filled true texts before ((encodeField cs).map .plain) ++ filled true texts none rest := by
    have hmark := isMark_encodeField hcs before
    rw [filled_plain, filled_map_plain, filled_congr (hmark.trans (show false = isMark none from rfl))]
  rw [List.flatMap_cons]
  cases piece with
  | plain c => exact hplain (by simp) _
  | hole h =>
      by_cases hdoubled : h.doubled = true
      · rw [Piece.coded, if_pos hdoubled]
        exact filled_hole_cons h.coded _ before
      · rw [Piece.coded, if_neg hdoubled]
        exact hplain (by simp [Hole.text, hdoubled]) _

/-- What is filled into an encoded piece stays in its field. -/
theorem mem_filled_piece (hsilent : Silent texts [piece]) :
    ∀ c ∈ filled true texts before piece.coded,
      isFieldChar c = true ∨ c ∈ filled true texts before [piece] := by
  intro c hc
  cases piece with
  | plain d =>
      rw [Piece.coded, filled_map_plain] at hc
      exact .inl (isFieldChar_encodeField _ c hc)
  | hole h =>
      by_cases hdoubled : h.doubled = true
      · rw [Piece.coded, if_pos hdoubled] at hc
        by_cases hsurvives : h.survives = true
        · rw [Hole.coded_of_survives hsurvives] at hc
          exact .inr hc
        · simp only [filled, hsilent h (by simp) hdoubled (Bool.eq_false_iff.2 hsurvives),
            Option.elim_none, List.append_nil] at hc
          rcases Hole.mem_text hc with rfl | rfl | hc
          · exact .inl (by decide)
          · exact .inl (by decide)
          · exact .inl (isFieldChar_encodeField _ c hc)
      · rw [Piece.coded, if_neg hdoubled, filled_map_plain] at hc
        exact .inl (isFieldChar_encodeField _ c hc)

theorem mem_filled_coded (hsettled : Settled value) (hsilent : Silent texts value)
    (before : Option Char) : ∀ c ∈ filled true texts before (value.flatMap Piece.coded),
      isFieldChar c = true ∨ c ∈ filled true texts before value := by
  induction value generalizing before with
  | nil => exact fun c hc => absurd hc List.not_mem_nil
  | cons piece value ih =>
      intro c hc
      rw [filled_coded_cons, List.mem_append] at hc
      rw [filled_settled_cons hsettled, List.mem_append]
      rcases hc with hc | hc
      · have hpiece := mem_filled_piece (fun h hh => hsilent h (by simp [List.mem_singleton.1 hh])) c hc
        exact hpiece.imp_right .inl
      · have hrest := ih hsettled.tail (fun h hh => hsilent h (by simp [hh])) none c hc
        exact hrest.imp_right .inr

/-- Where all holes survive, the encoded value is read as the value that was not encoded. -/
theorem filled_coded_sameEnd (hsettled : Settled value)
    (hsurvive : ∀ h, Piece.hole h ∈ value → h.survives = true) (before : Option Char) :
    SameEnd (filled true texts before (value.flatMap Piece.coded)) (filled true texts before value) := by
  induction value generalizing before with
  | nil => exact fun _ => rfl
  | cons piece value ih =>
      have hrest := ih hsettled.tail (fun h hh => hsurvive h (by simp [hh])) none
      rw [filled_coded_cons, filled_settled_cons hsettled]
      cases piece with
      | plain c =>
          obtain ⟨hpercent, hplus, -⟩ := hsettled c (by simp [written, Piece.text])
          rw [Piece.coded, filled_map_plain]
          exact hrest.encodeField_cons hpercent hplus
      | hole h =>
          have hs := hsurvive h (by simp)
          have hdoubled : h.doubled = true := (Bool.and_eq_true_iff.1 hs).1
          rw [Piece.coded, if_pos hdoubled, Hole.coded_of_survives hs]
          exact hrest.append _

/-- A value whose holes all survive is read as it would be without encoding. -/
theorem reading_of_survives (hsettled : Settled value)
    (hsurvive : ∀ h, Piece.hole h ∈ value → h.survives = true) :
    reading texts (value.flatMap Piece.coded) = reading texts value :=
  (filled_coded_sameEnd hsettled hsurvive _).decodeField_eq

/-- A value in single braces is read as the hole that it should have filled. -/
theorem reading_single {h : Hole} (hsingle : h.doubled = false) :
    reading texts ([.hole h].flatMap Piece.coded) = h.text := by
  simp [reading, Piece.coded, hsingle, filled_map_plain, decodeField_encodeField]

end Values

namespace Field

variable {field : Field} {texts : List Char → Option (List Char)}

/-- What a field is when the query has been encoded around it. -/
def sent : Field → List Field
  | literal text => if text = [] then [] else [literal (encodeParam (decodeParam text))]
  | templated name value =>
      [templated (encodeField (decodeField name)) (value.flatMap Piece.coded)]

/-- Of a field only its holes are in braces, written as such or encoded. -/
def Clear : Field → Prop
  | literal text =>
      plainBraces text = text ∧
        plainBraces (encodeParam (decodeParam text)) = encodeParam (decodeParam text)
  | templated name value =>
      plainBraces name = name ∧
        plainBraces (encodeField (decodeField name)) = encodeField (decodeField name) ∧ Settled value

instance : (field : Field) → Decidable field.Clear
  | literal text => inferInstanceAs (Decidable (_ ∧ _))
  | templated name value => inferInstanceAs (Decidable (_ ∧ _ ∧ Settled value))

theorem params_names (field : Field) (texts texts' : List Char → Option (List Char)) :
    (field.params texts).map Prod.fst = (field.params texts').map Prod.fst := by
  cases field <;> rfl

theorem plainBraces_text (h : field.Clear) : plainBraces field.text = field.text := by
  cases field with
  | literal text => exact h.1
  | templated name value =>
      have hvalue : '%' ∉ written value := fun hmem => (h.2.2 '%' hmem).1 rfl
      rw [text, plainBraces_append (by decide), h.1, plainBraces_of_plain hvalue]

theorem plainBraces_params (h : field.Clear) (hfits : field.Fits) :
    (field.params (fun _ => none)).map (fun param => plainBraces (encodeParam param)) =
      field.sent.map text := by
  cases field with
  | literal text =>
      by_cases htext : text = []
      · simp [params, sent, htext]
      · simpa [params, sent, htext, Field.text] using h.2
  | templated name value =>
      obtain ⟨-, hname, hvalue⟩ := h
      have hplain : decodeField (written value) = written value :=
        decodeField_of_plain (fun hmem => (hvalue '%' hmem).1 rfl) fun hmem =>
          (hvalue '+' hmem).2.1 rfl
      simp only [params, sent, reading, Template.filled_none, hplain, List.map_cons, List.map_nil,
        text, encodeParam]
      rw [plainBraces_append (by decide), hname, plainBraces_written hfits.2.2]

theorem sent_fits (hfits : field.Fits) : ∀ f ∈ field.sent, f.Fits := by
  intro f hf
  cases field with
  | literal text =>
      by_cases htext : text = []
      · simp [sent, htext] at hf
      · obtain rfl : f = literal (encodeParam (decodeParam text)) := by simpa [sent, htext] using hf
        exact braceFree_encodeParam _
  | templated name value =>
      obtain rfl := List.mem_singleton.1 hf
      refine ⟨braceFree_encodeField _, not_mem_encodeField (by decide) (by decide) (by decide) _, ?_⟩
      intro piece hpiece
      obtain ⟨p, hp, hpiece⟩ := List.mem_flatMap.1 hpiece
      exact Piece.coded_fits (hfits.2.2 p hp) piece hpiece

/-- Where the path of a hole of the field has been encoded nothing is found. -/
def Silent (texts : List Char → Option (List Char)) : Field → Prop
  | literal _ => True
  | templated _ value => Template.Silent texts value

theorem sent_chars (h : field.Clear) (hsilent : field.Silent texts)
    (hchars : ∀ c ∈ field.filled texts, isFieldChar c = true) :
    ∀ f ∈ field.sent, ∀ c ∈ f.filled texts, isFieldChar c = true := by
  intro f hf c hc
  cases field with
  | literal text =>
      by_cases htext : text = []
      · simp [sent, htext] at hf
      · obtain rfl : f = literal (encodeParam (decodeParam text)) := by simpa [sent, htext] using hf
        exact isFieldChar_encodeParam _ c hc
  | templated name value =>
      obtain rfl := List.mem_singleton.1 hf
      rcases List.mem_append.1 hc with hc | hc
      · exact isFieldChar_encodeField _ c hc
      · rcases List.mem_cons.1 hc with rfl | hc
        · decide
        · rcases mem_filled_coded h.2.2 hsilent _ c hc with hc | hc
          · exact hc
          · exact hchars c (List.mem_append_right _ (List.mem_cons_of_mem _ hc))

/-- What is read back from a field of a page that has been sent. -/
def received (texts : List Char → Option (List Char)) (field : Field) : List Param :=
  field.sent.flatMap (params texts)

theorem received_literal (text : List Char) :
    (literal text).received texts = (literal text).params texts := by
  by_cases htext : text = []
  · simp [received, sent, params, htext]
  · have hsome : encodeParam (decodeParam text) ≠ [] := by simp [encodeParam]
    simp [received, sent, params, htext, hsome, decodeParam_encodeParam]

theorem received_templated (name : List Char) (value : List Piece) :
    (templated name value).received texts =
      [(decodeField name, reading texts (value.flatMap Piece.coded))] := by
  simp [received, sent, params, decodeField_encodeField]

theorem received_length (field : Field) (texts : List Char → Option (List Char)) :
    (field.received texts).length = (field.params texts).length := by
  cases field with
  | literal text => rw [received_literal]
  | templated name value =>
      rw [received_templated, params, List.length_singleton, List.length_singleton]

theorem received_eq_params_iff (field : Field) (texts : List Char → Option (List Char)) :
    field.received texts = field.params texts ↔ ∀ name value, field = templated name value →
      reading texts (value.flatMap Piece.coded) = reading texts value := by
  cases field with
  | literal text => simp [received_literal]
  | templated name value =>
      rw [received_templated, params]
      constructor
      · rintro heq _ _ ⟨⟩
        exact congrArg Prod.snd (List.head_eq_of_cons_eq heq)
      · intro h
        rw [h name value rfl]

end Field

end Dialogue.Template
