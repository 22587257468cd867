import Dialogue.Proofs.Template.Coded
import Dialogue.Proofs.Url.Split
/-!
Templates of web addresses. The query is a list of fields, some of which take their value from a
slot. Filled in, such a template is an address whose query is read back field by field.
-/
namespace Dialogue.Template

open Dialogue.Text Dialogue.Url

theorem mem_intercalate {α : Type} {sep a : α} (h : a ≠ sep) {lists : List (List α)} :
    a ∈ [sep].intercalate lists ↔ ∃ list ∈ lists, a ∈ list := by
  induction lists with
  | nil => simp
  | cons list lists ih =>
      cases lists with
      | nil => simp
      | cons next lists => simp [h, ih]

/-- A field of a query: a text without holes, or a name with a value that may have holes. -/
inductive Field where
  | literal (text : List Char)
  | templated (name : List Char) (value : List Piece)

/-- Characters that may stand in a field. -/
def isFieldChar (c : Char) : Bool := c ≠ '&' && c ≠ '#' && isKept c

/-- What is read back from the value of a field after it has been filled in. -/
def reading (texts : List Char → Option (List Char)) (value : List Piece) : List Char :=
  decodeField (filled true texts (some '=') value)

namespace Field

def pieces : Field → List Piece
  | literal text => text.map .plain
  | templated name value => name.map .plain ++ .plain '=' :: value

def text : Field → List Char
  | literal text => text
  | templated name value => name ++ '=' :: written value

def filled (texts : List Char → Option (List Char)) : Field → List Char
  | literal text => text
  | templated name value => name ++ '=' :: Template.filled true texts (some '=') value

/-- What is read back from a field that is filled in. -/
def params (texts : List Char → Option (List Char)) : Field → List Param
  | literal text => if text = [] then [] else [decodeParam text]
  | templated name value => [(decodeField name, reading texts value)]

def Fits : Field → Prop
  | literal text => BraceFree text
  | templated name value => BraceFree name ∧ '=' ∉ name ∧ ∀ piece ∈ value, piece.Fits

instance : (field : Field) → Decidable field.Fits
  | literal text => inferInstanceAs (Decidable (BraceFree text))
  | templated name value =>
      inferInstanceAs (Decidable (BraceFree name ∧ '=' ∉ name ∧ ∀ piece ∈ value, piece.Fits))

variable {field : Field} {texts : List Char → Option (List Char)}

theorem pieces_fit (h : field.Fits) : ∀ piece ∈ field.pieces, piece.Fits := by
  intro piece hpiece
  cases field with
  | literal text =>
      obtain ⟨c, hc, rfl⟩ := List.mem_map.1 hpiece
      exact h c hc
  | templated name value =>
      rcases List.mem_append.1 hpiece with hpiece | hpiece
      · obtain ⟨c, hc, rfl⟩ := List.mem_map.1 hpiece
        exact h.1 c hc
      · rcases List.mem_cons.1 hpiece with rfl | hpiece
        · exact show isBrace '=' = false by decide
        · exact h.2.2 piece hpiece

theorem mem_pieces {hole : Hole} : .hole hole ∈ field.pieces ↔
    ∃ name value, field = templated name value ∧ .hole hole ∈ value := by
  cases field with
  | literal text => simp [pieces]
  | templated name value =>
      simp only [pieces, List.mem_append, List.mem_map, List.mem_cons, reduceCtorEq, and_false,
        exists_false, false_or]
      exact ⟨fun h => ⟨name, value, rfl, h⟩, fun ⟨_, _, heq, h⟩ => by cases heq; exact h⟩

theorem filled_pieces (texts : List Char → Option (List Char)) (before : Option Char)
    (field : Field) : Template.filled true texts before field.pieces = field.filled texts := by
  cases field with
  | literal text => exact filled_map_plain text before
  | templated name value =>
      rw [pieces, filled_plain]
      rfl

theorem filled_none (field : Field) : field.filled (fun _ => none) = field.text := by
  cases field with
  | literal text => rfl
  | templated name value => simp [Field.filled, text, Template.filled_none]

theorem decodeQuery_filled (h : field.Fits)
    (hchars : ∀ c ∈ field.filled texts, isFieldChar c = true) :
    decodeQuery (field.filled texts) = field.params texts := by
  have hand : '&' ∉ field.filled texts := fun hmem => absurd (hchars '&' hmem) (by decide)
  rw [decodeQuery_field hand]
  cases field with
  | literal text => rfl
  | templated name value => simp [Field.filled, params, reading, decodeParam_append h.2.1]

end Field

theorem braceFree_scheme {scheme : List Char} (h : isScheme scheme = true) : BraceFree scheme := by
  intro c hc
  have hne (brace : Char) (hbrace : isSchemeChar brace = false) : c ≠ brace := by
    rintro rfl
    rw [isScheme_chars h hc] at hbrace
    cases hbrace
  exact isBrace_eq_false (hne _ (by decide)) (hne _ (by decide))

/-- An address with holes behind its scheme. -/
structure Page where
  scheme : List Char
  authority : List Piece
  path : List Piece
  fields : List Field
  fragment : Option (List Piece)

namespace Page

variable {p : Page} {texts : List Char → Option (List Char)}

/-- The fields joined; without any there is no question mark. -/
def query (p : Page) (f : Field → List Char) : Option (List Char) :=
  if p.fields = [] then none else some (['&'].intercalate (p.fields.map f))

def text (p : Page) : List Char :=
  front p.scheme (written p.authority) ++
    tail (written p.path) (p.query Field.text) (p.fragment.map written)

def queryPieces (p : Page) : List Piece :=
  if p.fields = [] then [] else .plain '?' :: [.plain '&'].intercalate (p.fields.map Field.pieces)

def fragmentPieces (p : Page) : List Piece := p.fragment.elim [] (.plain '#' :: ·)

def pieces (p : Page) : List Piece :=
  (front p.scheme []).map .plain ++
    (p.authority ++ (p.path ++ (p.queryPieces ++ p.fragmentPieces)))

def filledAuthority (p : Page) (texts : List Char → Option (List Char)) : List Char :=
  Template.filled true texts none p.authority

def filledPath (p : Page) (texts : List Char → Option (List Char)) : List Char :=
  Template.filled true texts none p.path

def filled (p : Page) (texts : List Char → Option (List Char)) : List Char :=
  front p.scheme (p.filledAuthority texts) ++ tail (p.filledPath texts) (p.query (Field.filled texts))
    (p.fragment.map (Template.filled true texts none))

structure Fits (p : Page) : Prop where
  scheme : isScheme p.scheme = true
  authority : ∀ piece ∈ p.authority, piece.Fits
  path : ∀ piece ∈ p.path, piece.Fits
  rooted : p.path = [] ∨ p.path.head? = some (.plain '/')
  fields : ∀ field ∈ p.fields, field.Fits
  fragment : ∀ pieces ∈ p.fragment, ∀ piece ∈ pieces, piece.Fits

/-- Values stay in the part of the address that they are put in. -/
structure Suits (p : Page) (texts : List Char → Option (List Char)) : Prop where
  origin : IsOrigin p.scheme (p.filledAuthority texts)
  path : '?' ∉ p.filledPath texts ∧ '#' ∉ p.filledPath texts
  fields : ∀ field ∈ p.fields, ∀ c ∈ field.filled texts, isFieldChar c = true

instance (p : Page) : Decidable p.Fits :=
  decidable_of_iff (isScheme p.scheme = true ∧ (∀ piece ∈ p.authority, piece.Fits) ∧
      (∀ piece ∈ p.path, piece.Fits) ∧ (p.path = [] ∨ p.path.head? = some (.plain '/')) ∧
      (∀ field ∈ p.fields, field.Fits) ∧ ∀ pieces ∈ p.fragment, ∀ piece ∈ pieces, piece.Fits)
    ⟨fun ⟨scheme, authority, path, rooted, fields, fragment⟩ =>
        ⟨scheme, authority, path, rooted, fields, fragment⟩,
      fun h => ⟨h.scheme, h.authority, h.path, h.rooted, h.fields, h.fragment⟩⟩

instance (p : Page) (texts : List Char → Option (List Char)) : Decidable (p.Suits texts) :=
  decidable_of_iff (IsOrigin p.scheme (p.filledAuthority texts) ∧
      ('?' ∉ p.filledPath texts ∧ '#' ∉ p.filledPath texts) ∧
      ∀ field ∈ p.fields, (field.filled texts).all isFieldChar = true)
    ⟨fun h => ⟨h.1, h.2.1, fun field hfield => List.all_eq_true.1 (h.2.2 field hfield)⟩,
      fun h => ⟨h.origin, h.path, fun field hfield => List.all_eq_true.2 (h.fields field hfield)⟩⟩

theorem mem_queryPieces {piece : Piece} (hpiece : piece ∈ p.queryPieces) :
    (∃ field ∈ p.fields, piece ∈ field.pieces) ∨ piece = .plain '?' ∨ piece = .plain '&' := by
  unfold queryPieces at hpiece
  split at hpiece
  · cases hpiece
  · rcases List.mem_cons.1 hpiece with h | hpiece
    · exact .inr (.inl h)
    · by_cases hand : piece = .plain '&'
      · exact .inr (.inr hand)
      · obtain ⟨_, hmem, hpiece⟩ := (mem_intercalate hand).1 hpiece
        obtain ⟨field, hfield, rfl⟩ := List.mem_map.1 hmem
        exact .inl ⟨field, hfield, hpiece⟩

theorem hole_mem_queryPieces {hole : Hole} : .hole hole ∈ p.queryPieces ↔
    ∃ name value, .templated name value ∈ p.fields ∧ .hole hole ∈ value := by
  constructor
  · intro hhole
    rcases mem_queryPieces hhole with ⟨field, hfield, hhole⟩ | h | h
    · obtain ⟨name, value, rfl, hvalue⟩ := Field.mem_pieces.1 hhole
      exact ⟨name, value, hfield, hvalue⟩
    · cases h
    · cases h
  · rintro ⟨name, value, hfield, hhole⟩
    have hsome : p.fields ≠ [] := List.ne_nil_of_mem hfield
    have hne : Piece.hole hole ≠ .plain '&' := by simp
    rw [queryPieces, if_neg hsome]
    exact List.mem_cons_of_mem _ ((mem_intercalate hne).2
      ⟨_, List.mem_map_of_mem hfield, Field.mem_pieces.2 ⟨name, value, rfl, hhole⟩⟩)

theorem hole_mem_pieces {hole : Hole} : .hole hole ∈ p.pieces ↔
    .hole hole ∈ p.authority ∨ .hole hole ∈ p.path ∨
      (∃ name value, .templated name value ∈ p.fields ∧ .hole hole ∈ value) ∨
        ∃ pieces ∈ p.fragment, .hole hole ∈ pieces := by
  have hfragment : Piece.hole hole ∈ p.fragmentPieces ↔
      ∃ pieces ∈ p.fragment, .hole hole ∈ pieces := by
    unfold fragmentPieces
    cases p.fragment <;> simp
  simp [pieces, hole_mem_queryPieces, hfragment]

theorem pieces_fit (hp : p.Fits) : ∀ piece ∈ p.pieces, piece.Fits := by
  intro piece hpiece
  simp only [pieces, List.mem_append] at hpiece
  rcases hpiece with hpiece | hpiece | hpiece | hpiece | hpiece
  · obtain ⟨c, hc, rfl⟩ := List.mem_map.1 hpiece
    rcases List.mem_append.1 hc with hc | hc
    · exact braceFree_scheme hp.scheme c hc
    · have hmarks : BraceFree [':', '/', '/'] := by decide
      exact hmarks c hc
  · exact hp.authority piece hpiece
  · exact hp.path piece hpiece
  · rcases mem_queryPieces hpiece with ⟨field, hfield, hpiece⟩ | rfl | rfl
    · exact Field.pieces_fit (hp.fields field hfield) piece hpiece
    · exact show isBrace '?' = false by decide
    · exact show isBrace '&' = false by decide
  · unfold fragmentPieces at hpiece
    cases hfragment : p.fragment with
    | none => simp [hfragment] at hpiece
    | some pieces =>
        rw [hfragment] at hpiece
        rcases List.mem_cons.1 hpiece with rfl | hpiece
        · exact show isBrace '#' = false by decide
        · exact hp.fragment pieces hfragment piece hpiece

theorem filled_fields (texts : List Char → Option (List Char)) (before : Option Char)
    (fields : List Field) :
    Template.filled true texts before ([.plain '&'].intercalate (fields.map Field.pieces)) =
      ['&'].intercalate (fields.map (Field.filled texts)) := by
  induction fields generalizing before with
  | nil => rfl
  | cons field fields ih =>
      cases fields with
      | nil => simp [Field.filled_pieces]
      | cons next fields =>
          have hnext := ih (some '&')
          simp only [List.map_cons, List.intercalate_cons_cons, List.append_assoc,
            List.singleton_append, filled_append_plain, Field.filled_pieces] at hnext ⊢
          rw [hnext]

theorem filled_queryPieces (p : Page) (texts : List Char → Option (List Char)) :
    Template.filled true texts none p.queryPieces =
      (p.query (Field.filled texts)).elim [] ('?' :: ·) := by
  unfold queryPieces query
  split
  · rfl
  · exact congrArg ('?' :: ·) (filled_fields texts (some '?') p.fields)

theorem filled_fragmentPieces (p : Page) (texts : List Char → Option (List Char)) :
    Template.filled true texts none p.fragmentPieces =
      (p.fragment.map (Template.filled true texts none)).elim [] ('#' :: ·) := by
  unfold fragmentPieces
  cases p.fragment with
  | none => rfl
  | some fragment => exact congrArg ('#' :: ·) (filled_congr (by decide) fragment)

theorem opens_fragmentPieces (p : Page) : Opens p.fragmentPieces := by
  unfold fragmentPieces
  cases p.fragment with
  | none => exact fun _ h => by cases h
  | some fragment => exact fun _ h => by cases h

theorem opens_queryPieces (p : Page) : Opens p.queryPieces := by
  unfold queryPieces
  split <;> exact fun _ h => by cases h

theorem opens_path (hp : p.Fits) : Opens p.path := by
  intro h hhead
  rcases hp.rooted with hnone | hsome
  · rw [hnone] at hhead
    cases hhead
  · rw [hsome] at hhead
    cases hhead

theorem filled_pieces (hp : p.Fits) (texts : List Char → Option (List Char)) :
    Template.filled true texts none p.pieces = p.filled texts := by
  have hrest : Opens (p.queryPieces ++ p.fragmentPieces) :=
    p.opens_queryPieces.append p.opens_fragmentPieces
  have hlast : ((front p.scheme []).getLast?.or none) = some '/' := by
    simp [front, List.getLast?_append, List.getLast?_cons]
  have hmark : isMark (some '/') = isMark none := by decide
  rw [pieces, filled_plain, hlast, filled_congr hmark, filled_append ((opens_path hp).append hrest),
    filled_append hrest, filled_append p.opens_fragmentPieces, filled_queryPieces,
    filled_fragmentPieces]
  simp [filled, filledAuthority, filledPath, tail, front]

theorem filled_none (p : Page) : p.filled (fun _ => none) = p.text := by
  have hfield : Field.filled (fun _ => none) = Field.text := funext Field.filled_none
  have hpieces : Template.filled true (fun _ => none) none = written :=
    funext (Template.filled_none none)
  rw [filled, filledAuthority, filledPath, text, hfield, hpieces]

theorem written_pieces (hp : p.Fits) : written p.pieces = p.text := by
  rw [← filled_none, ← filled_pieces hp, Template.filled_none]

theorem query_chars (hs : p.Suits texts) {q : List Char}
    (hq : q ∈ p.query (Field.filled texts)) {c : Char} (hc : c ∈ q) : c ≠ '#' ∧ isKept c = true := by
  unfold query at hq
  split at hq
  · cases hq
  · cases hq
    by_cases hand : c = '&'
    · subst hand
      decide
    · obtain ⟨_, hmem, hc⟩ := (mem_intercalate hand).1 hc
      obtain ⟨field, hfield, rfl⟩ := List.mem_map.1 hmem
      have h := hs.fields field hfield c hc
      simp only [isFieldChar, Bool.and_eq_true, decide_eq_true_eq] at h
      exact ⟨h.1.2, h.2⟩

theorem path_rooted (hp : p.Fits) (texts : List Char → Option (List Char)) :
    IsRooted (p.filledPath texts) := by
  unfold filledPath
  rcases hp.rooted with h | h
  · exact .inl (by rw [h]; rfl)
  · obtain ⟨rest, hrest⟩ := List.head?_eq_some_iff.1 h
    exact .inr (by rw [hrest]; rfl)

/-- A page that is filled in is an address, and its query is what went into its fields. -/
theorem split_filled (hp : p.Fits) (hs : p.Suits texts) :
    ∃ parts, split (p.filled texts) = .ok parts ∧
      parts = ⟨p.scheme.map Char.toLower, p.filledAuthority texts, kept (p.filledPath texts),
        (p.query (Field.filled texts)).getD [],
        kept ((p.fragment.map (Template.filled true texts none)).getD [])⟩ ∧
      decodeQuery parts.query = p.fields.flatMap (Field.params texts) := by
  obtain ⟨hmark, hhash⟩ := hs.path
  have hsplit := split_front hs.origin (path_rooted hp texts) hmark hhash
    (fun q hq hmem => (query_chars hs hq hmem).1 rfl)
    (p.fragment.map (Template.filled true texts none))
  have hkept : kept ((p.query (Field.filled texts)).getD []) =
      (p.query (Field.filled texts)).getD [] := by
    cases hq : p.query (Field.filled texts) with
    | none => rfl
    | some q => exact kept_of_forall fun c hc => (query_chars hs hq hc).2
  rw [hkept] at hsplit
  refine ⟨_, hsplit, rfl, ?_⟩
  have hdecode : decodeQuery (['&'].intercalate (p.fields.map (Field.filled texts))) =
      p.fields.flatMap (Field.params texts) := by
    rw [decodeQuery_intercalate, List.flatMap_map, List.flatMap_def, List.flatMap_def]
    refine congrArg List.flatten (List.map_congr_left fun field hfield => ?_)
    exact Field.decodeQuery_filled (hp.fields field hfield) (hs.fields field hfield)
  unfold query
  split
  · rename_i hnone
    rw [hnone]
    rfl
  · exact hdecode

end Page

end Dialogue.Template
