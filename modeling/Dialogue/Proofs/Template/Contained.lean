import Dialogue.Proofs.Template.Piece
import Dialogue.Proofs.Text
/-!
What a value can do to a URL that it is put into. Behind an `=` it is percent-encoded and stays the
value of one field; but a value that reads as encoded already is taken as it is, and what is in it
beside its escapes may end the field or the query.
-/
namespace Dialogue

open Dialogue.Text

namespace Url

/-- What the values of a URL should have no part in: the names of the fields in its query, and its
fragment. -/
structure Outline where
  names : List (List Char)
  fragment : Option (List Char)
  deriving DecidableEq

def fieldNames (query : List Char) : List (List Char) :=
  (splitAll '&' query).map fun field => field.takeWhile (· ≠ '=')

/-- The fragment is what follows the first `#`, and the query what follows the first `?` before
it. -/
def outline (url : List Char) : Outline where
  names := fieldNames (((cut? '?' (((cut? '#' url).map Prod.fst).getD url)).map Prod.snd).getD [])
  fragment := (cut? '#' url).map Prod.snd

section Fields

variable {c : Char} {cs query : List Char}

theorem fieldNames_amp (query : List Char) :
    fieldNames ('&' :: query) = [] :: fieldNames query := by
  simp [fieldNames, splitAll]

theorem fieldNames_cons (h : c ≠ '&') (query : List Char) :
    fieldNames (c :: query) =
      (fieldNames query).modifyHead fun name => if c = '=' then [] else c :: name := by
  obtain ⟨field, fields, hfields⟩ := List.exists_cons_of_ne_nil (splitAll_ne_nil '&' query)
  by_cases hc : c = '=' <;> simp [fieldNames, splitAll, h, hfields, hc]

theorem fieldNames_equals (query : List Char) :
    fieldNames ('=' :: query) = [] :: (fieldNames query).tail := by
  obtain ⟨field, fields, hfields⟩ := List.exists_cons_of_ne_nil (splitAll_ne_nil '&' query)
  simp [fieldNames, splitAll, hfields]

theorem tail_fieldNames_append (h : '&' ∉ cs) (query : List Char) :
    (fieldNames (cs ++ query)).tail = (fieldNames query).tail := by
  induction cs with
  | nil => rfl
  | cons c cs ih =>
      simp only [List.mem_cons, not_or] at h
      rw [List.cons_append, fieldNames_cons (Ne.symm h.1), List.tail_modifyHead, ih h.2]

theorem length_fieldNames (query : List Char) :
    (fieldNames query).length = query.count '&' + 1 := by
  induction query with
  | nil => rfl
  | cons c query ih =>
      by_cases hc : c = '&'
      · rw [hc, fieldNames_amp, List.length_cons, ih, List.count_cons_self]
      · rw [fieldNames_cons hc, List.length_modifyHead, ih, List.count_cons_of_ne hc]

end Fields

/-- A fragment with its mark. -/
def fragmentText (fragment : Option (List Char)) : List Char := fragment.elim [] ('#' :: ·)

section Outlines

variable {path query : List Char}

theorem outline_append (hmark : '?' ∉ path) (hpath : '#' ∉ path) (hquery : '#' ∉ query)
    (fragment : Option (List Char)) :
    outline (path ++ '?' :: (query ++ fragmentText fragment)) = ⟨fieldNames query, fragment⟩ := by
  have hfront : '#' ∉ path ++ '?' :: query := by simp [hpath, hquery]
  cases fragment with
  | none =>
      rw [fragmentText, Option.elim, List.append_nil]
      simp [outline, cut?_eq_none_iff.2 hfront, cut?_append hmark]
  | some fragment =>
      have hcut : cut? '#' (path ++ '?' :: (query ++ '#' :: fragment)) =
          some (path ++ '?' :: query, fragment) := by
        simpa using cut?_append hfront fragment
      simp [outline, fragmentText, hcut, cut?_append hmark]

theorem fragment_ne_of_mem (hpath : '#' ∉ path) (hquery : '#' ∈ query)
    (fragment : Option (List Char)) :
    (outline (path ++ '?' :: (query ++ fragmentText fragment))).fragment ≠ fragment := by
  obtain ⟨front, rest, rfl, hfront⟩ := List.eq_append_cons_of_mem hquery
  have hcut : cut? '#' (path ++ '?' :: (front ++ '#' :: rest ++ fragmentText fragment)) =
      some (path ++ '?' :: front, rest ++ fragmentText fragment) := by
    have hbefore : '#' ∉ path ++ '?' :: front := by simp [hpath, hfront]
    simpa using cut?_append hbefore (rest ++ fragmentText fragment)
  intro heq
  rw [outline, hcut, Option.map_some] at heq
  cases fragment with
  | none => cases heq
  | some fragment =>
      have hlength := congrArg List.length (Option.some.inj heq)
      simp [fragmentText] at hlength
      omega

end Outlines

theorem not_mem_encode {safe : Char → Bool} {cs : List Char} {x : Char} (hmark : x ≠ '%')
    (hx : isUnreserved x = false) (hsafe : safe x = false) : x ∉ encode safe cs := by
  intro hmem
  rcases mem_encode hmem with h | h | h
  · exact hmark h
  · simp [hx] at h
  · simp [hsafe] at h

end Url

namespace Template

open Dialogue.Url

/-- The parts of a template, with a text for each placeholder. -/
def spelled (text : Placeholder → List Char) (parts : List (Char ⊕ Placeholder)) : List Char :=
  parts.flatMap (Sum.elim (fun c => [c]) text)

/-- The template without its placeholders. -/
def literal (parts : List (Char ⊕ Placeholder)) : List Char := spelled (fun _ => []) parts

/-- Each placeholder directly follows an `=` in the query. -/
def InFields (parts : List (Char ⊕ Placeholder)) : Prop :=
  ∀ before p after, parts = before ++ .inr p :: after →
    before.getLast? = some (.inl '=') ∧ .inl '?' ∈ before ∧ .inl '#' ∉ before

instance (parts : List (Char ⊕ Placeholder)) : Decidable (InFields parts) :=
  decidable_of_iff
    (∀ place < parts.length, (parts[place]?.elim false Sum.isRight) = true →
      (parts.take place).getLast? = some (.inl '=') ∧
        (parts.take place).any (· = .inl '?') = true ∧
        (parts.take place).any (· = .inl '#') = false) (by
    have hmem (c : Char) (place : Nat) :
        (parts.take place).any (· = .inl c) = true ↔ .inl c ∈ parts.take place := by simp
    simp only [← Bool.not_eq_true, hmem]
    constructor
    · rintro h before p after rfl
      simpa using h before.length (by simp) (by simp)
    · intro h place hplace hright
      obtain ⟨p, hp⟩ : ∃ p, parts[place] = .inr p := by
        simpa [List.getElem?_eq_getElem hplace, Sum.isRight_iff] using hright
      refine h (parts.take place) p (parts.drop (place + 1)) ?_
      rw [← hp, ← List.drop_eq_getElem_cons hplace, List.take_append_drop])

section Spelling

variable {text : Placeholder → List Char} {parts : List (Char ⊕ Placeholder)} {p : Placeholder}
  {c : Char}

theorem spelled_append (text : Placeholder → List Char) (a b : List (Char ⊕ Placeholder)) :
    spelled text (a ++ b) = spelled text a ++ spelled text b := List.flatMap_append ..

theorem spelled_inl (text : Placeholder → List Char) (c : Char)
    (parts : List (Char ⊕ Placeholder)) :
    spelled text (.inl c :: parts) = c :: spelled text parts := rfl

theorem spelled_inr (text : Placeholder → List Char) (p : Placeholder)
    (parts : List (Char ⊕ Placeholder)) :
    spelled text (.inr p :: parts) = text p ++ spelled text parts := rfl

theorem spelled_map_inl (text : Placeholder → List Char) (cs : List Char) :
    spelled text (cs.map .inl) = cs := by
  simp [spelled, List.flatMap_map]

theorem mem_spelled :
    c ∈ spelled text parts ↔ .inl c ∈ parts ∨ ∃ p, .inr p ∈ parts ∧ c ∈ text p := by
  simp only [spelled, List.mem_flatMap]
  constructor
  · rintro ⟨part, hpart, hc⟩
    cases part with
    | inl d => exact .inl (List.mem_singleton.1 hc ▸ hpart)
    | inr p => exact .inr ⟨p, hpart, hc⟩
  · rintro (hc | ⟨p, hp, hc⟩)
    · exact ⟨.inl c, hc, List.mem_singleton.2 rfl⟩
    · exact ⟨.inr p, hp, hc⟩

theorem spelled_congr {text' : Placeholder → List Char}
    (h : ∀ p, .inr p ∈ parts → text p = text' p) : spelled text parts = spelled text' parts := by
  induction parts with
  | nil => rfl
  | cons part parts ih =>
      have hrest := ih fun p hp => h p (List.mem_cons_of_mem _ hp)
      cases part with
      | inl c => rw [spelled_inl, spelled_inl, hrest]
      | inr p => rw [spelled_inr, spelled_inr, hrest, h p List.mem_cons_self]

theorem exists_eq_map_inl (h : ∀ p, .inr p ∉ parts) : ∃ cs : List Char, parts = cs.map .inl := by
  induction parts with
  | nil => exact ⟨[], rfl⟩
  | cons part parts ih =>
      obtain ⟨cs, rfl⟩ := ih fun p hp => h p (List.mem_cons_of_mem _ hp)
      cases part with
      | inl c => exact ⟨c :: cs, rfl⟩
      | inr p => exact absurd List.mem_cons_self (h p)

end Spelling

section Parting

variable {before : Option Char} {cs : List Char} {p : Placeholder} {length : Nat}

theorem of_placeholder (h : placeholder before cs = some (p, length)) :
    p.written = cs.take length ∧ 0 < length ∧ p.afterMark = isMark before := by
  unfold placeholder at h
  split at h
  · cases h
    exact ⟨rfl, Nat.succ_pos _, rfl⟩
  · obtain ⟨path, -, h⟩ := Option.map_eq_some_iff.1 h
    cases h
    exact ⟨rfl, Nat.succ_pos _, rfl⟩

/-- A template is put together again from its parts. -/
theorem spelled_partsFrom (before : Option Char) (skip : Nat) (cs : List Char) :
    spelled Placeholder.written (partsFrom placeholder before skip cs) = cs.drop skip := by
  induction cs generalizing before skip with
  | nil => simp [partsFrom, spelled]
  | cons c cs ih =>
      cases skip with
      | succ skip => exact ih (some c) skip
      | zero =>
          rw [partsFrom]
          split
          · rename_i p length hfound
            obtain ⟨hwritten, hlength, -⟩ := of_placeholder hfound
            obtain ⟨length, rfl⟩ := Nat.exists_eq_add_of_lt hlength
            rw [spelled_inr, ih, hwritten]
            simp
          · exact congrArg (c :: ·) (ih (some c) 0)

theorem afterMark_head {back : List (Char ⊕ Placeholder)}
    (h : partsFrom placeholder before 0 cs = .inr p :: back) : p.afterMark = isMark before := by
  cases cs with
  | nil => cases h
  | cons c cs =>
      rw [partsFrom] at h
      split at h
      · rename_i q length hfound
        cases h
        exact (of_placeholder hfound).2.2
      · cases h

/-- A placeholder knows the character that it directly follows. -/
theorem afterMark_partsFrom {c : Char} {front back : List (Char ⊕ Placeholder)} {skip : Nat}
    (h : partsFrom placeholder before skip cs = front ++ .inl c :: .inr p :: back) :
    p.afterMark = isMark (some c) := by
  induction cs generalizing before skip front with
  | nil => simp [partsFrom] at h
  | cons d cs ih =>
      cases skip with
      | succ skip => exact ih h
      | zero =>
          rw [partsFrom] at h
          split at h
          · cases front with
            | nil => cases h
            | cons part front => exact ih (List.cons.inj h).2
          · cases front with
            | nil =>
                obtain ⟨hc, hrest⟩ := List.cons.inj h
                obtain rfl := Sum.inl.inj hc
                exact afterMark_head hrest
            | cons part front => exact ih (List.cons.inj h).2

theorem spelled_parts (cs : List Char) :
    spelled Placeholder.written (parts placeholder cs) = cs :=
  spelled_partsFrom none 0 cs

end Parting

section Shape

variable {text text' : Placeholder → List Char} {parts query : List (Char ⊕ Placeholder)}

/-- Parts of a query in which each placeholder directly follows an `=`. -/
def FollowEquals (query : List (Char ⊕ Placeholder)) : Prop :=
  ∀ before p after, query = before ++ .inr p :: after → before.getLast? = some (.inl '=')

/-- Values that end no field keep the names of all fields. -/
theorem fieldNames_spelled (hfollow : FollowEquals query)
    (htext : ∀ p, .inr p ∈ query → '&' ∉ text p) (htext' : ∀ p, .inr p ∈ query → '&' ∉ text' p) :
    fieldNames (spelled text query) = fieldNames (spelled text' query) := by
  -- the name of the first field is open as long as an `=` comes before the rest
  suffices h : ∀ before rest, query = before ++ rest →
      (fieldNames (spelled text rest)).tail = (fieldNames (spelled text' rest)).tail ∧
        (before.getLast? ≠ some (.inl '=') →
          fieldNames (spelled text rest) = fieldNames (spelled text' rest)) from
    (h [] query rfl).2 nofun
  intro before rest heq
  induction rest generalizing before with
  | nil => exact ⟨rfl, fun _ => rfl⟩
  | cons part rest ih =>
      obtain ⟨htail, hnames⟩ := ih (before ++ [part]) (by simp [heq])
      cases part with
      | inr p =>
          have hp : .inr p ∈ query := by simp [heq]
          refine ⟨?_, fun hopen => absurd (hfollow before p rest heq) hopen⟩
          rw [spelled_inr, spelled_inr, tail_fieldNames_append (htext p hp),
            tail_fieldNames_append (htext' p hp), htail]
      | inl c =>
          suffices hall :
              fieldNames (c :: spelled text rest) = fieldNames (c :: spelled text' rest) from
            ⟨congrArg List.tail hall, fun _ => hall⟩
          by_cases hequals : c = '='
          · rw [hequals, fieldNames_equals, fieldNames_equals, htail]
          · have hrest := hnames (by simpa using hequals)
            by_cases hamp : c = '&'
            · rw [hamp, fieldNames_amp, fieldNames_amp, hrest]
            · rw [fieldNames_cons hamp, fieldNames_cons hamp, hrest]

theorem count_spelled (text : Placeholder → List Char) (query : List (Char ⊕ Placeholder)) :
    (literal query).count '&' ≤ (spelled text query).count '&' := by
  induction query with
  | nil => exact Nat.le_refl 0
  | cons part query ih =>
      cases part with
      | inl c =>
          rw [literal, spelled_inl, spelled_inl, List.count_cons, List.count_cons]
          exact Nat.add_le_add_right ih _
      | inr p =>
          rw [literal, spelled_inr, spelled_inr, List.nil_append, List.count_append]
          exact Nat.le_add_left_of_le ih

theorem count_lt_of_mem {p : Placeholder} (hp : .inr p ∈ query) (hamp : '&' ∈ text p) :
    (literal query).count '&' < (spelled text query).count '&' := by
  obtain ⟨before, after, rfl⟩ := List.append_of_mem hp
  have hbefore := count_spelled text before
  have hafter := count_spelled text after
  have hvalue : 0 < (text p).count '&' := List.count_pos_iff.2 hamp
  simp only [literal, spelled_append, spelled_inr, List.count_append, List.nil_append] at *
  omega

theorem InFields.mark_mem {front back : List (Char ⊕ Placeholder)} {p : Placeholder}
    (h : InFields (front ++ back)) (hp : .inr p ∈ front) : .inl '?' ∈ front := by
  obtain ⟨before, after, rfl⟩ := List.append_of_mem hp
  have hmark := (h before p (after ++ back) (by simp)).2.1
  simp [hmark]

theorem InFields.hash_not_mem {front back : List (Char ⊕ Placeholder)} {p : Placeholder}
    (h : InFields (front ++ back)) (hp : .inr p ∈ back) : .inl '#' ∉ front := by
  obtain ⟨before, after, rfl⟩ := List.append_of_mem hp
  have hhash := (h (front ++ before) p after (by simp)).2.2
  simp only [List.mem_append, not_or] at hhash
  exact hhash.1

theorem InFields.followEquals {front query back : List (Char ⊕ Placeholder)}
    (h : InFields (front ++ .inl '?' :: (query ++ back))) : FollowEquals query := by
  rintro before p after rfl
  have hlast := (h (front ++ .inl '?' :: before) p (after ++ back) (by simp)).1
  rw [List.getLast?_append, List.getLast?_cons, Option.some_or] at hlast
  cases hbefore : before.getLast? with
  | none => simp [hbefore] at hlast
  | some part => simpa [hbefore] using hlast

/-- A template with placeholders in its fields is cut before and after its query. -/
theorem InFields.cut (h : InFields parts) {p : Placeholder} (hp : .inr p ∈ parts) :
    ∃ (path : List Char) (query : List (Char ⊕ Placeholder)) (fragment : Option (List Char)),
      parts = path.map .inl ++ .inl '?' :: (query ++ (fragmentText fragment).map .inl) ∧
        '?' ∉ path ∧ '#' ∉ path ∧ .inl '#' ∉ query ∧ FollowEquals query := by
  obtain ⟨before, after, rfl⟩ := List.append_of_mem hp
  obtain ⟨front, back, rfl, hfront⟩ :=
    List.eq_append_cons_of_mem (h before p after rfl).2.1
  obtain ⟨path, rfl⟩ : ∃ path : List Char, front = path.map .inl := by
    refine exists_eq_map_inl fun q hq => hfront ?_
    rw [List.append_assoc] at h
    exact h.mark_mem hq
  have hmark : '?' ∉ path := fun hmem => hfront (List.mem_map_of_mem hmem)
  have hhash : '#' ∉ path := by
    have hhole : (.inr p : Char ⊕ Placeholder) ∈ .inr p :: after := List.mem_cons_self
    have hbefore : .inl '#' ∉ path.map .inl ++ .inl '?' :: back := h.hash_not_mem hhole
    exact fun hmem => hbefore (List.mem_append_left _ (List.mem_map_of_mem hmem))
  by_cases hfragment : .inl '#' ∈ back ++ .inr p :: after
  · obtain ⟨query, tail, hrest, hquery⟩ := List.eq_append_cons_of_mem hfragment
    rw [List.append_assoc, List.cons_append, hrest] at h ⊢
    obtain ⟨fragment, rfl⟩ : ∃ fragment : List Char, tail = fragment.map .inl := by
      refine exists_eq_map_inl fun q hq => ?_
      have hsplit : InFields ((path.map .inl ++ .inl '?' :: (query ++ [.inl '#'])) ++ tail) := by
        simpa using h
      exact hsplit.hash_not_mem hq (by simp)
    exact ⟨path, query, some fragment, rfl, hmark, hhash, hquery, h.followEquals⟩
  · rw [List.append_assoc, List.cons_append] at h ⊢
    refine ⟨path, _, none, ?_, hmark, hhash, hfragment, ?_⟩
    · simp [fragmentText]
    · have hends : InFields (path.map .inl ++ .inl '?' :: ((back ++ .inr p :: after) ++ [])) := by
        simpa using h
      exact hends.followEquals

/-- The values leave the outline of the template as it is exactly if none of them ends a field or
the query. -/
theorem outline_spelled_iff (h : InFields parts) :
    outline (spelled text parts) = outline (literal parts) ↔
      ∀ p, .inr p ∈ parts → '&' ∉ text p ∧ '#' ∉ text p := by
  by_cases hholes : ∃ p, .inr p ∈ parts
  · obtain ⟨p, hp⟩ := hholes
    obtain ⟨path, query, fragment, rfl, hmark, hhash, hquery, hfollow⟩ := h.cut hp
    have hspelled (text : Placeholder → List Char) :
        spelled text (path.map .inl ++ .inl '?' :: (query ++ (fragmentText fragment).map .inl)) =
          path ++ '?' :: (spelled text query ++ fragmentText fragment) := by
      simp only [spelled_append, spelled_inl, spelled_map_inl]
    have hliteral : '#' ∉ literal query := by
      intro hmem
      rcases mem_spelled.1 hmem with hmem | ⟨q, -, hmem⟩
      · exact hquery hmem
      · cases hmem
    rw [hspelled, literal, hspelled, ← literal, outline_append hmark hhash hliteral]
    have hholes : ∀ q, .inr q ∈ path.map .inl ++ .inl '?' ::
        (query ++ (fragmentText fragment).map .inl) ↔ .inr q ∈ query := by simp
    simp only [hholes]
    constructor
    · intro heq
      have hhashless : '#' ∉ spelled text query := fun hmem =>
        fragment_ne_of_mem hhash hmem fragment (congrArg Outline.fragment heq)
      rw [outline_append hmark hhash hhashless] at heq
      refine fun q hq =>
        ⟨fun hamp => ?_, fun hmem => hhashless (mem_spelled.2 (.inr ⟨q, hq, hmem⟩))⟩
      have hlength := congrArg List.length (congrArg Outline.names heq)
      rw [length_fieldNames, length_fieldNames] at hlength
      exact absurd (Nat.succ.inj hlength).symm (Nat.ne_of_lt (count_lt_of_mem hq hamp))
    · intro htext
      have hhashless : '#' ∉ spelled text query := by
        intro hmem
        rcases mem_spelled.1 hmem with hmem | ⟨q, hq, hmem⟩
        · exact hquery hmem
        · exact (htext q hq).2 hmem
      rw [outline_append hmark hhash hhashless,
        fieldNames_spelled hfollow (fun q hq => (htext q hq).1) fun _ _ => List.not_mem_nil]
      rfl
  · have hnone : ∀ p, .inr p ∉ parts := fun p hp => hholes ⟨p, hp⟩
    refine iff_of_true (congrArg outline ?_) fun p hp => absurd hp (hnone p)
    exact spelled_congr fun p hp => absurd hp (hnone p)

end Shape

section Values

variable {data : Value} {parts : List (Char ⊕ Placeholder)} {template : String}

/-- What the value of a placeholder is written as in a query. -/
def queryText (data : Value) (p : Placeholder) : List Char :=
  match data.textAt p.path with
  | .ok (some text) => encodeQueryValue text
  | _ => []

theorem queryText_eq {p : Placeholder} {text : List Char}
    (h : data.textAt p.path = .ok (some text)) : queryText data p = encodeQueryValue text := by
  rw [queryText, h]

theorem fillParts_of_fill {encodeQuery : Bool} {text : Placeholder → List Char}
    (h : ∀ p, .inr p ∈ parts → p.fill encodeQuery data = .ok (text p)) :
    fillParts encodeQuery data parts = .ok (spelled text parts) := by
  induction parts with
  | nil => rfl
  | cons part parts ih =>
      have hrest := ih fun p hp => h p (List.mem_cons_of_mem _ hp)
      cases part with
      | inl c =>
          rw [fillParts, hrest]
          rfl
      | inr p =>
          rw [fillParts, h p List.mem_cons_self, hrest]
          rfl

theorem fillParts_spelled
    (h : ∀ p, .inr p ∈ parts → p.afterMark = true ∧ ∃ text, data.textAt p.path = .ok (some text)) :
    fillParts true data parts = .ok (spelled (queryText data) parts) := by
  refine fillParts_of_fill fun p hp => ?_
  obtain ⟨hmark, text, htext⟩ := h p hp
  rw [fill_eq, htext, hmark, queryText_eq htext]
  rfl

/-- An encoded value ends neither a field nor the query; one that is taken as it is may. -/
theorem encodeQueryValue_ends_iff (text : List Char) :
    '&' ∉ encodeQueryValue text ∧ '#' ∉ encodeQueryValue text ↔
      (decode text ≠ text → '&' ∉ text ∧ '#' ∉ text) := by
  unfold encodeQueryValue
  split
  · rename_i hdecode
    exact ⟨fun h _ => h, fun h => h hdecode⟩
  · rename_i hdecode
    refine iff_of_true ⟨?_, ?_⟩ fun h => absurd h hdecode
    · exact not_mem_encode (by decide) (by decide) (by decide)
    · exact not_mem_encode (by decide) (by decide) (by decide)

/-- The parts of a template as it is filled in. -/
def partsOf (template : String) : List (Char ⊕ Placeholder) :=
  Text.parts placeholder (plainBraces template.toList)

theorem InFields.afterMark (h : InFields (partsOf template)) {p : Placeholder}
    (hp : .inr p ∈ partsOf template) : p.afterMark = true := by
  obtain ⟨before, after, hparts⟩ := List.append_of_mem hp
  obtain ⟨front, rfl⟩ := List.getLast?_eq_some_iff.1 (h before p after hparts).1
  rw [List.append_assoc] at hparts
  exact afterMark_partsFrom hparts

/-- Where every placeholder is the value of a field, and has a value, the filled URL has the fields
and the fragment of its template exactly if no value that reads as percent-encoded already ends a
field or the query. The placeholders themselves count for nothing in the template, as if they were
read over, unless what is written in them ends a field or the query. -/
theorem fields_contain_values_iff (hfields : InFields (partsOf template))
    (hvalues : ∀ p, .inr p ∈ partsOf template → ∃ text, data.textAt p.path = .ok (some text)) :
    (∃ url, fillText template data true = .ok url ∧
      (outline url.toList = outline (literal (partsOf template)) ↔
        ∀ p, .inr p ∈ partsOf template → ∀ text, data.textAt p.path = .ok (some text) →
          decode text ≠ text → '&' ∉ text ∧ '#' ∉ text)) ∧
      (outline (plainBraces template.toList) = outline (literal (partsOf template)) ↔
        ∀ p, .inr p ∈ partsOf template → '&' ∉ p.written ∧ '#' ∉ p.written) := by
  have hfilled : fillText template data true =
      .ok (String.ofList (spelled (queryText data) (partsOf template))) := by
    have hparts := fillParts_spelled fun p hp => ⟨hfields.afterMark hp, hvalues p hp⟩
    rw [fillText]
    show (do return String.ofList (← fillParts true data (partsOf template))) = _
    rw [hparts]
    rfl
  refine ⟨⟨_, hfilled, ?_⟩, ?_⟩
  · rw [String.toList_ofList, outline_spelled_iff hfields]
    refine forall₂_congr fun p hp => ?_
    obtain ⟨text, htext⟩ := hvalues p hp
    rw [queryText_eq htext, encodeQueryValue_ends_iff]
    constructor
    · intro h other hother
      obtain rfl : text = other := Option.some.inj (Except.ok.inj (htext.symm.trans hother))
      exact h
    · exact fun h => h text htext
  · have hwritten : spelled Placeholder.written (partsOf template) = plainBraces template.toList :=
      spelled_parts _
    rw [← hwritten, outline_spelled_iff hfields]

/-- Two fields and a fragment; one of the values is no text. -/
def search : String := "/find?q={term}&page={{ page }}#top"

def wanted : Value := .object [("term", .text "50% & more #1"), ("page", .int 2)]

theorem search_contains_wanted :
    InFields (partsOf search) ∧
      (∀ p, .inr p ∈ partsOf search → ∃ text, wanted.textAt p.path = .ok (some text)) ∧
      (∃ url, fillText search wanted true = .ok url ∧
        outline url.toList = outline (literal (partsOf search))) := by
  have hfields : InFields (partsOf search) := by decide +kernel
  have hholes : ∀ p, .inr p ∈ partsOf search → p.path = "term".toList ∨ p.path = "page".toList := by
    have hall : (partsOf search).all (Sum.elim (fun _ => true) fun p =>
        p.path = "term".toList || p.path = "page".toList) = true := by decide +kernel
    intro p hp
    simpa using List.all_eq_true.1 hall (.inr p) hp
  have hterm : wanted.textAt "term".toList = .ok (some "50% & more #1".toList) := rfl
  have hpage : wanted.textAt "page".toList = .ok (some "2".toList) := rfl
  have hvalues : ∀ p, .inr p ∈ partsOf search → ∃ text, wanted.textAt p.path = .ok (some text) := by
    intro p hp
    rcases hholes p hp with hpath | hpath
    · exact ⟨_, hpath ▸ hterm⟩
    · exact ⟨_, hpath ▸ hpage⟩
  obtain ⟨⟨url, hurl, hiff⟩, -⟩ := fields_contain_values_iff hfields hvalues
  refine ⟨hfields, hvalues, url, hurl, hiff.2 fun p hp text htext hdecode => ?_⟩
  rcases hholes p hp with hpath | hpath
  · rw [hpath, hterm] at htext
    cases htext
    exact absurd (by decide +kernel) hdecode
  · rw [hpath, hpage] at htext
    cases htext
    decide

/-- A value that reads as encoded already adds a field of its own. -/
theorem coded_value_adds_field :
    fillText "/find?q={term}" (.object [("term", .text "a%20b&admin=1")]) true =
        .ok "/find?q=a%20b&admin=1" ∧
      (outline "/find?q=a%20b&admin=1".toList).names = ["q".toList, "admin".toList] ∧
      (outline (literal (partsOf "/find?q={term}"))).names = ["q".toList] := by
  refine ⟨?_, by decide +kernel, by decide +kernel⟩
  rfl

end Values

end Template

end Dialogue
