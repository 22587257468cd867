import Dialogue.Proofs.Text
import Dialogue.Url.Parts
/-!
A URL that is put together from its parts is cut into the same parts.
-/
namespace Dialogue.Url

open Dialogue.Text

/-- Tabs and line breaks count for nothing in a URL. -/
def isKept (c : Char) : Bool := c ≠ '\t' && c ≠ '\n' && c ≠ '\r'

def kept (cs : List Char) : List Char := cs.filter isKept

/-- What a URL starts with that has an authority. -/
structure IsOrigin (scheme authority : List Char) : Prop where
  schemed : isScheme scheme = true
  stated : authority ≠ []
  bounded : ∀ c ∈ authority, endsAuthority c = false
  bracketed : bracketsFit authority = true
  shown : hasHiddenDelimiter authority = false
  unbroken : ∀ c ∈ authority, isKept c = true

instance (scheme authority : List Char) : Decidable (IsOrigin scheme authority) :=
  decidable_of_iff (isScheme scheme = true ∧ authority ≠ [] ∧
      authority.all (fun c => !endsAuthority c) = true ∧ bracketsFit authority = true ∧
      hasHiddenDelimiter authority = false ∧ authority.all isKept = true)
    ⟨fun ⟨schemed, stated, bounded, bracketed, shown, unbroken⟩ =>
        ⟨schemed, stated, by simpa using bounded, bracketed, shown, List.all_eq_true.1 unbroken⟩,
      fun h => ⟨h.schemed, h.stated, by simpa using h.bounded, h.bracketed, h.shown,
        List.all_eq_true.2 h.unbroken⟩⟩

def front (scheme authority : List Char) : List Char := scheme ++ ':' :: '/' :: '/' :: authority

variable {path query fragment cs : List Char} {c : Char}

theorem kept_of_forall (h : ∀ c ∈ cs, isKept c = true) : kept cs = cs := List.filter_eq_self.2 h

theorem mem_kept (h : c ∈ kept cs) : c ∈ cs := (List.mem_filter.1 h).1

section Schemes

theorem toNat_of_isSchemeChar (h : isSchemeChar c = true) : 43 ≤ c.toNat ∧ c ≠ ':' := by
  constructor
  · rcases Nat.lt_or_ge c.toNat 43 with hlow | hhigh
    · have hc := of_toNat_lt (fun c => isSchemeChar c = false) (by decide) hlow
      cases h.symm.trans hc
    · exact hhigh
  · rintro rfl
    exact absurd h (by decide)

theorem isKept_of_lt (h : 32 < c.toNat) : isKept c = true := by
  have hne (d : Char) (hd : d.toNat ≤ 32) : c ≠ d := by
    rintro rfl
    omega
  simp [isKept, hne '\t' (by decide), hne '\n' (by decide), hne '\r' (by decide)]

theorem toLower_of_not_isUpper (h : c.isUpper = false) : c.toLower = c := by
  have hno : ¬ (c.val ≥ 'A'.val ∧ c.val ≤ 'Z'.val) := of_decide_eq_false h
  exact dif_neg hno

theorem isAlpha_toLower (h : c.isAlpha = true) : c.toLower.isAlpha = true := by
  by_cases hupper : c.isUpper = true
  · have hbounds : c.val ≥ 'A'.val ∧ c.val ≤ 'Z'.val := of_decide_eq_true hupper
    exact of_toNat_lt (fun c => c.isUpper = true → c.toLower.isAlpha = true) (b := 91) (by decide)
      (Nat.lt_succ_of_le (UInt32.le_iff_toNat_le.1 hbounds.2)) hupper
  · rwa [toLower_of_not_isUpper (Bool.eq_false_iff.2 hupper)]

theorem isSchemeChar_toLower (h : isSchemeChar c = true) : isSchemeChar c.toLower = true := by
  by_cases hupper : c.isUpper = true
  · have halpha := isAlpha_toLower (c := c) (Bool.or_eq_true_iff.2 (.inl hupper))
    simp [isSchemeChar, Char.isAlphanum, halpha]
  · rwa [toLower_of_not_isUpper (Bool.eq_false_iff.2 hupper)]

theorem isScheme_toLower {scheme : List Char} (h : isScheme scheme = true) :
    isScheme (scheme.map Char.toLower) = true := by
  simp only [isScheme, Bool.and_eq_true, List.all_eq_true] at h ⊢
  obtain ⟨hhead, hall⟩ := h
  constructor
  · cases scheme with
    | nil => exact hhead
    | cons c scheme =>
        have hc : c.isAlpha = true := hhead
        exact isAlpha_toLower hc
  · intro d hd
    obtain ⟨c, hc, rfl⟩ := List.mem_map.1 hd
    exact isSchemeChar_toLower (hall c hc)

end Schemes

theorem IsOrigin.lower {scheme authority : List Char} (h : IsOrigin scheme authority) :
    IsOrigin (scheme.map Char.toLower) authority :=
  { h with schemed := isScheme_toLower h.schemed }

/-- The rest of a URL after its authority. -/
def tail (path : List Char) (query fragment : Option (List Char)) : List Char :=
  path ++ (query.elim [] ('?' :: ·) ++ fragment.elim [] ('#' :: ·))

def IsRooted (path : List Char) : Prop := path = [] ∨ path.head? = some '/'

theorem cutAt_append {mark : Char} {a : List Char} (h : mark ∉ a) (b : List Char) :
    cutAt mark (a ++ mark :: b) = (a, b) := by
  rw [cutAt, cut?_append h]
  rfl

theorem cutAt_of_not_mem {mark : Char} {a : List Char} (h : mark ∉ a) : cutAt mark a = (a, []) := by
  rw [cutAt, cut?_eq_none_iff.2 h]
  rfl

theorem cutAt_part {mark : Char} {a : List Char} (h : mark ∉ a) (part : Option (List Char)) :
    cutAt mark (a ++ part.elim [] (mark :: ·)) = (a, part.getD []) := by
  cases part with
  | none => simpa using cutAt_of_not_mem h
  | some b => exact cutAt_append h b

theorem kept_append (a b : List Char) : kept (a ++ b) = kept a ++ kept b := List.filter_append ..

theorem kept_part {mark : Char} (h : isKept mark = true) (part : Option (List Char)) :
    kept (part.elim [] (mark :: ·)) = (part.map kept).elim [] (mark :: ·) := by
  cases part with
  | none => rfl
  | some b => simp [kept, h]

theorem kept_tail (path : List Char) (query fragment : Option (List Char)) :
    kept (tail path query fragment) = tail (kept path) (query.map kept) (fragment.map kept) := by
  simp only [tail, kept_append, kept_part (show isKept '?' = true by decide),
    kept_part (show isKept '#' = true by decide)]

theorem cut_tail {path : List Char} (hmark : '?' ∉ path) (hhash : '#' ∉ path)
    {query : Option (List Char)} (hquery : ∀ q ∈ query, '#' ∉ q) (fragment : Option (List Char)) :
    cutAt '#' (tail path query fragment) = (path ++ query.elim [] ('?' :: ·), fragment.getD []) ∧
      cutAt '?' (path ++ query.elim [] ('?' :: ·)) = (path, query.getD []) := by
  have hbefore : '#' ∉ path ++ query.elim [] ('?' :: ·) := by
    cases query with
    | none => simpa using hhash
    | some q => simp [hhash, hquery q rfl]
  rw [tail, ← List.append_assoc]
  exact ⟨cutAt_part hbefore fragment, cutAt_part hmark query⟩

theorem isScheme_chars {scheme : List Char} (h : isScheme scheme = true) {c : Char}
    (hc : c ∈ scheme) : isSchemeChar c = true := by
  simp only [isScheme, Bool.and_eq_true, List.all_eq_true] at h
  exact h.2 c hc

namespace IsOrigin

variable {scheme authority rest : List Char}

theorem scheme_chars (h : IsOrigin scheme authority) {c : Char} (hc : c ∈ scheme) :
    43 ≤ c.toNat ∧ c ≠ ':' :=
  toNat_of_isSchemeChar (isScheme_chars h.schemed hc)

theorem scheme_ne_nil (h : IsOrigin scheme authority) : scheme ≠ [] := by
  rintro rfl
  exact absurd h.schemed (by decide)

theorem clean_front (h : IsOrigin scheme authority) (rest : List Char) :
    clean (front scheme authority ++ rest) = front scheme authority ++ kept rest := by
  obtain ⟨c, cs, hscheme⟩ := List.exists_cons_of_ne_nil h.scheme_ne_nil
  have hc : ¬ c.toNat ≤ 32 := by
    have hlow := h.scheme_chars (c := c) (by simp [hscheme])
    omega
  have hfront : kept (front scheme authority) = front scheme authority := kept_of_forall fun d hd => by
    simp only [front, List.mem_append, List.mem_cons] at hd
    rcases hd with hd | rfl | rfl | rfl | hd
    · have hlow := h.scheme_chars hd
      exact isKept_of_lt (by omega)
    · decide
    · decide
    · decide
    · exact h.unbroken d hd
  have hdrop : (front scheme authority ++ rest).dropWhile (fun c => c.toNat ≤ 32) =
      front scheme authority ++ rest := by
    simp [front, hscheme, hc]
  rw [clean, hdrop]
  exact (kept_append _ _).trans (by rw [hfront])

theorem cutScheme_front (h : IsOrigin scheme authority) (rest : List Char) :
    cutScheme (front scheme authority ++ rest) =
      (scheme.map Char.toLower, '/' :: '/' :: (authority ++ rest)) := by
  have hcolon : ':' ∉ scheme := fun hmem => (h.scheme_chars hmem).2 rfl
  have hcut := cut?_append hcolon ('/' :: '/' :: (authority ++ rest))
  simp only [cutScheme, front, List.append_assoc, List.cons_append, hcut, h.schemed, if_true]

theorem cutAuthority_front (h : IsOrigin scheme authority)
    (hrest : ∀ c ∈ rest.head?, endsAuthority c = true) :
    cutAuthority ('/' :: '/' :: (authority ++ rest)) = (authority, rest) := by
  have hall : ∀ c ∈ authority, (!endsAuthority c) = true := fun c hc => by simp [h.bounded c hc]
  simp only [cutAuthority]
  rw [List.takeWhile_append_of_pos hall, List.dropWhile_append_of_pos hall]
  cases rest with
  | nil => simp
  | cons c rest => simp [hrest c rfl]

end IsOrigin

theorem tail_head {path : List Char} (h : IsRooted path) (query fragment : Option (List Char)) :
    ∀ c ∈ (tail path query fragment).head?, endsAuthority c = true := by
  intro c hc
  rcases h with rfl | hhead
  · cases query with
    | none =>
        cases fragment with
        | none => cases hc
        | some f =>
            cases hc
            decide
    | some q =>
        cases hc
        decide
  · cases path with
    | nil => cases hhead
    | cons d path =>
        cases hhead
        cases hc
        decide

theorem kept_rooted {path : List Char} (h : IsRooted path) : IsRooted (kept path) := by
  rcases h with rfl | hhead
  · exact .inl rfl
  · cases path with
    | nil => exact .inl rfl
    | cons d path =>
        cases hhead
        exact .inr (by simp [kept, show isKept '/' = true by decide])

theorem split_front {scheme authority path : List Char} (h : IsOrigin scheme authority)
    (hrooted : IsRooted path) (hmark : '?' ∉ path) (hhash : '#' ∉ path)
    {query : Option (List Char)} (hquery : ∀ q ∈ query, '#' ∉ q) (fragment : Option (List Char)) :
    split (front scheme authority ++ tail path query fragment) =
      .ok ⟨scheme.map Char.toLower, authority, kept path, kept (query.getD []),
        kept (fragment.getD [])⟩ := by
  have hkeptQuery : ∀ q ∈ query.map kept, '#' ∉ q := by
    intro q hq hmem
    obtain ⟨q', hq', rfl⟩ := Option.map_eq_some_iff.1 hq
    exact hquery q' hq' (mem_kept hmem)
  obtain ⟨hcutHash, hcutMark⟩ := cut_tail (fun hmem => hmark (mem_kept hmem))
    (fun hmem => hhash (mem_kept hmem)) hkeptQuery (fragment.map kept)
  unfold split
  rw [h.clean_front, kept_tail, h.cutScheme_front]
  simp only
  rw [h.cutAuthority_front (tail_head (kept_rooted hrooted) _ _)]
  simp only [hcutHash, hcutMark, h.bracketed, h.shown]
  cases query <;> cases fragment <;> rfl

end Dialogue.Url
