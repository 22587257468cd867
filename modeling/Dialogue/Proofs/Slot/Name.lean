import Dialogue.Text.Word
import Dialogue.Proofs.Template.Substitution
import Dialogue.Proofs.Text.Blank
import Mathlib.Data.List.TakeWhile
/-!
Names of slots in templates. What stands in single braces is read as a path, so a slot is found
under its own name exactly if the name is a path of one step.
-/
namespace Dialogue.Text

variable {α : Type} {pattern : Pattern α} {before : Option Char} {skip : Nat} {cs : List Char} {a : α}

theorem findFrom_length (pattern : Pattern α) (before : Option Char) (cs : List Char) :
    findFrom pattern before cs.length cs = [] := by
  induction cs generalizing before with
  | nil => rfl
  | cons c cs ih => exact ih (some c)

/-- What is found stands at the front of some rest of the text. -/
theorem of_mem_findFrom (h : a ∈ findFrom pattern before skip cs) :
    ∃ before rest length, rest <:+ cs ∧ pattern before rest = some (a, length) := by
  induction cs generalizing before skip with
  | nil => cases skip <;> cases h
  | cons c cs ih =>
      have hrest {before : Option Char} {skip : Nat} (h : a ∈ findFrom pattern before skip cs) :
          ∃ before rest length, rest <:+ c :: cs ∧ pattern before rest = some (a, length) := by
        obtain ⟨before, rest, length, hrest, hfound⟩ := ih h
        exact ⟨before, rest, length, hrest.trans (List.suffix_cons c cs), hfound⟩
      cases skip with
      | succ skip => exact hrest h
      | zero =>
          rw [findFrom] at h
          split at h
          · rename_i found length hfound
            obtain rfl | h := List.mem_cons.1 h
            · exact ⟨before, c :: cs, length, List.suffix_refl _, hfound⟩
            · exact hrest h
          · exact hrest h

theorem of_mem_partsFrom (h : .inr a ∈ partsFrom pattern before skip cs) :
    ∃ before rest length, rest <:+ cs ∧ pattern before rest = some (a, length) := by
  induction cs generalizing before skip with
  | nil => cases skip <;> cases h
  | cons c cs ih =>
      have hrest {before : Option Char} {skip : Nat}
          (h : .inr a ∈ partsFrom pattern before skip cs) :
          ∃ before rest length, rest <:+ c :: cs ∧ pattern before rest = some (a, length) := by
        obtain ⟨before, rest, length, hrest, hfound⟩ := ih h
        exact ⟨before, rest, length, hrest.trans (List.suffix_cons c cs), hfound⟩
      cases skip with
      | succ skip => exact hrest h
      | zero =>
          rw [partsFrom] at h
          split at h
          · rename_i found length hfound
            obtain heq | h := List.mem_cons.1 h
            · cases heq
              exact ⟨before, c :: cs, length, List.suffix_refl _, hfound⟩
            · exact hrest h
          · exact hrest ((List.mem_cons.1 h).resolve_left (by rintro ⟨⟩))

end Dialogue.Text

namespace Dialogue.Slot

open Dialogue.Text Dialogue.Template

/-- The hole of a template for a name in single braces. -/
def hole (k : String) : Hole := ⟨false, k.toList⟩

/-- The template that is this hole. -/
def holeText (k : String) : String := String.ofList (hole k).text

/-- Names that stand in single braces and are paths of one step there. -/
structure IsName (k : String) : Prop where
  fits : (hole k).Fits
  plain : ∀ c ∈ k.toList, Step.isNameChar c = true
  codeless : Codeless k.toList

instance (k : String) : Decidable (IsName k) :=
  decidable_of_iff ((hole k).Fits ∧ (k.toList.all Step.isNameChar = true) ∧ Codeless k.toList)
    ⟨fun ⟨fits, plain, codeless⟩ => ⟨fits, List.all_eq_true.1 plain, codeless⟩,
      fun h => ⟨h.fits, List.all_eq_true.2 h.plain, h.codeless⟩⟩

variable {k : String} {slots : Slots} {v : Value}

section Reading

theorem toNat_lt_of_isAsciiWord {c : Char} (h : isAsciiWord c = true) : c.toNat < 128 := by
  delta isAsciiWord Char.isAlphanum Char.isAlpha Char.isUpper Char.isLower Char.isDigit at h
  simp only [Bool.or_eq_true, Bool.and_eq_true, decide_eq_true_eq, ge_iff_le,
    UInt32.le_iff_toNat_le] at h
  rcases h with h | rfl
  · simp only [Char.isValue, Char.reduceVal, UInt32.reduceToNat, Char.toNat_val] at h
    omega
  · decide

/-- Identifiers are names. -/
theorem IsName.of_word (hk : k ≠ "") (hword : ∀ c ∈ k.toList, isAsciiWord c = true) :
    IsName k := by
  have hall (c : Char) (hc : c ∈ k.toList) :
      endsPath c = false ∧ Step.isNameChar c = true ∧ c ≠ '%' :=
    of_toNat_lt (fun c => isAsciiWord c = true →
      endsPath c = false ∧ Step.isNameChar c = true ∧ c ≠ '%') (by decide)
      (toNat_lt_of_isAsciiWord (hword c hc)) (hword c hc)
  have hpercent : '%' ∉ k.toList := fun hmem => (hall _ hmem).2.2 rfl
  refine ⟨⟨?_, fun c hc => (hall c hc).1⟩, fun c hc => (hall c hc).2.1, ?_, ?_⟩
  · exact mt String.toList_eq_nil_iff.1 hk
  · exact fun hcode => hpercent (hcode.subset (by decide))
  · exact fun hcode => hpercent (hcode.subset (by decide))

theorem trimmed_of_fits (h : (hole k).Fits) : Trimmed k.toList := by
  refine trimmed_of_not_blank fun c hc => ?_
  have hends : endsPath c = false := h.2 c hc
  simp only [endsPath, Bool.or_eq_false_iff] at hends
  exact hends.1.1.1.1.2

/-- Braces in code do not reach across the braces of the hole. -/
theorem plainBraces_hole (k : String) :
    plainBraces (hole k).text = '\x7b' :: (plainBraces k.toList ++ ['\x7d']) := by
  have hopen : plainBraces ([] ++ '\x7b' :: (k.toList ++ ['\x7d'])) =
      '\x7b' :: plainBraces (k.toList ++ ['\x7d']) := plainBraces_append (by decide) [] _
  have hclose : plainBraces (k.toList ++ '\x7d' :: []) = plainBraces k.toList ++ ['\x7d'] :=
    plainBraces_append (by decide) _ []
  exact hopen.trans (congrArg _ hclose)

theorem pathKeys_of_plain (hne : k.toList ≠ []) (htrimmed : Trimmed k.toList)
    (hplain : ∀ c ∈ k.toList, Step.isNameChar c = true) : pathKeys k = .ok [.name k] := by
  have hfound : findAll Step.pattern k.toList = [.key k.toList] := by
    obtain ⟨c, cs, hcs⟩ := List.exists_cons_of_ne_nil hne
    rw [hcs] at hplain htrimmed ⊢
    have hc : c ≠ '[' := by
      rintro rfl
      exact absurd (hplain _ (.head _)) (by decide)
    have htake : (c :: cs).takeWhile Step.isNameChar = c :: cs := List.takeWhile_eq_self_iff.2 hplain
    have hstep : Step.pattern none (c :: cs) = some (.key (c :: cs), (c :: cs).length) := by
      unfold Step.pattern
      split
      · rename_i heq
        exact absurd (List.cons.inj heq).1 hc
      · simp only [htake, strip_eq_self htrimmed]
        rfl
    rw [findAll, findFrom, hstep]
    simp only [List.length_cons, Nat.add_sub_cancel, findFrom_length]
  rw [pathKeys, hfound]
  show Except.ok [Key.name (String.ofList k.toList)] = _
  rw [String.ofList_toList]

theorem IsName.ne_empty (h : IsName k) : k ≠ "" := by
  rintro rfl
  exact h.fits.1 rfl

/-- A name leads to its slot. -/
theorem IsName.lookup (h : IsName k) (slots : Slots) :
    (Value.object slots).lookup k = .ok ((Mapping.get? slots k).getD .null) := by
  have hne := h.ne_empty
  have hkeys := pathKeys_of_plain h.fits.1 (trimmed_of_fits h.fits) h.plain
  simp only [Value.lookup, hne, Value.isBranch, hkeys]
  cases hslot : Mapping.get? slots k <;>
    simp [Value.walk, Value.child, hslot, bind, Except.bind, pure, Except.pure]

theorem IsName.fillText_eq (h : IsName k) (slots : Slots) :
    fillText (holeText k) (.object slots) false =
      let value := (Mapping.get? slots k).getD .null
      if value.isNull then .ok (holeText k) else value.toText := by
  have hparts : parts placeholder (plainBraces (hole k).text) =
      [.inr ⟨(hole k).text, k.toList, false⟩] := by
    have hfits : ∀ piece ∈ [Piece.hole (hole k)], piece.Fits := List.forall_mem_singleton.2 h.fits
    have hpath : (hole k).path = k.toList := strip_eq_self (trimmed_of_fits h.fits)
    have hwritten : plainBraces (hole k).text = written [.hole (hole k)] := by
      rw [plainBraces_hole, plainBraces_eq_self_iff.2 h.codeless]
      exact (List.append_nil _).symm
    rw [hwritten]
    refine (partsFrom_written hfits none).trans ?_
    rw [found, found, hpath]
    rfl
  rw [fillText, holeText, String.toList_ofList, hparts]
  simp only [fillParts, Placeholder.fill, String.ofList_toList, h.lookup]
  generalize (Mapping.get? slots k).getD .null = value
  cases hnull : value.isNull with
  | true => simp [hnull, bind, Except.bind, pure, Except.pure]
  | false => cases htext : value.toText <;> simp [hnull, htext, bind, Except.bind, pure, Except.pure]

/-- A slot is read under its name. -/
theorem IsName.fillText_of_value (h : IsName k) (hv : Mapping.get? slots k = some v)
    (hnull : v.isNull = false) :
    fillText (holeText k) (.object slots) false = v.toText := by
  rw [h.fillText_eq, hv]
  simp only [Option.getD_some, hnull]
  rfl

theorem IsName.fillText_of_none (h : IsName k) (hv : Mapping.get? slots k = none) :
    fillText (holeText k) (.object slots) false = .ok (holeText k) := by
  rw [h.fillText_eq, hv]
  rfl

end Reading

section Converse

variable {cs path : List Char} {c : Char}

theorem mem_replaceFrom {old new : List Char} {skip : Nat} (h : c ∈ replaceFrom old new skip cs) :
    c ∈ new ∨ c ∈ cs := by
  induction cs generalizing skip with
  | nil => cases skip <;> cases h
  | cons d cs ih =>
      cases skip with
      | succ skip => exact (ih h).imp_right (List.mem_cons_of_mem d)
      | zero =>
          rw [replaceFrom] at h
          split at h
          · rcases List.mem_append.1 h with h | h
            · exact .inl h
            · exact (ih h).imp_right (List.mem_cons_of_mem d)
          · rcases List.mem_cons.1 h with rfl | h
            · exact .inr (.head cs)
            · exact (ih h).imp_right (List.mem_cons_of_mem d)

theorem mem_plainBraces (h : c ∈ plainBraces cs) : isBrace c = true ∨ c ∈ cs := by
  rcases mem_replaceFrom h with h | h
  · exact .inl (by simp_all [isBrace])
  · exact (mem_replaceFrom h).imp_left fun h => by simp_all [isBrace]

theorem of_run? {stop : Char → Bool} {closing : List Char} (h : run? stop closing cs = some path) :
    ∃ rest, cs = path ++ (closing ++ rest) := by
  simp only [run?] at h
  split at h
  · cases h
  · rename_i hclosing
    simp only [Bool.or_eq_true, Bool.not_eq_true', not_or, Bool.not_eq_false,
      List.isPrefixOf_iff_prefix] at hclosing
    obtain ⟨rest, hrest⟩ := hclosing.2
    cases h
    obtain ⟨tail, htail⟩ := List.takeWhile_prefix (fun c => !stop c) (l := cs)
    have hdrop : closing ++ rest = tail := by
      rw [hrest]
      nth_rewrite 2 [← htail]
      exact List.drop_left
    exact ⟨rest, hdrop ▸ htail.symm⟩

/-- The path of a placeholder is part of it, and leaves room for its braces. -/
theorem path_of_placeholder {before : Option Char} {p : Placeholder} {length : Nat}
    (h : placeholder before cs = some (p, length)) :
    p.path <:+: cs ∧ p.path.length + 2 ≤ cs.length := by
  obtain ⟨front, path, back, hpath, hcs, hroom⟩ : ∃ front path back, p.path = strip path ∧
      cs = front ++ path ++ back ∧ 2 ≤ front.length + back.length := by
    unfold placeholder at h
    split at h
    · rename_i path hdouble
      cases h
      unfold double? at hdouble
      split at hdouble
      · obtain ⟨rest, rfl⟩ := of_run? hdouble
        exact ⟨['\x7b', '\x7b'], path, _, rfl, rfl, by simp⟩
      · cases hdouble
    · obtain ⟨path, hsingle, h⟩ := Option.map_eq_some_iff.1 h
      cases h
      unfold single? at hsingle
      split at hsingle
      · obtain ⟨rest, rfl⟩ := of_run? hsingle
        exact ⟨['\x7b'], path, _, rfl, rfl, by simp; omega⟩
      · cases hsingle
  have hlength := (infix_strip path).length_le
  rw [hpath, hcs]
  refine ⟨(infix_strip path).trans ⟨front, back, rfl⟩, ?_⟩
  simp only [List.length_append]
  omega

theorem quote_of_inside? {name rest : List Char} (h : Step.inside? cs = some (.key name, rest)) :
    singleQuote ∈ cs ∨ doubleQuote ∈ cs := by
  cases cs with
  | nil => cases h
  | cons c after =>
      simp only [Step.inside?] at h
      split at h
      · rename_i hquote
        simp only [Bool.or_eq_true, decide_eq_true_eq] at hquote
        rcases hquote with rfl | rfl
        · exact .inl (.head after)
        · exact .inr (.head after)
      · split at h
        · split at h <;> cases h
        · split at h <;> cases h

theorem quote_of_bracketed? {name rest : List Char}
    (h : Step.bracketed? cs = some (.key name, rest)) : singleQuote ∈ cs ∨ doubleQuote ∈ cs := by
  obtain ⟨⟨step, left⟩, hinside, h⟩ := Option.bind_eq_some_iff.1 h
  simp only at h
  split at h
  · cases h
    have hsubset : stripLeft cs ⊆ cs := (List.dropWhile_suffix isBlank).subset
    exact (quote_of_inside? hinside).imp (@hsubset _) (@hsubset _)
  · cases h

/-- A path without quotes has no quoted keys. -/
theorem of_key_mem_steps {name : List Char} (hquotes : singleQuote ∉ path ∧ doubleQuote ∉ path)
    (h : Step.key name ∈ findAll Step.pattern path) :
    (∀ c ∈ name, Step.isNameChar c = true) ∧ name.length ≤ path.length := by
  obtain ⟨before, rest, length, hrest, hfound⟩ := of_mem_findFrom h
  unfold Step.pattern at hfound
  split at hfound
  · rename_i after
    obtain ⟨⟨step, left⟩, hbracketed, hfound⟩ := Option.map_eq_some_iff.1 hfound
    cases hfound
    have hafter {c : Char} (hc : c ∈ after) : c ∈ path := hrest.subset (.tail _ hc)
    rcases quote_of_bracketed? hbracketed with hquote | hquote
    · exact absurd (hafter hquote) hquotes.1
    · exact absurd (hafter hquote) hquotes.2
  · simp only at hfound
    split at hfound
    · cases hfound
    · cases hfound
      have hfront := List.takeWhile_prefix Step.isNameChar (l := rest)
      have hinside := infix_strip (rest.takeWhile Step.isNameChar)
      refine ⟨fun c hc => List.mem_takeWhile_imp (hinside.subset hc), ?_⟩
      exact hinside.length_le.trans (hfront.length_le.trans hrest.length_le)

/-- A number is printed in characters of a name. -/
theorem of_print {n : Int} (h : Numeral.print n = .ok k) :
    ∀ c ∈ k.toList, Step.isNameChar c = true ∧ c ≠ '%' := by
  have hdigit {c : Char} (hc : c ∈ (toString n.natAbs).toList) :
      Step.isNameChar c = true ∧ c ≠ '%' := by
    rw [Nat.toString_eq_repr, Nat.toList_repr] at hc
    obtain ⟨hlow, hhigh⟩ := isAsciiDigit_iff.1 (isAsciiDigit_toDigits hc)
    refine ⟨?_, ?_⟩
    · simp only [Step.isNameChar, Bool.and_eq_true, decide_eq_true_eq, ne_eq]
      refine ⟨⟨?_, ?_⟩, ?_⟩ <;> (rintro rfl; revert hlow hhigh; decide)
    · rintro rfl
      revert hlow
      decide
  unfold Numeral.print at h
  simp only at h
  split at h
  · cases h
  · cases h
    intro c hc
    split at hc
    · rw [String.toList_append] at hc
      rcases List.mem_append.1 hc with hc | hc
      · obtain rfl : c = '-' := by simpa using hc
        exact ⟨by decide, by decide⟩
      · exact hdigit hc
    · exact hdigit hc

theorem step_of_pathKeys {path : String} {keys : List Key}
    (h : pathKeys path = .ok (.name k :: keys)) :
    .key k.toList ∈ findAll Step.pattern path.toList := by
  unfold pathKeys at h
  cases hsteps : findAll Step.pattern path.toList with
  | nil =>
      rw [hsteps] at h
      cases h
  | cons step steps =>
      rw [hsteps, List.mapM_cons] at h
      obtain ⟨key, hkey, h⟩ := exists_of_bind_ok h
      obtain ⟨others, -, h⟩ := exists_of_bind_ok h
      cases h
      cases step with
      | index negative digits =>
          obtain ⟨n, -, hkey⟩ := exists_of_bind_ok hkey
          cases hkey
      | key name =>
          cases hkey
          rw [String.toList_ofList]
          exact .head steps

/-- If only one slot has a value, a path that says something is a step to this slot. -/
theorem step_of_lookup {path : String} {w : Value}
    (h : (Value.object [(k, v)]).lookup path = .ok w) (hw : w.isNull = false) :
    .key k.toList ∈ findAll Step.pattern path.toList ∨ ∃ n, Numeral.print n = .ok k := by
  unfold Value.lookup at h
  split at h
  · cases h
    cases hw
  · obtain ⟨keys, hkeys, h⟩ := exists_of_bind_ok h
    cases keys with
    | nil =>
        cases h
        cases hw
    | cons key keys =>
        obtain ⟨found, hwalk, h⟩ := exists_of_bind_ok h
        obtain ⟨child, hchild, hwalk⟩ := exists_of_bind_ok hwalk
        have hsome {s : String} (hget : Mapping.get? [(k, v)] s = child) : k = s := by
          by_contra hne
          rw [Mapping.get?, if_neg hne] at hget
          cases hget
          cases hwalk
          cases h
          cases hw
        cases key with
        | name s =>
            cases hchild
            obtain rfl := hsome rfl
            exact .inl (step_of_pathKeys hkeys)
        | index n =>
            obtain ⟨s, hprint, hchild⟩ := exists_of_bind_ok hchild
            cases hchild
            obtain rfl := hsome rfl
            exact .inr ⟨n, hprint⟩

/-- Only a name is read back if there is no other slot. -/
theorem isName_of_fillText (hfits : (hole k).Fits)
    (h : fillText (holeText k) (.object [(k, .bool true)]) false = .ok "true") : IsName k := by
  by_contra hnot
  have hvacant : Vacant (.object [(k, .bool true)]) (plainBraces (hole k).text) := by
    intro p hp w hlookup
    by_contra hnull
    obtain ⟨before, rest, length, hrest, hfound⟩ := of_mem_partsFrom hp
    obtain ⟨hinside, hlength⟩ := path_of_placeholder hfound
    have hroom := hrest.length_le
    rw [plainBraces_hole] at hrest hroom
    rcases step_of_lookup hlookup (by simpa using hnull) with hstep | ⟨n, hprint⟩
    · rw [String.toList_ofList] at hstep
      have hquote {c : Char} (hc : c ∈ p.path) (hbrace : isBrace c = false) : endsPath c = false := by
        have hmem := hrest.subset (hinside.subset hc)
        have hk : c ∈ plainBraces k.toList := by
          rcases List.mem_cons.1 hmem with rfl | hmem
          · cases hbrace
          · refine (List.mem_append.1 hmem).resolve_right fun hlast => ?_
            obtain rfl := List.mem_singleton.1 hlast
            cases hbrace
        exact hfits.2 c ((mem_plainBraces hk).resolve_left (by simp [hbrace]))
      obtain ⟨hplain, hshort⟩ := of_key_mem_steps
        ⟨fun hc => absurd (hquote hc (by decide)) (by decide),
          fun hc => absurd (hquote hc (by decide)) (by decide)⟩ hstep
      refine hnot ⟨hfits, hplain, ?_⟩
      by_contra hcode
      have := length_plainBraces_lt hcode
      simp only [List.length_cons, List.length_append, List.length_nil] at hroom
      omega
    · have hchars := of_print hprint
      refine hnot ⟨hfits, fun c hc => (hchars c hc).1, plainBraces_eq_self_iff.1 ?_⟩
      exact plainBraces_of_plain fun hc => (hchars _ hc).2 rfl
  have hanswers := Answers.of_fillText h
  rw [holeText, hvacant.fillText hanswers, plainBraces_hole] at h
  have hchars := congrArg String.toList (Except.ok.inj h)
  rw [String.toList_ofList] at hchars
  exact absurd (List.cons.inj hchars).1 (by decide)

end Converse

end Dialogue.Slot
