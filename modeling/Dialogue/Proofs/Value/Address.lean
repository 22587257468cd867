import Dialogue.Proofs.Json.Number
import Dialogue.Proofs.Value.Path
/-!
Every part of a value has a path that finds it: each index and each key of the way to it in brackets,
the key in quotes with a backslash before every quote and every backslash in it.
-/
namespace Dialogue.Text

variable {α : Type} {pattern : Pattern α}

theorem findFrom_skip (pattern : Pattern α) (before : Option Char) (c : Char)
    (front rest : List Char) :
    findFrom pattern before (front.length + 1) (c :: (front ++ rest)) =
      findFrom pattern ((c :: front).getLast?) 0 rest := by
  induction front generalizing before c with
  | nil => simp [findFrom]
  | cons d front ih =>
      have h := ih (some c) d
      simp only [List.length_cons, List.cons_append] at h ⊢
      rw [findFrom]
      exact h

/-- What is found at the front stands before what is found after it. -/
theorem findFrom_append {before : Option Char} {front rest : List Char} {a : α} (hne : front ≠ [])
    (h : pattern before (front ++ rest) = some (a, front.length)) :
    findFrom pattern before 0 (front ++ rest) = a :: findFrom pattern front.getLast? 0 rest := by
  obtain ⟨c, cs, rfl⟩ := List.exists_cons_of_ne_nil hne
  rw [List.cons_append] at h ⊢
  rw [findFrom, h]
  simp only [List.length_cons, Nat.add_sub_cancel]
  cases cs with
  | nil => rfl
  | cons d cs => exact congrArg (a :: ·) (findFrom_skip pattern (some c) d cs rest)

end Dialogue.Text

namespace Dialogue

open Dialogue.Text

/-- One step of the way to a part of a value. -/
inductive Access where
  | index (place : Nat)
  | key (name : String)

namespace Access

/-- A character of a key between double quotes. -/
def escaped (c : Char) : List Char := if c = doubleQuote ∨ c = '\\' then ['\\', c] else [c]

def written : Access → List Char
  | .index place => '[' :: (Nat.toDigits 10 place ++ [']'])
  | .key name => '[' :: doubleQuote :: (name.toList.flatMap escaped ++ [doubleQuote, ']'])

/-- The path that is written for a way. -/
def path (way : List Access) : String := String.ofList (way.flatMap written)

/-- The index, if there is one, has no more digits than are read. -/
def IsShort : Access → Prop
  | .index place => (Nat.toDigits 10 place).length ≤ Numeral.maxDigits
  | .key _ => True

def step : Access → Step
  | .index place => .index false (Nat.toDigits 10 place)
  | .key name => .key name.toList

theorem not_overlong {access : Access} (h : access.IsShort) : ¬ access.step.Overlong := by
  cases access with
  | index place => exact fun ⟨hlong⟩ => absurd hlong (Nat.not_lt.2 h)
  | key name => nofun

/-- A quoted key ends at the first quote that no backslash precedes. -/
theorem quoted?_escaped (name rest : List Char) :
    Step.quoted? doubleQuote (name.flatMap escaped ++ doubleQuote :: rest) = some (name, rest) := by
  induction name with
  | nil => rfl
  | cons c name ih =>
      rw [List.flatMap_cons, List.append_assoc, escaped]
      split
      · rename_i hc
        have hbreak : c ≠ '\n' := by rcases hc with rfl | rfl <;> decide
        have hunescape : Step.unescape c = [c] := by rcases hc with rfl | rfl <;> rfl
        simp only [List.cons_append, List.nil_append, Step.quoted?, hbreak, ↓reduceIte, ih,
          hunescape, Option.map_some]
      · rename_i hc
        rw [not_or] at hc
        rw [List.cons_append, List.nil_append, Step.quoted?]
        · rw [if_neg hc.1, ih]
          rfl
        · rintro rfl
          exact absurd rfl hc.2
        · rintro _ _ rfl
          exact absurd rfl hc.2

theorem bracketed?_of_inside? {cs rest : List Char} {step : Step}
    (hhead : ∀ c ∈ cs.head?, isBlank c = false)
    (h : Step.inside? cs = some (step, ']' :: rest)) : Step.bracketed? cs = some (step, rest) := by
  have hclosing : stripLeft (']' :: rest) = ']' :: rest := dropWhile_eq_self (by rintro _ ⟨⟩; rfl)
  rw [Step.bracketed?, stripLeft, dropWhile_eq_self hhead, h]
  simp only [bind, Option.bind, hclosing]

theorem bracketed?_index (place : Nat) (rest : List Char) :
    Step.bracketed? (Nat.toDigits 10 place ++ ']' :: rest) =
      some (.index false (Nat.toDigits 10 place), rest) := by
  have hdigits : ∀ c ∈ Nat.toDigits 10 place, isDecimal c = true := fun c hc => by
    rw [isDecimal, digit?_of_isAsciiDigit (isAsciiDigit_toDigits hc)]
    rfl
  obtain ⟨c, cs, hcs⟩ := List.exists_cons_of_ne_nil (Nat.toDigits_ne_nil (n := place) (b := 10))
  rw [hcs] at hdigits ⊢
  have hc : isDecimal c = true := hdigits c (.head cs)
  have hclosing : ∀ c ∈ (']' :: rest).head?, isDecimal c = false := by
    rintro _ ⟨⟩
    rfl
  obtain ⟨htake, hdrop⟩ := Json.takeWhile_digits hdigits hclosing
  have hsigns : c ≠ singleQuote ∧ c ≠ doubleQuote ∧ c ≠ '-' := by
    refine ⟨?_, ?_, ?_⟩ <;> (rintro rfl; revert hc; decide)
  refine bracketed?_of_inside? ?_ ?_
  · rintro _ ⟨⟩
    exact isBlank_of_isDecimal hc
  · rw [List.cons_append] at htake hdrop ⊢
    simp [Step.inside?, hsigns, htake, hdrop]

theorem bracketed?_key (name : String) (rest : List Char) :
    Step.bracketed? (doubleQuote :: (name.toList.flatMap escaped ++ doubleQuote :: ']' :: rest)) =
      some (.key name.toList, rest) := by
  refine bracketed?_of_inside? (by rintro _ ⟨⟩; rfl) ?_
  simp [Step.inside?, quoted?_escaped]

theorem pattern_written (access : Access) (before : Option Char) (rest : List Char) :
    Step.pattern before (access.written ++ rest) = some (access.step, access.written.length) := by
  cases access with
  | index place =>
      simp only [written, List.cons_append, List.append_assoc, List.nil_append, Step.pattern,
        bracketed?_index, Option.map_some, step, Option.some.injEq, Prod.mk.injEq, true_and,
        List.length_cons, List.length_append, List.length_nil]
      omega
  | key name =>
      simp only [written, List.cons_append, List.append_assoc, List.nil_append, Step.pattern,
        bracketed?_key, Option.map_some, step, Option.some.injEq, Prod.mk.injEq, true_and,
        List.length_cons, List.length_append, List.length_nil]
      omega

theorem pathSteps_path (way : List Access) : pathSteps (path way) = way.map step := by
  have hfound (before : Option Char) :
      findFrom Step.pattern before 0 (way.flatMap written) = way.map step := by
    induction way generalizing before with
    | nil => rfl
    | cons access way ih =>
        have hne : access.written ≠ [] := by cases access <;> exact List.cons_ne_nil _ _
        rw [List.flatMap_cons, findFrom_append hne (pattern_written access before _), ih,
          List.map_cons]
  rw [pathSteps, path, String.toList_ofList]
  exact hfound none

end Access

namespace Value

/-- The part of a value at the end of a way. -/
def at? : Value → List Access → Option Value
  | v, [] => some v
  | .list items, .index place :: way => items[place]?.bind fun v => v.at? way
  | .object fields, .key name :: way => (Mapping.get? fields name).bind fun v => v.at? way
  | _, _ :: _ => none

variable {v w : Value} {access : Access} {way : List Access}

theorem leads_of_at? (h : v.at? (access :: way) = some w) :
    ∃ next, Leads v access.step next ∧ next.at? way = some w := by
  unfold at? at h
  split at h
  · rename_i heq
    cases heq
  · rename_i items place rest heq
    cases heq
    obtain ⟨next, hnext, hway⟩ := Option.bind_eq_some_iff.1 h
    exact ⟨next, .item (congrArg Nat.cast (decimalValue_toDigits place)) hnext, hway⟩
  · rename_i fields name rest heq
    cases heq
    obtain ⟨next, hnext, hway⟩ := Option.bind_eq_some_iff.1 h
    exact ⟨next, .field (by rwa [String.ofList_toList]), hway⟩
  · cases h

theorem reaches_of_at? (h : v.at? way = some w) : Reaches v (way.map Access.step) w := by
  induction way generalizing v with
  | nil =>
      cases h
      exact .here
  | cons access way ih =>
      obtain ⟨next, hleads, hway⟩ := leads_of_at? h
      exact .step hleads (ih hway)

/-- Keys are asked for of objects only. -/
theorem not_sticks_of_at? (h : v.at? way = some w) : ¬ Sticks v (way.map Access.step) := by
  induction way generalizing v with
  | nil => exact not_sticks_nil
  | cons access way ih =>
      obtain ⟨next, hleads, hway⟩ := leads_of_at? h
      rw [List.map_cons, sticks_cons_iff]
      rintro (⟨items, name, rfl, hstep, -⟩ | ⟨other, hother, hsticks⟩)
      · cases access with
        | index place => cases hstep
        | key key => cases h
      · obtain rfl := hleads.unique hother
        exact ih hway hsticks

/-- Every part of a list or an object is found by the path that is written for the way to it. -/
theorem lookup_written_path (hway : way ≠ []) (hshort : ∀ access ∈ way, access.IsShort)
    (h : v.at? way = some w) : v.lookup (Access.path way) = .ok w := by
  have hsteps := Access.pathSteps_path way
  refine lookup_eq_ok_iff.2 ⟨?_, .inl ⟨?_, ?_⟩⟩
  · rintro ⟨-, hrefuses⟩
    rw [hsteps] at hrefuses
    rcases hrefuses with ⟨step, hstep, hlong⟩ | hsticks
    · obtain ⟨access, haccess, rfl⟩ := List.mem_map.1 hstep
      exact Access.not_overlong (hshort access haccess) hlong
    · exact not_sticks_of_at? h hsticks
  · rw [hsteps]
    exact mt List.map_eq_nil_iff.1 hway
  · rw [hsteps]
    exact reaches_of_at? h

namespace Sample

/-- A key with a quote, brackets, dots, a backslash and a line break in it. -/
def oddKey : String := "say \"a.b[0]\\\"\n"

def drawer : Value :=
  .object [("x", .null), (oddKey, .list [.int 1, .object [("", .text "pin")]])]

end Sample

theorem pin_is_found :
    Sample.drawer.at? [.key Sample.oddKey, .index 1, .key ""] = some (.text "pin") ∧
      Sample.drawer.lookup "[\"say \\\"a.b[0]\\\\\\\"\n\"][1][\"\"]" = .ok (.text "pin") := by
  have hshort : ∀ access ∈ [Access.key Sample.oddKey, .index 1, .key ""], access.IsShort := by
    simp only [List.forall_mem_cons, Access.IsShort]
    exact ⟨trivial, by decide, trivial, List.forall_mem_nil _⟩
  exact ⟨rfl, lookup_written_path (by simp) hshort rfl⟩

end Value

end Dialogue
