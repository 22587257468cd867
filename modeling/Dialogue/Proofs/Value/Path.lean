import Dialogue.Proofs.Numeral
import Dialogue.Proofs.Program
import Dialogue.Value.Path
import Dialogue.Condition
import Dialogue.Proofs.Template.Substitution
import Mathlib.Tactic.MkIffOfInductiveProp
/-!
What paths lead to. From a list a step leads on by the place of an item, from an object by a key. A
path is refused if one of its indices has too many digits, or if it comes to a list with a name of
characters for digits that is not read as a number.
-/
namespace Dialogue

open Dialogue.Text

/-- The steps that are written in a path. -/
def pathSteps (path : String) : List Step := findAll Step.pattern path.toList

namespace Step

/-- An index of more digits than are read. -/
inductive Overlong : Step → Prop where
  | intro {negative : Bool} {digits : List Char} (long : Numeral.maxDigits < digits.length) :
      Overlong (.index negative digits)

/-- What a step is taken as. -/
inductive Means : Step → Key → Prop where
  | index {negative : Bool} {digits : List Char} (short : digits.length ≤ Numeral.maxDigits) :
      Means (.index negative digits) (.index (Numeral.signed negative (decimalValue digits)))
  | key {name : List Char} : Means (.key name) (.name (String.ofList name))

theorem toKey_cases (step : Step) :
    step.Overlong ∧ (∃ cause, step.toKey = .error (.malformed cause)) ∨
      ¬ step.Overlong ∧ ∃ key, step.toKey = .ok key ∧ step.Means key := by
  cases step with
  | key name => exact .inr ⟨nofun, _, rfl, .key⟩
  | index negative digits =>
      by_cases hlong : Numeral.maxDigits < digits.length
      · refine .inl ⟨⟨hlong⟩, .longInteger digits.length, ?_⟩
        rw [toKey, Numeral.ofSignedDigits_of_lt hlong]
        rfl
      · have hshort := Nat.not_lt.1 hlong
        refine .inr ⟨fun ⟨h⟩ => hlong h, .index _, ?_, .index hshort⟩
        rw [toKey, Numeral.ofSignedDigits_of_le hshort]
        rfl

/-- Steps are taken as keys unless an index among them is too long. -/
theorem mapM_toKey_cases (steps : List Step) :
    (∃ step ∈ steps, step.Overlong) ∧ (∃ cause, steps.mapM toKey = .error (.malformed cause)) ∨
      (¬ ∃ step ∈ steps, step.Overlong) ∧
        ∃ keys, steps.mapM toKey = .ok keys ∧ List.Forall₂ Means steps keys := by
  induction steps with
  | nil => exact .inr ⟨by simp, [], rfl, .nil⟩
  | cons step steps ih =>
      simp only [List.mapM_cons, List.exists_mem_cons_iff, not_or]
      rcases step.toKey_cases with ⟨hlong, cause, hstep⟩ | ⟨hshort, key, hstep, hkey⟩
      · exact .inl ⟨.inl hlong, cause, by rw [hstep]; rfl⟩
      · rw [hstep]
        rcases ih with ⟨hlong, cause, hsteps⟩ | ⟨hall, keys, hsteps, hmeans⟩
        · exact .inl ⟨.inr hlong, cause, by rw [hsteps]; rfl⟩
        · exact .inr ⟨⟨hshort, hall⟩, key :: keys, by rw [hsteps]; rfl, .cons hkey hmeans⟩

end Step

namespace Value

/-- A step leads from a list to the item at its place, which a name of decimal digits writes too, and
from an object to the field of its name. -/
inductive Leads : Value → Step → Value → Prop where
  | item {items : List Value} {negative : Bool} {digits : List Char} {place : Nat} {v : Value}
      (written : Numeral.signed negative (decimalValue digits) = place)
      (found : items[place]? = some v) : Leads (.list items) (.index negative digits) v
  | numbered {items : List Value} {name : List Char} {v : Value} (nonempty : name ≠ [])
      (digits : ∀ c ∈ name, isDecimal c = true) (found : items[decimalValue name]? = some v) :
      Leads (.list items) (.key name) v
  | field {fields : Mapping Value} {name : List Char} {v : Value}
      (found : Mapping.get? fields (String.ofList name) = some v) :
      Leads (.object fields) (.key name) v
  | indexed {fields : Mapping Value} {negative : Bool} {digits : List Char} {name : String}
      {v : Value}
      (written : Numeral.print (Numeral.signed negative (decimalValue digits)) = .ok name)
      (found : Mapping.get? fields name = some v) : Leads (.object fields) (.index negative digits) v

/-- The steps lead from the value to another one after the other. -/
inductive Reaches : Value → List Step → Value → Prop where
  | here {v : Value} : Reaches v [] v
  | step {v w last : Value} {step : Step} {steps : List Step} (first : Leads v step w)
      (rest : Reaches w steps last) : Reaches v (step :: steps) last

/-- The name consists of characters for digits and is not read as a number: one of them is no
decimal digit, or they are too many. -/
structure Unreadable (name : List Char) : Prop where
  nonempty : name ≠ []
  digits : ∀ c ∈ name, isDigit c = true
  unread : (∃ c ∈ name, isDecimal c = false) ∨ Numeral.maxDigits < name.length

/-- The steps lead to a list and ask for the item of an unreadable name. -/
inductive Sticks : Value → List Step → Prop where
  | here {items : List Value} {name : List Char} {steps : List Step} (unread : Unreadable name) :
      Sticks (.list items) (.key name :: steps)
  | step {v w : Value} {step : Step} {steps : List Step} (first : Leads v step w)
      (rest : Sticks w steps) : Sticks v (step :: steps)

variable {v w : Value} {step : Step} {steps : List Step} {key : Key} {path : String}

theorem listIndex?_name_cases (name : List Char) :
    Unreadable name ∧ (∃ cause, listIndex? (.name (String.ofList name)) = .error (.malformed cause)) ∨
      ¬ Unreadable name ∧
        ((name ≠ [] ∧ ∀ c ∈ name, isDecimal c = true) ∧
            listIndex? (.name (String.ofList name)) = .ok (some (decimalValue name)) ∨
          ¬ (name ≠ [] ∧ ∀ c ∈ name, isDecimal c = true) ∧
            listIndex? (.name (String.ofList name)) = .ok none) := by
  have hne : String.ofList name ≠ "" ↔ name ≠ [] := by
    rw [← String.ofList_nil, Ne, String.ofList_inj]
  have hindex : listIndex? (.name (String.ofList name)) =
      if name ≠ [] ∧ ∀ c ∈ name, isDigit c = true then do return some (← Numeral.parse name)
      else .ok none := by
    simp only [listIndex?, String.toList_ofList, Bool.and_eq_true, decide_eq_true_eq, hne,
      List.all_eq_true]
  rw [hindex]
  by_cases hdigits : name ≠ [] ∧ ∀ c ∈ name, isDigit c = true
  · rw [if_pos hdigits, Numeral.parse_digits hdigits.1 hdigits.2]
    by_cases hall : ∀ c ∈ name, isDecimal c = true
    · rw [if_pos (List.all_eq_true.2 hall)]
      by_cases hlong : Numeral.maxDigits < name.length
      · rw [Numeral.ofSignedDigits_of_lt hlong]
        exact .inl ⟨⟨hdigits.1, hdigits.2, .inr hlong⟩, _, rfl⟩
      · rw [Numeral.ofSignedDigits_of_le (Nat.not_lt.1 hlong)]
        refine .inr ⟨fun h => h.unread.elim ?_ hlong, .inl ⟨⟨hdigits.1, hall⟩, rfl⟩⟩
        rintro ⟨c, hc, hnot⟩
        rw [hall c hc] at hnot
        cases hnot
    · rw [if_neg (mt List.all_eq_true.1 hall)]
      have hother : ∃ c ∈ name, isDecimal c = false := by simpa using hall
      exact .inl ⟨⟨hdigits.1, hdigits.2, .inl hother⟩, _, rfl⟩
  · rw [if_neg hdigits]
    refine .inr ⟨fun h => hdigits ⟨h.nonempty, h.digits⟩, .inr ⟨fun h => hdigits ⟨h.1, ?_⟩, rfl⟩⟩
    exact fun c hc => Bool.or_eq_true_iff.2 (.inl (h.2 c hc))

/-- A name at a list is refused if it cannot be read. Every other step leads to one value or to none. -/
theorem child_cases (hkey : step.Means key) :
    (∃ items name, v = .list items ∧ step = .key name ∧ Unreadable name) ∧
        (∃ cause, v.child key = .error (.malformed cause)) ∨
      (¬ ∃ items name, v = .list items ∧ step = .key name ∧ Unreadable name) ∧
        ∃ next, v.child key = .ok next ∧ ∀ w, next = some w ↔ Leads v step w := by
  cases v with
  | list items =>
      cases hkey with
      | @index negative digits short =>
          refine .inr ⟨by simp, _, rfl, fun w => ⟨fun h => ?_, fun h => ?_⟩⟩
          · split at h
            · rename_i hle
              exact .item (Int.toNat_of_nonneg hle).symm h
            · cases h
          · obtain @⟨_, _, _, place, _, hplace, hfound⟩ := h
            rw [hplace, if_pos (Int.natCast_nonneg place), Int.toNat_natCast, hfound]
      | @key name =>
          rcases listIndex?_name_cases name with ⟨hname, cause, hindex⟩ | ⟨hname, hindex⟩
          · exact .inl ⟨⟨items, name, rfl, rfl, hname⟩, cause, by rw [child, hindex]; rfl⟩
          · have hreads : ¬ ∃ others other, Value.list items = .list others ∧
                Step.key name = .key other ∧ Unreadable other := by
              rintro ⟨_, _, -, ⟨⟩, hother⟩
              exact hname hother
            rcases hindex with ⟨⟨hne, hdigits⟩, hindex⟩ | ⟨hnot, hindex⟩
            · refine .inr ⟨hreads, items[decimalValue name]?, by rw [child, hindex]; rfl, fun w => ?_⟩
              refine ⟨.numbered hne hdigits, fun h => ?_⟩
              cases h
              assumption
            · refine .inr ⟨hreads, none, by rw [child, hindex]; rfl, fun w => ⟨fun h => ?_, fun h => ?_⟩⟩
              · cases h
              · cases h with
                | numbered nonempty digits found => exact absurd ⟨nonempty, digits⟩ hnot
  | object fields =>
      refine .inr ⟨by simp, ?_⟩
      cases hkey with
      | @index negative digits short =>
          obtain ⟨name, hname⟩ := Numeral.exists_print_signed short negative
          refine ⟨Mapping.get? fields name, by rw [child, hname]; rfl, fun w => ?_⟩
          refine ⟨.indexed hname, fun h => ?_⟩
          cases h with
          | indexed written found =>
              rw [hname] at written
              cases written
              exact found
      | key =>
          refine ⟨_, rfl, fun w => ⟨.field, fun h => ?_⟩⟩
          cases h
          assumption
  | null | bool | int | float | text =>
      refine .inr ⟨by simp, none, rfl, fun w => ⟨fun h => ?_, fun h => ?_⟩⟩ <;> cases h

theorem Leads.unique {u : Value} (h : Leads v step w) (h' : Leads v step u) : w = u := by
  cases h with
  | item written found =>
      cases h' with
      | item written' found' =>
          obtain rfl := Int.natCast_inj.1 (written.symm.trans written')
          exact Option.some_inj.1 (found.symm.trans found')
  | numbered nonempty digits found =>
      cases h' with
      | numbered _ _ found' => exact Option.some_inj.1 (found.symm.trans found')
  | field found =>
      cases h' with
      | field found' => exact Option.some_inj.1 (found.symm.trans found')
  | indexed written found =>
      cases h' with
      | indexed written' found' =>
          obtain rfl := Except.ok.inj (written.symm.trans written')
          exact Option.some_inj.1 (found.symm.trans found')

theorem not_sticks_nil : ¬ Sticks v [] := nofun

theorem sticks_cons_iff : Sticks v (step :: steps) ↔
    (∃ items name, v = .list items ∧ step = .key name ∧ Unreadable name) ∨
      ∃ w, Leads v step w ∧ Sticks w steps := by
  constructor
  · intro h
    cases h with
    | here unread => exact .inl ⟨_, _, rfl, rfl, unread⟩
    | step first rest => exact .inr ⟨_, first, rest⟩
  · rintro (⟨items, name, rfl, rfl, unread⟩ | ⟨w, first, rest⟩)
    · exact .here unread
    · exact .step first rest

theorem reaches_nil_iff : Reaches v [] w ↔ v = w :=
  ⟨fun h => by cases h; rfl, fun h => h ▸ .here⟩

theorem reaches_cons_iff :
    Reaches v (step :: steps) w ↔ ∃ next, Leads v step next ∧ Reaches next steps w :=
  ⟨fun h => by cases h with | step first rest => exact ⟨_, first, rest⟩,
    fun ⟨_, first, rest⟩ => .step first rest⟩

/-- Keys that are taken one after the other come to a name that is refused, or lead to one value or to
none. -/
theorem walk_cases {keys : List Key} (h : List.Forall₂ Step.Means steps keys) (v : Value) :
    Sticks v steps ∧ (∃ cause, v.walk keys = .error (.malformed cause)) ∨
      ¬ Sticks v steps ∧ ∃ last, v.walk keys = .ok last ∧ ∀ w, last = some w ↔ Reaches v steps w := by
  induction h generalizing v with
  | nil => exact .inr ⟨not_sticks_nil, some v, rfl, fun w => by rw [reaches_nil_iff, Option.some_inj]⟩
  | @cons step key steps keys hkey _ ih =>
      simp only [sticks_cons_iff, reaches_cons_iff]
      rcases child_cases (v := v) hkey with ⟨hname, cause, hchild⟩ | ⟨hname, next, hchild, hnext⟩
      · exact .inl ⟨.inl hname, cause, by rw [walk, hchild]; rfl⟩
      · simp only [hname, false_or, ← hnext]
        cases next with
        | none => exact .inr ⟨by simp, none, by rw [walk, hchild]; rfl, by simp⟩
        | some next =>
            have hwalk : v.walk (key :: keys) = next.walk keys := by
              rw [walk, hchild]
              rfl
            simpa [hwalk] using ih next

/-- The path is refused where it is looked up. -/
def Refuses (data : Value) (path : String) : Prop :=
  data.isBranch = true ∧
    ((∃ step ∈ pathSteps path, step.Overlong) ∨ Sticks data (pathSteps path))

/-- The path has steps, and they lead to the value. -/
def Finds (data : Value) (path : String) (v : Value) : Prop :=
  pathSteps path ≠ [] ∧ Reaches data (pathSteps path) v

/-- The value that the path finds, or null if it finds none. -/
def Answers (data : Value) (path : String) (v : Value) : Prop :=
  Finds data path v ∨ v = .null ∧ ∀ w, ¬ Finds data path w

theorem not_finds_of_not_isBranch (h : v.isBranch = false) (path : String) (w : Value) :
    ¬ Finds v path w := by
  rintro ⟨hne, hreaches⟩
  obtain ⟨step, steps, hsteps⟩ := List.exists_cons_of_ne_nil hne
  rw [hsteps, reaches_cons_iff] at hreaches
  obtain ⟨next, hleads, -⟩ := hreaches
  cases hleads <;> cases h

/-- A path without steps, as the empty one is, leads nowhere. -/
theorem lookup_of_isBranch {data : Value} (h : data.isBranch = true) (path : String) :
    data.lookup path = do
      match ← pathKeys path with
      | [] => return .null
      | keys => return (← data.walk keys).getD .null := by
  by_cases hpath : path = ""
  · subst hpath
    rfl
  · unfold lookup
    exact if_neg (by simp [hpath, h])

theorem lookup_of_not_isBranch {data : Value} (h : data.isBranch = false) (path : String) :
    data.lookup path = .ok .null := by
  rw [lookup, h, Bool.not_false, Bool.or_true, if_pos rfl]

/-- A path is refused or has one answer. -/
theorem lookup_cases (data : Value) (path : String) :
    Refuses data path ∧ (∃ cause, data.lookup path = .error (.malformed cause)) ∨
      ¬ Refuses data path ∧ ∃ v, data.lookup path = .ok v ∧ ∀ w, v = w ↔ Answers data path w := by
  cases hbranch : data.isBranch with
  | false =>
      have hfinds := not_finds_of_not_isBranch hbranch path
      refine .inr ⟨fun h => ?_, .null, lookup_of_not_isBranch hbranch path, fun w => ?_⟩
      · rw [Refuses, hbranch] at h
        exact Bool.false_ne_true h.1
      · simp [Answers, hfinds, eq_comm]
  | true =>
      have hkeys : pathKeys path = (pathSteps path).mapM Step.toKey := rfl
      simp only [lookup_of_isBranch hbranch, hkeys, Refuses, hbranch, true_and, Answers, Finds]
      generalize pathSteps path = steps
      rcases Step.mapM_toKey_cases steps with ⟨hlong, cause, hsteps⟩ | ⟨hshort, keys, hsteps, hmeans⟩
      · exact .inl ⟨.inl hlong, cause, by rw [hsteps]; rfl⟩
      · simp only [hshort, false_or, hsteps]
        cases hmeans with
        | nil => exact .inr ⟨not_sticks_nil, .null, rfl, by simp [eq_comm]⟩
        | cons hkey hmeans =>
            rcases walk_cases (.cons hkey hmeans) data with
              ⟨hsticks, cause, hwalk⟩ | ⟨hsticks, last, hwalk, hlast⟩
            · exact .inl ⟨hsticks, cause, by simp only [bind, Except.bind, hwalk]⟩
            · refine .inr ⟨hsticks, last.getD .null, by simp only [bind, Except.bind, hwalk]; rfl, ?_⟩
              intro w
              simp only [← hlast]
              cases last <;> simp [eq_comm]

theorem lookup_eq_error_iff {data : Value} :
    (∃ fault, data.lookup path = .error fault) ↔ Refuses data path := by
  rcases lookup_cases data path with ⟨h, cause, hlookup⟩ | ⟨h, v, hlookup, -⟩
  · simp [h, hlookup]
  · simp [h, hlookup]

theorem lookup_eq_ok_iff {data : Value} :
    data.lookup path = .ok v ↔ ¬ Refuses data path ∧ Answers data path v := by
  rcases lookup_cases data path with ⟨h, cause, hlookup⟩ | ⟨h, w, hlookup, hw⟩
  · simp [h, hlookup]
  · simp [h, hlookup, hw]

end Value

end Dialogue

/-!
Templates and conditions whose paths are refused. They fail with the look-up; where no path is
refused they fail only on what the paths found.
-/
namespace Dialogue

open Dialogue.Text Value

variable {data : Value}

namespace Template

variable {encodeQuery : Bool}

/-- The placeholders of a template. -/
def holes (template : String) : List (Char ⊕ Placeholder) :=
  parts placeholder (plainBraces template.toList)

/-- A placeholder is not filled in if its path is refused, or if what it finds has no text. -/
theorem fill_eq_error_iff (p : Placeholder) :
    (∃ fault, p.fill encodeQuery data = .error fault) ↔
      Refuses data (String.ofList p.path) ∨
        ∃ v, Finds data (String.ofList p.path) v ∧ ∃ fault, v.toText = .error fault := by
  rw [Placeholder.fill]
  rcases lookup_cases data (String.ofList p.path) with
    ⟨hrefuses, cause, hlookup⟩ | ⟨hrefuses, v, hlookup, hanswers⟩
  · simp [hrefuses, hlookup, bind, Except.bind]
  · have hfinds {w : Value} (hw : Finds data (String.ofList p.path) w) : v = w :=
      (hanswers w).2 (.inl hw)
    simp only [hrefuses, false_or, hlookup, bind, Except.bind]
    cases hnull : v.isNull with
    | true =>
        constructor
        · rintro ⟨_, ⟨⟩⟩
        · rintro ⟨w, hw, fault, hfault⟩
          obtain rfl := hfinds hw
          obtain rfl : v = .null := by
            cases v <;> first | rfl | cases hnull
          cases hfault
    | false =>
        have hfound : Finds data (String.ofList p.path) v := by
          refine ((hanswers v).1 rfl).resolve_right ?_
          rintro ⟨rfl, -⟩
          cases hnull
        constructor
        · rintro ⟨fault, hfault⟩
          refine ⟨v, hfound, ?_⟩
          cases htext : v.toText with
          | error fault => exact ⟨fault, rfl⟩
          | ok text => simp [htext, pure, Except.pure] at hfault
        · rintro ⟨w, hw, fault, hfault⟩
          obtain rfl := hfinds hw
          exact ⟨fault, by simp [hfault]⟩

theorem fillParts_eq_error_iff (parts : List (Char ⊕ Placeholder)) :
    (∃ fault, fillParts encodeQuery data parts = .error fault) ↔
      ∃ p, .inr p ∈ parts ∧ ∃ fault, p.fill encodeQuery data = .error fault := by
  induction parts with
  | nil => simp [fillParts]
  | cons part parts ih =>
      cases part with
      | inl c =>
          have hrest : (∃ fault, fillParts encodeQuery data (.inl c :: parts) = .error fault) ↔
              ∃ fault, fillParts encodeQuery data parts = .error fault := by
            rw [fillParts]
            cases fillParts encodeQuery data parts <;> simp [bind, Except.bind, pure, Except.pure]
          simpa [hrest] using ih
      | inr p =>
          simp only [List.mem_cons, Sum.inr.injEq, or_and_right, exists_or, exists_eq_left, ← ih]
          rw [fillParts]
          cases p.fill encodeQuery data with
          | error fault => simp [bind, Except.bind]
          | ok text =>
              cases fillParts encodeQuery data parts <;>
                simp [bind, Except.bind, pure, Except.pure]

/-- A template fails with one of its placeholders. -/
theorem fillText_eq_error_iff (template : String) :
    (∃ fault, fillText template data encodeQuery = .error fault) ↔
      ∃ p, .inr p ∈ holes template ∧ (Refuses data (String.ofList p.path) ∨
        ∃ v, Finds data (String.ofList p.path) v ∧ ∃ fault, v.toText = .error fault) := by
  have hparts : (∃ fault, fillText template data encodeQuery = .error fault) ↔
      ∃ fault, fillParts encodeQuery data (holes template) = .error fault := by
    rw [fillText, holes]
    cases fillParts encodeQuery data (parts placeholder (plainBraces template.toList)) <;>
      simp [bind, Except.bind, pure, Except.pure]
  simp only [hparts, fillParts_eq_error_iff, fill_eq_error_iff]

end Template

namespace Condition

variable {condition : Mapping Value} {path : String}

/-- The path that the slot of a condition is looked up by. -/
def slotPath (condition : Mapping Value) : Value := (Mapping.get? condition "slot").getD (.text "")

/-- The comparison value as it is written. -/
def written (condition : Mapping Value) : Value := (Mapping.get? condition "value").getD .null

/-- The comparison value is a slot path. -/
def isIndirect (condition : Mapping Value) : Bool :=
  ((Mapping.get? condition "valueType").getD .null).isText "slot"

def operator (condition : Mapping Value) : Value :=
  (Mapping.get? condition "operator").getD (.text "==")

/-- The condition looks a value up by the path. -/
@[mk_iff]
inductive Names (condition : Mapping Value) (path : String) : Prop where
  | slot (written : slotPath condition = .text path)
  | value (indirect : isIndirect condition = true) (written : (written condition).toText = .ok path)

/-- What the condition compares. -/
@[mk_iff]
inductive Compares (condition : Mapping Value) (data : Value) : Value → Value → Prop where
  | literal {slot : Value} (found : data.lookupAt (slotPath condition) = .ok slot)
      (direct : isIndirect condition = false) : Compares condition data slot (written condition)
  | path {slot value : Value} {path : String} (found : data.lookupAt (slotPath condition) = .ok slot)
      (indirect : isIndirect condition = true) (written : (written condition).toText = .ok path)
      (value_found : data.lookup path = .ok value) : Compares condition data slot value

theorem holdsIn_object (condition : Mapping Value) (data : Value) :
    holdsIn (.object condition) data = (do
      let slot ← data.lookupAt (slotPath condition)
      let value ← if isIndirect condition then data.lookup (← (written condition).toText)
        else pure (written condition)
      holds slot (operator condition) value) := rfl

theorem lookupAt_cases (data path : Value) :
    (∃ s, path = .text s ∧ Refuses data s) ∧ (∃ fault, data.lookupAt path = .error fault) ∨
      (¬ ∃ s, path = .text s ∧ Refuses data s) ∧ ∃ v, data.lookupAt path = .ok v := by
  cases path with
  | text s =>
      rcases lookup_cases data s with ⟨h, cause, hlookup⟩ | ⟨h, v, hlookup, -⟩
      · exact .inl ⟨⟨s, rfl, h⟩, _, hlookup⟩
      · exact .inr ⟨by simpa using h, v, hlookup⟩
  | null | bool | int | float | list | object => exact .inr ⟨by simp, .null, rfl⟩

/-- A condition fails if one of its paths is refused, if the path of its value has no text, or with the
comparison. -/
theorem holdsIn_eq_error_iff :
    (∃ fault, holdsIn (.object condition) data = .error fault) ↔
      (∃ path, Names condition path ∧ Refuses data path) ∨
        (isIndirect condition = true ∧ ∃ fault, (written condition).toText = .error fault) ∨
          ∃ slot value, Compares condition data slot value ∧
            ∃ fault, holds slot (operator condition) value = .error fault := by
  rw [holdsIn_object]
  rcases lookupAt_cases data (slotPath condition) with
    ⟨⟨path, hslot, hrefuses⟩, fault, hlookup⟩ | ⟨hslot, slot, hlookup⟩
  · refine ⟨fun _ => .inl ⟨path, .slot hslot, hrefuses⟩, fun _ => ⟨fault, ?_⟩⟩
    rw [hlookup]
    rfl
  · cases hindirect : isIndirect condition with
    | false =>
        have hnames : ¬ ∃ path, Names condition path ∧ Refuses data path := by
          simpa [names_iff, hindirect] using hslot
        simp [hlookup, hnames, compares_iff, hindirect, bind, Except.bind, pure, Except.pure]
    | true =>
        cases htext : (written condition).toText with
        | error fault => simp [hlookup, bind, Except.bind]
        | ok path =>
            rcases lookup_cases data path with
              ⟨hrefuses, cause, hvalue⟩ | ⟨hrefuses, value, hvalue, -⟩
            · have hnames : Names condition path := .value hindirect htext
              refine ⟨fun _ => .inl ⟨path, hnames, hrefuses⟩, fun _ => ⟨.malformed cause, ?_⟩⟩
              simp [hlookup, hvalue, bind, Except.bind]
            · have hnames : ¬ ∃ path, Names condition path ∧ Refuses data path := by
                rintro ⟨other, hother, hrefused⟩
                cases hother with
                | slot written => exact hslot ⟨other, written, hrefused⟩
                | value indirect written =>
                    rw [htext] at written
                    cases written
                    exact hrefuses hrefused
              simp [hlookup, hnames, compares_iff, hindirect, htext, hvalue, bind, Except.bind]

end Condition

open Template Condition

/-- A look-up fails exactly if its path is refused, and else answers with what the path finds or with
null. So do the look-ups of templates and conditions, which fail for no other reason that lies in a
path. -/
theorem paths_answer_unless_refused (data : Value) :
    (∀ path, ((∃ fault, data.lookup path = .error fault) ↔ Refuses data path) ∧
      ∀ v, data.lookup path = .ok v ↔ ¬ Refuses data path ∧ Answers data path v) ∧
    (∀ template encodeQuery, (∃ fault, fillText template data encodeQuery = .error fault) ↔
      ∃ p, .inr p ∈ holes template ∧ (Refuses data (String.ofList p.path) ∨
        ∃ v, Finds data (String.ofList p.path) v ∧ ∃ fault, v.toText = .error fault)) ∧
    ∀ condition, (∃ fault, holdsIn (.object condition) data = .error fault) ↔
      (∃ path, Names condition path ∧ Refuses data path) ∨
        (isIndirect condition = true ∧ ∃ fault, (written condition).toText = .error fault) ∨
          ∃ slot value, Compares condition data slot value ∧
            ∃ fault, holds slot (operator condition) value = .error fault :=
  ⟨fun _ => ⟨lookup_eq_error_iff, fun _ => lookup_eq_ok_iff⟩,
    fun template _ => fillText_eq_error_iff template, fun _ => holdsIn_eq_error_iff⟩

namespace Sample

def stock : Value := .object [("items", .list [.int 1])]

end Sample

/-- A superscript is a character for a digit, but writes no number. -/
theorem superscript_is_refused :
    Refuses Sample.stock "items.\u00b2" ∧
      Sample.stock.lookup "items.\u00b2" = .error (.malformed (.numeral "\u00b2")) ∧
      fillText "\x7bitems.\u00b2\x7d" Sample.stock false = .error (.malformed (.numeral "\u00b2")) ∧
      holdsIn (.object [("slot", .text "items.\u00b2"), ("value", .text "1")]) Sample.stock =
        .error (.malformed (.numeral "\u00b2")) := by
  have hlookup : Sample.stock.lookup "items.\u00b2" = .error (.malformed (.numeral "\u00b2")) := rfl
  exact ⟨lookup_eq_error_iff.1 ⟨_, hlookup⟩, hlookup, rfl, rfl⟩

end Dialogue
