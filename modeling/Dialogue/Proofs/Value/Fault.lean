import Dialogue.Proofs.Program
import Dialogue.Condition
/-!
What goes wrong when values are displayed, looked up and compared is the fault of a value: a kind
that does not fit, a number too long to be written, a field that is not there.
-/
namespace Dialogue

def Fault.IsOfValue : Fault → Prop
  | .clash _ | .malformed _ | .overflow | .missingField _ => True
  | _ => False

/-- Nothing but a value is at fault if `r` fails. -/
def OnlyValues {α : Type} (r : Except Fault α) : Prop := ∀ fault, r = .error fault → fault.IsOfValue

section

variable {α β : Type}

theorem onlyValues_ok (a : α) : OnlyValues (.ok a : Except Fault α) := by
  rintro fault ⟨⟩

theorem onlyValues_error {fault : Fault} (h : fault.IsOfValue) :
    OnlyValues (.error fault : Except Fault α) := by
  rintro _ ⟨⟩
  exact h

theorem onlyValues_clash (cause : Clash) : OnlyValues (.error (.clash cause) : Except Fault α) :=
  onlyValues_error trivial

theorem onlyValues_malformed (cause : Malformed) :
    OnlyValues (.error (.malformed cause) : Except Fault α) :=
  onlyValues_error trivial

theorem onlyValues_overflow : OnlyValues (.error .overflow : Except Fault α) :=
  onlyValues_error trivial

theorem onlyValues_missingField (name : String) :
    OnlyValues (.error (.missingField name) : Except Fault α) :=
  onlyValues_error trivial

theorem OnlyValues.bind {r : Except Fault α} {f : α → Except Fault β} (hr : OnlyValues r)
    (hf : ∀ a, OnlyValues (f a)) : OnlyValues (r >>= f) := by
  cases r with
  | ok a => exact hf a
  | error fault =>
      rintro _ ⟨⟩
      exact hr fault rfl

theorem OnlyValues.map {r : Except Fault α} (hr : OnlyValues r) (f : α → β) :
    OnlyValues (do return f (← r)) :=
  hr.bind fun a => onlyValues_ok (f a)

theorem OnlyValues.ite {p : Prop} [Decidable p] {r s : Except Fault α} (hr : OnlyValues r)
    (hs : OnlyValues s) : OnlyValues (if p then r else s) := by
  split
  · exact hr
  · exact hs

theorem OnlyValues.mapM {f : α → Except Fault β} (hf : ∀ a, OnlyValues (f a)) (as : List α) :
    OnlyValues (as.mapM f) := by
  induction as with
  | nil => exact onlyValues_ok []
  | cons a rest ih =>
      rw [List.mapM_cons]
      exact (hf a).bind fun b => ih.map (b :: ·)

end

namespace Numeral

theorem onlyValues_print (n : Int) : OnlyValues (print n) :=
  (onlyValues_malformed _).ite (onlyValues_ok _)

theorem onlyValues_ofDigits (digits : List Char) : OnlyValues (ofDigits digits) :=
  (onlyValues_malformed _).ite (onlyValues_ok _)

theorem onlyValues_ofSignedDigits (negative : Bool) (digits : List Char) :
    OnlyValues (ofSignedDigits negative digits) :=
  (onlyValues_ofDigits digits).map _

theorem onlyValues_parse (cs : List Char) : OnlyValues (parse cs) := by
  unfold parse
  simp only
  split
  · exact (onlyValues_malformed _).ite (onlyValues_ofSignedDigits _ _)
  · exact onlyValues_malformed _

end Numeral

namespace Json

mutual

theorem onlyValues_writeValue (style : Style) (depth : Nat) :
    (v : Value) → OnlyValues (writeValue style depth v)
  | .null | .bool _ | .float _ | .text _ => by
      rw [writeValue]
      exact onlyValues_ok _
  | .int n => by
      rw [writeValue]
      exact (Numeral.onlyValues_print n).map _
  | .list items => by
      rw [writeValue]
      exact (onlyValues_writeItems style (depth + 1) items).map _
  | .object fields => by
      rw [writeValue]
      exact (onlyValues_writeFields style (depth + 1) fields).map _

theorem onlyValues_writeItems (style : Style) (depth : Nat) :
    (vs : List Value) → OnlyValues (writeItems style depth vs)
  | [] => onlyValues_ok []
  | [v] => by
      rw [writeItems]
      exact (onlyValues_writeValue style depth v).map _
  | v :: w :: vs => by
      rw [writeItems]
      · exact (onlyValues_writeValue style depth v).bind fun _ =>
          (onlyValues_writeItems style depth (w :: vs)).map _
      · exact List.cons_ne_nil w vs

theorem onlyValues_writeFields (style : Style) (depth : Nat) :
    (fields : List (String × Value)) → OnlyValues (writeFields style depth fields)
  | [] => onlyValues_ok []
  | [(k, v)] => by
      rw [writeFields]
      exact (onlyValues_writeValue style depth v).map _
  | (k, v) :: entry :: rest => by
      rw [writeFields]
      · exact (onlyValues_writeValue style depth v).bind fun _ =>
          (onlyValues_writeFields style depth (entry :: rest)).map _
      · exact List.cons_ne_nil entry rest

end

theorem onlyValues_write (style : Style) (v : Value) : OnlyValues (write style v) :=
  (onlyValues_writeValue style 0 v).map _

end Json

namespace Value

theorem onlyValues_floatText (x : Float) : OnlyValues (floatText x) := by
  unfold floatText
  split
  · exact Numeral.onlyValues_print _
  · exact onlyValues_ok _

theorem onlyValues_toText (v : Value) : OnlyValues v.toText := by
  cases v with
  | null => exact onlyValues_ok _
  | bool b => exact onlyValues_ok _
  | int n => exact Numeral.onlyValues_print n
  | float x => exact onlyValues_floatText x
  | text s => exact onlyValues_ok s
  | list items => exact Json.onlyValues_write _ _
  | object fields => exact Json.onlyValues_write _ _

mutual

theorem onlyValues_inner : (v : Value) → OnlyValues v.inner
  | .null | .bool _ | .float _ | .text _ => by
      rw [inner]
      exact onlyValues_ok _
  | .int n => by
      rw [inner]
      exact Numeral.onlyValues_print n
  | .list items => by
      rw [inner]
      exact (onlyValues_innerItems items).map _
  | .object fields => by
      rw [inner]
      exact (onlyValues_innerFields fields).map _

theorem onlyValues_innerItems : (vs : List Value) → OnlyValues (innerItems vs)
  | [] => onlyValues_ok _
  | [v] => onlyValues_inner v
  | v :: w :: vs => by
      rw [innerItems]
      · exact (onlyValues_inner v).bind fun _ => (onlyValues_innerItems (w :: vs)).map _
      · exact List.cons_ne_nil w vs

theorem onlyValues_innerFields :
    (fields : List (String × Value)) → OnlyValues (innerFields fields)
  | [] => onlyValues_ok _
  | [(k, v)] => by
      rw [innerFields]
      exact (onlyValues_inner v).map _
  | (k, v) :: entry :: rest => by
      rw [innerFields]
      · exact (onlyValues_inner v).bind fun _ => (onlyValues_innerFields (entry :: rest)).map _
      · exact List.cons_ne_nil entry rest

end

theorem onlyValues_display (v : Value) : OnlyValues v.display := by
  unfold display
  split
  · exact onlyValues_ok _
  · exact onlyValues_inner _

theorem onlyValues_number? (v : Value) : OnlyValues v.number? := by
  unfold number?
  split
  · exact onlyValues_ok _
  · exact onlyValues_ok _
  · split
    · exact onlyValues_ok _
    · exact onlyValues_overflow
  · exact onlyValues_ok _
  · exact (onlyValues_display _).map _

theorem onlyValues_field (v : Value) (name : String) : OnlyValues (v.field name) := by
  unfold field
  split
  · exact onlyValues_ok _
  · exact onlyValues_clash _

theorem onlyValues_elements (v : Value) : OnlyValues v.elements := by
  unfold elements
  split
  · exact onlyValues_ok _
  · exact onlyValues_ok _
  · exact onlyValues_ok _
  · exact onlyValues_clash _

theorem onlyValues_child (v : Value) (key : Key) : OnlyValues (v.child key) := by
  have hindex : OnlyValues (listIndex? key) := by
    unfold listIndex?
    split
    · exact onlyValues_ok _
    · exact ((Numeral.onlyValues_parse _).map _).ite (onlyValues_ok _)
  unfold child
  split
  · refine hindex.bind fun place => ?_
    cases place <;> exact onlyValues_ok _
  · split
    · exact onlyValues_ok _
    · exact (Numeral.onlyValues_print _).map _
  · exact onlyValues_ok _

theorem onlyValues_walk (v : Value) (keys : List Key) : OnlyValues (v.walk keys) := by
  induction keys generalizing v with
  | nil => exact onlyValues_ok _
  | cons key keys ih =>
      refine (onlyValues_child v key).bind fun next => ?_
      cases next with
      | none => exact onlyValues_ok _
      | some next => exact ih next

theorem onlyValues_pathKeys (path : String) : OnlyValues (pathKeys path) := by
  refine .mapM (fun step => ?_) _
  cases step with
  | index negative digits => exact (Numeral.onlyValues_ofSignedDigits negative digits).map _
  | key name => exact onlyValues_ok _

theorem onlyValues_lookup (data : Value) (path : String) : OnlyValues (data.lookup path) := by
  refine (onlyValues_ok _).ite ((onlyValues_pathKeys path).bind fun keys => ?_)
  split
  · exact onlyValues_ok _
  · exact (onlyValues_walk data keys).map _

theorem onlyValues_lookupAt (data path : Value) : OnlyValues (data.lookupAt path) := by
  unfold lookupAt
  split
  · exact onlyValues_lookup data _
  · exact onlyValues_ok _

end Value

namespace Condition

open Value

theorem onlyValues_compareNumbers (test : Float → Float → Bool) (slot value : Value) :
    OnlyValues (compareNumbers test slot value) := by
  refine (onlyValues_number? slot).bind fun left => (onlyValues_number? value).bind fun right => ?_
  split <;> exact onlyValues_ok _

theorem onlyValues_compareTexts (comparison : Comparison) (slot : Value) (literal : String) :
    OnlyValues (compareTexts comparison slot literal) := by
  cases comparison with
  | equal => exact (onlyValues_toText slot).map _
  | different => exact (onlyValues_toText slot).map _
  | contains => exact (onlyValues_ok _).ite ((onlyValues_toText slot).map _)
  | lacks => exact (onlyValues_ok _).ite ((onlyValues_toText slot).map _)
  | greater => exact onlyValues_ok _
  | less => exact onlyValues_ok _
  | atLeast => exact onlyValues_ok _
  | atMost => exact onlyValues_ok _

theorem onlyValues_holds (slot operator value : Value) : OnlyValues (holds slot operator value) := by
  refine (onlyValues_toText value).bind fun literal => OnlyValues.ite ?_ (OnlyValues.ite ?_ ?_)
  · refine (onlyValues_toText slot).bind fun word => ?_
    split <;> exact onlyValues_ok _
  · exact onlyValues_clash _
  · split
    · exact onlyValues_ok _
    · split
      · exact onlyValues_compareNumbers _ slot value
      · exact onlyValues_compareTexts _ slot literal

theorem onlyValues_holdsIn (condition data : Value) : OnlyValues (holdsIn condition data) := by
  refine (onlyValues_field condition _).bind fun path =>
    (onlyValues_lookupAt data _).bind fun slot => (onlyValues_field condition _).bind fun written =>
      (onlyValues_field condition _).bind fun type => ?_
  have compared (value : Value) : OnlyValues (do
      holds slot ((← condition.field "operator").getD (.text "==")) value) :=
    (onlyValues_field condition _).bind fun operator => onlyValues_holds slot _ value
  exact OnlyValues.ite
    ((onlyValues_toText _).bind fun path => (onlyValues_lookup data path).bind compared)
    ((onlyValues_ok _).bind compared)

end Condition

end Dialogue
