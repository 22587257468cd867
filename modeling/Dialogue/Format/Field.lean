import Dialogue.Value.Convert
import Dialogue.Text.Digit
/-!
Names of fields: the argument they start from and the steps from there to the value they stand for.
-/
namespace Dialogue.Format

open Dialogue.Text

/-- From a value to one of its attributes or items. A name that cannot be read on breaks off. -/
inductive Step where
  | attribute (name : String)
  | item (key : String)
  | broken
  deriving DecidableEq, Repr

/-- The step that the characters read so far, last one first, make. -/
def step (make : String → Step) (read : List Char) : Step :=
  if read.isEmpty then .broken else make (String.ofList read.reverse)

/-- The part of a name that is being read. -/
inductive Inside where
  | between
  | attribute (read : List Char)
  | item (read : List Char)

def steps : Inside → List Char → List Step
  | .between, [] => []
  | .between, '.' :: cs => steps (.attribute []) cs
  | .between, '[' :: cs => steps (.item []) cs
  | .between, _ => [.broken]
  | .attribute read, [] => [step .attribute read]
  | .attribute read, '.' :: cs => step .attribute read :: steps (.attribute []) cs
  | .attribute read, '[' :: cs => step .attribute read :: steps (.item []) cs
  | .attribute read, c :: cs => steps (.attribute (c :: read)) cs
  | .item _, [] => [.broken]
  | .item read, ']' :: cs => step .item read :: steps .between cs
  | .item read, c :: cs => steps (.item (c :: read)) cs

/-- The greatest position that a name may give. -/
def maxPosition : Nat := Nat.pow 2 63 - 1

/-- A name of decimal digits is a position; positions beyond the greatest one are refused. -/
inductive Index where
  | position (n : Nat)
  | name
  | tooLarge

/-- Digits up to the first other character, and whether they are all there is. -/
def Index.ofText (s : String) : Index :=
  let digits := s.toList.takeWhile isDecimal
  if maxPosition < decimalValue digits then .tooLarge
  else if digits.isEmpty || digits.length < s.toList.length then .name
  else .position (decimalValue digits)

/-- What a field stands for: a value, or the class of a value. -/
inductive Subject where
  | value (v : Value)
  | kind (label : String)

def kindText (label : String) : String := "<class '" ++ label ++ "'>"

/-- Numbers have a real and an imaginary part, integers a numerator and a denominator. -/
def attribute? (v : Value) (name : String) : Option Subject :=
  match v, name with
  | v, "__class__" => some (.kind v.kind.label)
  | .int n, "real" | .int n, "numerator" => some (.value (.int n))
  | .int _, "imag" => some (.value (.int 0))
  | .int _, "denominator" => some (.value (.int 1))
  | .bool b, "real" | .bool b, "numerator" => some (.value (.int (if b then 1 else 0)))
  | .bool _, "imag" => some (.value (.int 0))
  | .bool _, "denominator" => some (.value (.int 1))
  | .float x, "real" => some (.value (.float x))
  | .float _, "imag" => some (.value (.float 0.0))
  | _, _ => none

def kindAttribute? (label name : String) : Option Subject :=
  match name with
  | "__class__" => some (.kind "type")
  | "__name__" | "__qualname__" => some (.value (.text label))
  | "__module__" => some (.value (.text "builtins"))
  | _ => none

/-- Items of lists and texts have positions, those of objects have names. -/
def itemOf (v : Value) (key : String) : Except Fault Value :=
  match Index.ofText key, v with
  | .tooLarge, _ => .error (.malformed .template)
  | .position n, .list items =>
      match items[n]? with
      | some item => .ok item
      | none => .error .missingIndex
  | .position n, .text s =>
      match s.toList[n]? with
      | some c => .ok (.text (String.ofList [c]))
      | none => .error .missingIndex
  | .name, .object fields =>
      match Mapping.get? fields key with
      | some item => .ok item
      | none => .error (.missingField key)
  | .position _, .object _ => .error (.missingField key)
  | _, other => .error (.clash (.lacksItems other.kind))

def Subject.take (subject : Subject) (step : Step) : Except Fault Subject :=
  match subject, step with
  | _, .broken => .error (.malformed .template)
  | .value v, .attribute name =>
      match attribute? v name with
      | some part => .ok part
      | none => .error (.clash (.lacksFields v.kind))
  | .value v, .item key => do return .value (← itemOf v key)
  | .kind label, .attribute name =>
      match kindAttribute? label name with
      | some part => .ok part
      | none => .error (.clash (.lacksFields .null))
  | .kind _, .item _ => .error (.clash (.lacksItems .null))

/-- The argument of a name. Arguments have names; none has a position. -/
def argument (args : Mapping Value) (name : String) : Except Fault Value :=
  if name = "" then .error .missingIndex
  else
    match Index.ofText name with
    | .tooLarge => .error (.malformed .template)
    | .position _ => .error .missingIndex
    | .name =>
        match Mapping.get? args name with
        | some v => .ok v
        | none => .error (.missingField name)

/-- What the name of a field stands for. -/
def find (args : Mapping Value) (name : List Char) : Except Fault Subject := do
  let isFirst := fun c => c ≠ '.' && c ≠ '['
  let first ← argument args (String.ofList (name.takeWhile isFirst))
  (steps .between (name.dropWhile isFirst)).foldlM Subject.take (.value first)

end Dialogue.Format
