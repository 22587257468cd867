import Dialogue.Regex.Matcher
import Dialogue.Regex.Written
/-!
Searching a text for an expression.
-/
namespace Dialogue.Regex

open Dialogue.Text

/-- An expression ready for searching. A match begins with a character of `start` if that is
given. -/
structure Pattern where
  body : Regex
  start : Option Test

/-- A set that begins an expression and takes no account of case. -/
def firstSet? : Regex → Option (List Item × Bool)
  | .one ⟨.set items negated, fold, _⟩ => if fold then none else some (items, negated)
  | .sequence (part :: _) => firstSet? part
  | .group _ body => firstSet? body
  | _ => none

/-- A match takes its first character from the set that the expression begins with. There the
classes are those of the whole expression, whatever holds inside the group that has the set. -/
def startOf (ascii : Bool) (width : Width) (body : Regex) : Option Test :=
  if width.least = 0 then none
  else (firstSet? body).map fun (items, negated) => ⟨.set items negated, false, ascii⟩

def Pattern.mayStart (pattern : Pattern) (after : List Char) : Bool :=
  pattern.start.all fun test => after.head?.any test.has

/-- Whether the expression matches in front of `after`. -/
def Pattern.matchesAt (pattern : Pattern) (position : Nat) (before after : List Char) : Bool :=
  pattern.mayStart after &&
    (run false pattern.body ⟨position, before, after⟩ [] done).stop?.isSome

def Pattern.searchFrom (pattern : Pattern) (position : Nat) (before : List Char) :
    List Char → Bool
  | [] => pattern.matchesAt position before []
  | c :: cs =>
      pattern.matchesAt position before (c :: cs) ||
        pattern.searchFrom (position + 1) (c :: before) cs

/-- Whether the expression matches somewhere in a text. -/
def Pattern.occursIn (pattern : Pattern) (cs : List Char) : Bool := pattern.searchFrom 0 [] cs

theorem Pattern.searchFrom_iff {pattern : Pattern} {position : Nat} {before cs : List Char} :
    pattern.searchFrom position before cs = true ↔
      ∃ front rest, cs = front ++ rest ∧
        pattern.matchesAt (position + front.length) (front.reverse ++ before) rest = true := by
  induction cs generalizing position before with
  | nil =>
      simp only [searchFrom]
      constructor
      · intro h; exact ⟨[], [], rfl, by simpa using h⟩
      · rintro ⟨front, rest, h, hm⟩
        obtain ⟨rfl, rfl⟩ := List.append_eq_nil_iff.1 h.symm
        simpa using hm
  | cons c cs ih =>
      simp only [searchFrom, Bool.or_eq_true, ih]
      constructor
      · rintro (h | ⟨front, rest, rfl, h⟩)
        · exact ⟨[], c :: cs, rfl, by simpa using h⟩
        · refine ⟨c :: front, rest, rfl, ?_⟩
          simpa [Nat.add_assoc, Nat.add_comm 1] using h
      · rintro ⟨front, rest, heq, h⟩
        cases front with
        | nil => left; simp only [List.nil_append] at heq; simpa [heq] using h
        | cons d front =>
            simp only [List.cons_append, List.cons.injEq] at heq
            obtain ⟨rfl, rfl⟩ := heq
            right
            exact ⟨front, rest, rfl, by simpa [Nat.add_assoc, Nat.add_comm 1] using h⟩

end Dialogue.Regex

/-!
Expressions with alternatives. Parts that all of them begin with stand in front, and alternatives
that are single characters make one set.
-/
namespace Dialogue.Regex

/-- The part that all rows begin with. -/
def commonHead? : List (List Regex) → Option Regex
  | (part :: _) :: rows =>
      if rows.all fun parts => parts.head?.any (same part) then some part else none
  | _ => none

/-- Up to `bound` parts that all rows begin with, and what is left of the rows. -/
def factor : (bound : Nat) → List (List Regex) → List Regex × List (List Regex)
  | 0, rows => ([], rows)
  | bound + 1, rows =>
      match commonHead? rows with
      | some part =>
          let (front, rest) := factor bound (rows.map (List.drop 1))
          (part :: front, rest)
      | none => ([], rows)

/-- The members of a row that is one character of a set. -/
def members? : List Regex → Option (List Item)
  | [.one ⟨.code n false, _, _⟩] => some [.code n]
  | [.one ⟨.set items false, _, _⟩] => some items
  | _ => none

/-- The row of parts that alternatives make. -/
def joinAlternatives (options : Options) : List (List Regex) → List Regex
  | [] => []
  | [row] => row
  | first :: rows =>
      let (front, rest) := factor first.length (first :: rows)
      match rest.mapM members? with
      | some items =>
          let shape := Shape.set items.flatten.eraseDups false
          front ++ [.one (Test.make shape (options.contains 'i') (options.contains 'a'))]
      | none => front ++ [.choice (rest.map ofParts)]

theorem factor_append (bound : Nat) (rows : List (List Regex)) (front : List Regex)
    (rest : List (List Regex)) (h : factor bound rows = (front, rest)) :
    rest.length = rows.length := by
  induction bound generalizing rows front rest with
  | zero => simp [factor] at h; simp [← h.2]
  | succ bound ih =>
      simp only [factor] at h
      split at h
      · simp only [Prod.mk.injEq] at h
        obtain ⟨_, rfl⟩ := h
        simpa using ih (rows.map (List.drop 1)) _ _ rfl
      · simp only [Prod.mk.injEq] at h
        rw [← h.2]

end Dialogue.Regex
