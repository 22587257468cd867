import Dialogue.Text.Basic
/-!
Texts in ASCII characters alone. The ASCII characters come first; the places and values of the
others follow after a hyphen, as numbers of digits whose base adapts to what has been written.
-/
namespace Dialogue.Url.Punycode

open Dialogue.Text

def isAscii (c : Char) : Bool := c.toNat < 128

/-- Twenty-six letters and ten digits as numbers. -/
def digitChar (n : Nat) : Char := if n < 26 then Char.ofNat (97 + n) else Char.ofNat (22 + n)

def digitValue? (c : Char) : Option Nat :=
  if 'a' ≤ c.toLower && c.toLower ≤ 'z' then some (c.toLower.toNat - 97)
  else if '0' ≤ c && c ≤ '9' then some (c.toNat - 22)
  else none

/-- A digit below this ends a number; `place` counts the digits in steps of thirty-six. -/
def threshold (place bias : Nat) : Nat :=
  if place ≤ bias then 1 else if bias + 26 ≤ place then 26 else place - bias

theorem threshold_pos (place bias : Nat) : 1 ≤ threshold place bias := by
  unfold threshold
  split
  · omega
  · split <;> omega

theorem threshold_le (place bias : Nat) : threshold place bias ≤ 26 := by
  unfold threshold
  split
  · omega
  · split <;> omega

theorem quotient_lt {place bias n : Nat} (h : ¬ n < threshold place bias) :
    (n - threshold place bias) / (36 - threshold place bias) < n := by
  have h₁ := threshold_pos place bias
  calc (n - threshold place bias) / (36 - threshold place bias)
      ≤ n - threshold place bias := Nat.div_le_self _ _
    _ < n := by omega

def shrink (delta place : Nat) : Nat × Nat :=
  if 455 < delta then shrink (delta / 35) (place + 36) else (delta, place)
termination_by delta
decreasing_by exact Nat.div_lt_self (by omega) (by omega)

/-- The bias after a number has been written in a text of `size` characters. -/
def adapt (first : Bool) (delta size : Nat) : Nat :=
  let start := if first then delta / 700 else delta / 2
  let (delta, place) := shrink (start + start / size) 0
  place + 36 * delta / (delta + 38)

def digits (bias place n : Nat) : List Char :=
  if h : n < threshold place bias then [digitChar n]
  else
    digitChar (threshold place bias + (n - threshold place bias) % (36 - threshold place bias)) ::
      digits bias (place + 36) ((n - threshold place bias) / (36 - threshold place bias))
termination_by n
decreasing_by exact quotient_lt h

/-- What has been written: the numbers, the steps since the last one, the bias, and how many
characters of the text are covered. -/
structure Writing where
  written : List Char
  delta : Nat
  bias : Nat
  covered : Nat

/-- Passes over a character while those with the value `code` are written. -/
def Writing.pass (ascii code : Nat) (w : Writing) (c : Char) : Writing :=
  if c.toNat < code then { w with delta := w.delta + 1 }
  else if c.toNat = code then
    { written := w.written ++ digits w.bias 36 w.delta
      delta := 0
      bias := adapt (w.covered = ascii) w.delta (w.covered + 1)
      covered := w.covered + 1 }
  else w

/-- Writes the characters with the given values; those below `least` are written already. -/
def writeCodes (cs : List Char) (ascii : Nat) :
    (codes : List Nat) → (least : Nat) → Writing → Writing
  | [], _, w => w
  | code :: codes, least, w =>
      let start := { w with delta := w.delta + (code - least) * (w.covered + 1) }
      let next := cs.foldl (Writing.pass ascii code) start
      writeCodes cs ascii codes (code + 1) { next with delta := next.delta + 1 }

/-- The values of the characters beyond ASCII in increasing order. -/
def codesBeyond (cs : List Char) : List Nat :=
  (((cs.filter fun c => !isAscii c).map Char.toNat).mergeSort (· ≤ ·)).eraseDups

def encode (cs : List Char) : List Char :=
  let ascii := cs.filter isAscii
  let mark := if ascii.isEmpty then [] else ['-']
  let written := writeCodes cs ascii.length (codesBeyond cs) 128 ⟨[], 0, 72, ascii.length⟩
  ascii ++ mark ++ written.written

/-- A number and what follows it. `weight` is what the next digit counts. -/
def cutNumber? (bias : Nat) : List Char → (place weight sum : Nat) → Option (Nat × List Char)
  | [], _, _, _ => none
  | c :: cs, place, weight, sum => do
      let digit ← digitValue? c
      let t := threshold place bias
      if digit < t then some (sum + digit * weight, cs)
      else cutNumber? bias cs (place + 36) (weight * (36 - t)) (sum + digit * weight)

theorem length_lt_of_cutNumber? {bias : Nat} {cs rest : List Char} {place weight sum n : Nat}
    (h : cutNumber? bias cs place weight sum = some (n, rest)) : rest.length < cs.length := by
  induction cs generalizing place weight sum with
  | nil => simp [cutNumber?] at h
  | cons c cs ih =>
      simp only [cutNumber?, Option.bind_eq_bind, Option.bind_eq_some_iff] at h
      obtain ⟨digit, -, h⟩ := h
      split at h
      · simp only [Option.some.injEq, Prod.mk.injEq] at h
        simp [h.2]
      · have := ih h
        simp only [List.length_cons]
        omega

/-- Puts in the characters that the numbers in `cs` name. `place` is where the last one went, as a
number that counts through the texts of this length for each value from `code` on. -/
def insertCodes (bias code place : Nat) (read : List Char) (cs : List Char) : Option (List Char) :=
  match cs with
  | [] => some read
  | c :: rest =>
      match h : cutNumber? bias (c :: rest) 36 1 0 with
      | none => none
      | some (delta, rest') =>
          let size := read.length + 1
          let next := code + (place + delta) / size
          let index := (place + delta) % size
          if next.isValidChar then
            insertCodes (adapt (read.all isAscii) delta size) next (index + 1)
              (read.insertIdx index (Char.ofNat next)) rest'
          else none
termination_by cs.length
decreasing_by exact length_lt_of_cutNumber? h

def decode? (cs : List Char) : Option (List Char) :=
  let (ascii, numbers) := (cutLast? '-' cs).getD ([], cs)
  insertCodes 72 128 0 ascii numbers

end Dialogue.Url.Punycode
