/-!
Texts as lists of characters: cutting at separators, finding and replacing parts.
-/
namespace Dialogue.Text

/-- The parts between the occurrences of `sep`; a text without `sep` is one part. -/
def splitAll (sep : Char) : List Char → List (List Char)
  | [] => [[]]
  | c :: cs =>
      if c = sep then [] :: splitAll sep cs
      else match splitAll sep cs with
        | [] => [[c]]
        | part :: parts => (c :: part) :: parts

/-- The text before and after the first `sep`. -/
def cut? (sep : Char) : List Char → Option (List Char × List Char)
  | [] => none
  | c :: cs => if c = sep then some ([], cs) else (cut? sep cs).map fun (a, b) => (c :: a, b)

/-- The text before and after the last `sep`. -/
def cutLast? (sep : Char) (cs : List Char) : Option (List Char × List Char) :=
  (cut? sep cs.reverse).map fun (after, before) => (before.reverse, after.reverse)

def occursIn (needle : List Char) : List Char → Bool
  | [] => needle.isEmpty
  | c :: cs => needle.isPrefixOf (c :: cs) || occursIn needle cs

/-- Replaces `old` from left to right, after passing over `skip` characters. -/
def replaceFrom (old new : List Char) : Nat → List Char → List Char
  | _, [] => []
  | skip + 1, _ :: cs => replaceFrom old new skip cs
  | 0, c :: cs =>
      if old.isPrefixOf (c :: cs) then new ++ replaceFrom old new (old.length - 1) cs
      else c :: replaceFrom old new 0 cs

/-- Replaces every occurrence of the non-empty text `old`. -/
def replaceAll (old new cs : List Char) : List Char := replaceFrom old new 0 cs

def joinWith (sep : String) (parts : List String) : String := sep.intercalate parts

/-- Two texts compared by their code points. -/
def precedes (a b : String) : Bool :=
  !(b.toList.map Char.toNat).lex (a.toList.map Char.toNat) fun m n => Nat.blt m n

theorem splitAll_ne_nil (sep : Char) (cs : List Char) : splitAll sep cs ≠ [] := by
  induction cs with
  | nil => simp [splitAll]
  | cons c cs ih =>
      simp only [splitAll]
      split
      · simp
      · split <;> simp

theorem cut?_eq_none_iff {sep : Char} {cs : List Char} : cut? sep cs = none ↔ sep ∉ cs := by
  induction cs with
  | nil => simp [cut?]
  | cons c cs ih =>
      by_cases h : c = sep
      · simp [cut?, h]
      · simp [cut?, h, ih, Ne.symm h]

theorem eq_append_of_cut? {sep : Char} {cs before after : List Char}
    (h : cut? sep cs = some (before, after)) : cs = before ++ sep :: after := by
  induction cs generalizing before with
  | nil => simp [cut?] at h
  | cons c cs ih =>
      by_cases hc : c = sep
      · simp only [cut?, hc, ↓reduceIte, Option.some.injEq, Prod.mk.injEq] at h
        obtain ⟨rfl, rfl⟩ := h
        simp [hc]
      · simp only [cut?, hc, ↓reduceIte, Option.map_eq_some_iff] at h
        obtain ⟨⟨a, b⟩, hab, heq⟩ := h
        simp only [Prod.mk.injEq] at heq
        obtain ⟨rfl, rfl⟩ := heq
        simp [ih hab]

end Dialogue.Text

/-!
Characters as octets. Octets that form no character are decoded to replacement characters, one for
each longest start of a character.
-/
namespace Dialogue.Text

/-- The octets of a character. -/
def octets (c : Char) : List Nat :=
  let n := c.toNat
  if n < 0x80 then [n]
  else if n < 0x800 then [0xc0 + n / 0x40, 0x80 + n % 0x40]
  else if n < 0x10000 then [0xe0 + n / 0x1000, 0x80 + n / 0x40 % 0x40, 0x80 + n % 0x40]
  else
    [0xf0 + n / 0x40000, 0x80 + n / 0x1000 % 0x40, 0x80 + n / 0x40 % 0x40, 0x80 + n % 0x40]

/-- The start of a character: what it is worth so far, how many octets are owed, and the bounds of
the next one. -/
structure Lead where
  value : Nat
  owed : Nat
  low : Nat
  high : Nat
  deriving DecidableEq, Repr

def replacement : Char := Char.ofNat 0xfffd

/-- An octet that does not continue a character. -/
def openOctet (b : Nat) : List Char × Option Lead :=
  if b < 0x80 then ([Char.ofNat b], none)
  else if b < 0xc2 then ([replacement], none)
  else if b < 0xe0 then ([], some ⟨b - 0xc0, 1, 0x80, 0xbf⟩)
  else if b = 0xe0 then ([], some ⟨0, 2, 0xa0, 0xbf⟩)
  else if b = 0xed then ([], some ⟨0xd, 2, 0x80, 0x9f⟩)
  else if b < 0xf0 then ([], some ⟨b - 0xe0, 2, 0x80, 0xbf⟩)
  else if b = 0xf0 then ([], some ⟨0, 3, 0x90, 0xbf⟩)
  else if b < 0xf4 then ([], some ⟨b - 0xf0, 3, 0x80, 0xbf⟩)
  else if b = 0xf4 then ([], some ⟨4, 3, 0x80, 0x8f⟩)
  else ([replacement], none)

def Lead.step (lead : Lead) (b : Nat) : List Char × Option Lead :=
  if lead.low ≤ b && b ≤ lead.high then
    let value := lead.value * 0x40 + (b - 0x80)
    if lead.owed ≤ 1 then ([Char.ofNat value], none)
    else ([], some ⟨value, lead.owed - 1, 0x80, 0xbf⟩)
  else
    let (out, next) := openOctet b
    (replacement :: out, next)

def decodeFrom : Option Lead → List Nat → List Char
  | none, [] => []
  | some _, [] => [replacement]
  | lead, b :: bs =>
      let (out, next) := match lead with
        | none => openOctet b
        | some lead => lead.step b
      out ++ decodeFrom next bs

def decodeOctets (bs : List Nat) : List Char := decodeFrom none bs

end Dialogue.Text
