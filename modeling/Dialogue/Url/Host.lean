import Dialogue.Text.Mark
import Dialogue.Url.Percent
import Dialogue.Text.Case
import Dialogue.Text.Compose
import Dialogue.Text.Scan
import Dialogue.Url.Permitted
import Dialogue.Url.Punycode
/-!
The direction of writing.
-/
namespace Dialogue.Text

/-- Letters of scripts that run from right to left. -/
def leftwardRanges : Ranges := [
  (0x5d0, 0x5ea), (0x5ef, 0x5f4), (0x620, 0x63f), (0x641, 0x64a), (0x66e, 0x66f), (0x671, 0x674),
  (0x679, 0x6d3), (0x6d5, 0x6d5), (0x6e5, 0x6e6), (0x6ee, 0x6ef), (0x6fa, 0x6ff), (0x710, 0x710),
  (0x712, 0x72f), (0x74d, 0x7a5), (0x7b1, 0x7b1), (0x7c0, 0x7ea), (0x7f4, 0x7f5), (0x800, 0x815),
  (0x81a, 0x81a), (0x824, 0x824), (0x828, 0x828), (0x840, 0x858), (0x860, 0x86a), (0x870, 0x887),
  (0x889, 0x88e), (0x8a0, 0x8c9), (0xfe73, 0xfe73), (0x10800, 0x10805), (0x10808, 0x10808),
  (0x1080a, 0x10835), (0x10837, 0x10838), (0x1083c, 0x1083c), (0x1083f, 0x10855),
  (0x10860, 0x10876), (0x10880, 0x1089e), (0x108e0, 0x108f2), (0x108f4, 0x108f5),
  (0x10900, 0x10915), (0x10920, 0x10939), (0x10980, 0x109b7), (0x109be, 0x109bf),
  (0x10a00, 0x10a00), (0x10a10, 0x10a13), (0x10a15, 0x10a17), (0x10a19, 0x10a35),
  (0x10a60, 0x10a7c), (0x10a80, 0x10a9c), (0x10ac0, 0x10ac7), (0x10ac9, 0x10ae4),
  (0x10b00, 0x10b35), (0x10b40, 0x10b55), (0x10b60, 0x10b72), (0x10b80, 0x10b91),
  (0x10c00, 0x10c48), (0x10cc0, 0x10cf2), (0x10d00, 0x10d23), (0x10e80, 0x10ea9),
  (0x10eb0, 0x10eb1), (0x10f00, 0x10f1c), (0x10f27, 0x10f27), (0x10f30, 0x10f45),
  (0x10f70, 0x10f81), (0x10fb0, 0x10fc4), (0x10fe0, 0x10ff6), (0x1e800, 0x1e8c4),
  (0x1e922, 0x1e943), (0x1e94b, 0x1e94b), (0x1e950, 0x1e959)]

/-- Digits that belong to such scripts. -/
def arabicNumberRanges : Ranges := [
  (0x660, 0x669), (0x10d30, 0x10d39)]

/-- Digits of either direction. -/
def numberRanges : Ranges := [
  (0x30, 0x39), (0x6f0, 0x6f9)]

/-- Marks of punctuation, which take the direction of what is around them. -/
def neutralRanges : Ranges := [
  (0x2d, 0x2d), (0xb7, 0xb7), (0x2b9, 0x2ba), (0x2c6, 0x2cf), (0x2ec, 0x2ec), (0x375, 0x375),
  (0x200c, 0x200d), (0x2e2f, 0x2e2f), (0x30fb, 0x30fb), (0xa67f, 0xa67f), (0xa717, 0xa71f),
  (0xa788, 0xa788)]

inductive Direction where
  | rightward
  | leftward
  | arabicNumber
  | number
  | neutral
  | mark
  deriving DecidableEq, Repr

def Direction.of (c : Char) : Direction :=
  if leftwardRanges.has c.toNat then .leftward
  else if arabicNumberRanges.has c.toNat then .arabicNumber
  else if numberRanges.has c.toNat then .number
  else if neutralRanges.has c.toNat then .neutral
  else if isPlainMark c then .mark
  else .rightward

/-- Nothing in a text runs leftward, or all of it: the text starts with a letter, has no letters of
the other direction and one kind of digits, and ends with a letter or digit. -/
def isOneWay (cs : List Char) : Bool :=
  let directions := cs.map Direction.of
  let isLeftward := directions.any fun d => d = .leftward || d = .arabicNumber
  let endsWell (d : Direction) : Bool := d = .leftward || d = .arabicNumber || d = .number
  !isLeftward ||
    (directions.head? = some .leftward && !directions.contains .rightward &&
      !(directions.contains .arabicNumber && directions.contains .number) &&
      (directions.reverse.find? (· ≠ .mark)).any endsWell)

end Dialogue.Text

/-!
The authority of a URL: addresses in brackets, and characters that another form of writing would
turn into delimiters.
-/
namespace Dialogue.Url

open Dialogue.Text

/-- A number from 0 to 255 without leading zeros. -/
def isOctet (cs : List Char) : Bool :=
  !cs.isEmpty && cs.length ≤ 3 && cs.all isAsciiDigit && decimalValue cs ≤ 255 &&
    (cs.length = 1 || cs.head? ≠ some '0')

def isIpv4 (cs : List Char) : Bool :=
  let parts := splitAll '.' cs
  parts.length = 4 && parts.all isOctet

def isHexGroup (cs : List Char) : Bool :=
  !cs.isEmpty && cs.length ≤ 4 && cs.all fun c => (hexValue? c).isSome

/-- The parts of an address between colons; a last part in dots counts as two groups. -/
def addressGroups? (cs : List Char) : Option (List (List Char)) :=
  let parts := splitAll ':' cs
  if parts.length < 3 then none
  else
    match parts.getLast? with
    | some last =>
        if last.contains '.' then
          if isIpv4 last then some (parts.dropLast ++ [['0'], ['0']]) else none
        else some parts
    | none => none

/-- Eight groups, or fewer with one gap written as two colons. -/
def groupsFit (groups : List (List Char)) : Bool :=
  let inner := (groups.drop 1).dropLast
  let filled := groups.filter fun g => !g.isEmpty
  let headOpen := (groups.head?.map List.isEmpty).getD false
  let lastOpen := (groups.getLast?.map List.isEmpty).getD false
  let gaps := inner.countP List.isEmpty
  groups.length ≤ 9 && filled.all isHexGroup &&
    (if gaps = 0 then groups.length = 8 && !headOpen && !lastOpen
    else
      gaps = 1 && filled.length ≤ 7 &&
        (!headOpen || (inner.head?.map List.isEmpty).getD false) &&
        (!lastOpen || (inner.getLast?.map List.isEmpty).getD false))

/-- An address of groups, with an optional zone after a percent sign. -/
def isIpv6 (cs : List Char) : Bool :=
  match splitAll '%' cs with
  | [address] => (addressGroups? address).elim false groupsFit
  | [address, zone] => !zone.isEmpty && (addressGroups? address).elim false groupsFit
  | _ => false

/-- A future address: `v`, a version, a dot and anything but line breaks. -/
def isFutureAddress (cs : List Char) : Bool :=
  match cs with
  | 'v' :: more =>
      let version := more.takeWhile fun c => (hexValue? c).isSome
      match more.drop version.length with
      | '.' :: rest => !version.isEmpty && !rest.isEmpty && !rest.contains '\n'
      | _ => false
  | _ => false

def isBracketedHost (cs : List Char) : Bool :=
  if cs.head? = some 'v' then isFutureAddress cs else isIpv6 cs

/-- The part of an authority after the user information. -/
def hostAndPort (authority : List Char) : List Char :=
  match cutLast? '@' authority with
  | some (_, host) => host
  | none => authority

/-- Brackets, if any, come as a pair around a whole host. -/
def bracketsFit (authority : List Char) : Bool :=
  match authority.contains '[', authority.contains ']' with
  | false, false => true
  | true, true =>
      match hostAndPort authority with
      | '[' :: more =>
          match cut? ']' more with
          | some (host, port) => isBracketedHost host && (port.isEmpty || port.head? = some ':')
          | none => isBracketedHost more
      | host =>
          if host.contains '[' then false
          else isBracketedHost (((cut? ':' host).map Prod.fst).getD host)
  | _, _ => false

/-- Characters that stand for text with a delimiter in it, such as the fullwidth solidus. -/
def hiddenDelimiters : List Nat := [
  0x2047, 0x2048, 0x2049, 0x2100, 0x2101, 0x2105, 0x2106, 0x2a74, 0xfe13, 0xfe16, 0xfe55, 0xfe56,
  0xfe5f, 0xfe6b, 0xff03, 0xff0f, 0xff1a, 0xff1f, 0xff20]

def hasHiddenDelimiter (authority : List Char) : Bool :=
  authority.any fun c => hiddenDelimiters.contains c.toNat

end Dialogue.Url

/-!
Names of hosts in any script, and the names in ASCII under which they are known.
-/
namespace Dialogue.Url

open Dialogue.Text

def middleDot : Char := Char.ofNat 0xb7

def katakanaDot : Char := Char.ofNat 0x30fb

def isArabicDigit (c : Char) : Bool := 0x660 ≤ c.toNat && c.toNat ≤ 0x669

def isPersianDigit (c : Char) : Bool := 0x6f0 ≤ c.toNat && c.toNat ≤ 0x6f9

/-- A sign that keeps letters apart has a place between letters that would join, and after a mark
that takes the vowel away. -/
def nonJoinerFits (before after : List Char) : Bool :=
  before.head?.any isVirama ||
    ((before.dropWhile isTransparent).head?.any joinsNext &&
      (after.dropWhile isTransparent).head?.any joinsPrevious)

/-- Whether a character may stand between what is before it, last character first, and after it. -/
def fits (before : List Char) (c : Char) (after : List Char) : Bool :=
  if permittedRanges.has c.toNat then true
  else if c.toNat = 0x200c then nonJoinerFits before after
  else if c.toNat = 0x200d then before.head?.any isVirama
  else if c = middleDot then before.head? = some 'l' && after.head? = some 'l'
  else if c.toNat = 0x375 then after.head?.any fun d => greekRanges.has d.toNat
  else if c.toNat = 0x5f3 || c.toNat = 0x5f4 then
    before.head?.any fun d => hebrewRanges.has d.toNat
  else if c = katakanaDot then (before ++ after).any fun d => japaneseRanges.has d.toNat
  else if isArabicDigit c then !(before ++ after).any isPersianDigit
  else if isPersianDigit c then !(before ++ after).any isArabicDigit
  else false

def allFit (before : List Char) : List Char → Bool
  | [] => true
  | c :: after => fits before c after && allFit (c :: before) after

/-- Hyphens stand inside, and no two of them where a lead for names in ASCII has them. -/
def hyphensFit (cs : List Char) : Bool :=
  cs.head? ≠ some '-' && cs.getLast? ≠ some '-' && (cs.drop 2).take 2 ≠ ['-', '-']

/-- A part of a name between dots. -/
def isLabel (cs : List Char) : Bool :=
  !cs.isEmpty && cs.length ≤ 254 && hyphensFit cs && !cs.head?.any isMark && allFit [] cs &&
    isComposed cs && isOneWay cs

/-- The lead of labels that stand for others. -/
def codeLead : List Char := ['x', 'n', '-', '-']

def isCodeFor (code : List Char) : Bool :=
  !code.isEmpty && code.getLast? ≠ some '-' && (Punycode.decode? code).any isLabel

def isAsciiLabel (cs : List Char) : Bool :=
  if codeLead.isPrefixOf cs then isCodeFor (cs.drop 4) else isLabel cs

def maxLabel : Nat := 63

def maxHost : Nat := 253

/-- A label in ASCII. -/
def asciiLabel? (cs : List Char) : Option (List Char) := do
  let label ←
    if cs.all Punycode.isAscii then (if isAsciiLabel cs then some cs else none)
    else if isLabel cs then some (codeLead ++ Punycode.encode cs)
    else none
  if label.length ≤ maxLabel then some label else none

/-- The full stop and the dots that stand for it. -/
def isDot (c : Char) : Bool := [0x2e, 0x3002, 0xff0e, 0xff61].contains c.toNat

/-- The name of a host in ASCII. A dot may stand at its end. -/
def asciiHost? (cs : List Char) : Option (List Char) := do
  let labels := splitAll '.' (cs.map fun c => if isDot c then '.' else c)
  let ending := if labels.getLast? = some [] then ['.'] else []
  let names ← (if ending.isEmpty then labels else labels.dropLast).mapM asciiLabel?
  let host := List.intercalate ['.'] names ++ ending
  if names.isEmpty || maxHost + ending.length < host.length then none else some host

end Dialogue.Url
