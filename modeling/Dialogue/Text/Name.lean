import Dialogue.Text.Digit
import Dialogue.Text.Name.Modern
import Dialogue.Text.Name.Basic
import Dialogue.Text.Name.Ancient
import Dialogue.Text.Name.Arabic
import Dialogue.Text.Name.Southern
import Dialogue.Text.Name.Extended
import Dialogue.Text.Name.Figure
import Dialogue.Text.Name.Indic
import Dialogue.Text.Name.Latin
import Dialogue.Text.Name.Symbol
import Dialogue.Text.Name.Score
import Dialogue.Text.Name.Sign
/-!
The character that a name stands for. Names are listed in tables, but for Hangul syllables, which
are named by their sounds, Braille patterns, which are named by their dots, and characters that are
named by their code points or counted.
-/
namespace Dialogue.Text.Name

def runs : List Run :=
  latin ++ mark ++ greek ++ cyrillic ++ semitic ++ script ++ symbol ++ figure ++ asian ++ picture ++
    extended ++ arabic ++ indic ++ southern ++ eastern ++ african ++ american ++ alphabet ++ sign ++
    score ++ ancient

/-- The names of the first, middle and last sounds of Hangul syllables, in order. -/
def firstSounds : List String := [
  "G", "GG", "N", "D", "DD", "R", "M", "B", "BB", "S", "SS", "", "J", "JJ", "C", "K", "T", "P", "H"]

def middleSounds : List String := [
  "A", "AE", "YA", "YAE", "EO", "E", "YEO", "YE", "O", "WA", "WAE", "OE", "YO", "U", "WEO", "WE",
  "WI", "YU", "EU", "YI", "I"]

def lastSounds : List String := [
  "", "G", "GG", "GS", "N", "NJ", "NH", "D", "L", "LG", "LM", "LB", "LS", "LT", "LP", "LH", "M",
  "B", "BS", "S", "SS", "NG", "J", "C", "K", "T", "P", "H"]

/-- The longest sound at the front of a text, by its place in the list, and what follows it. -/
def cutSound? (sounds : List String) (cs : List Char) : Option (Nat × List Char) :=
  let found := sounds.zipIdx.filterMap fun (sound, index) =>
    (dropLead? sound.toList cs).map fun rest => (index, rest)
  found.foldl (fun best next =>
    match best with
    | some (_, rest) => if next.2.length < rest.length then some next else best
    | none => some next) none

/-- The syllable of three sounds. -/
def syllable? (cs : List Char) : Option Nat := do
  let (first, cs) ← cutSound? firstSounds cs
  let (middle, cs) ← cutSound? middleSounds cs
  let (last, cs) ← cutSound? lastSounds cs
  guard cs.isEmpty
  return 0xac00 + (first * middleSounds.length + middle) * lastSounds.length + last

def ideographs : Ranges := [
  (0x3400, 0x4dbf), (0x4e00, 0x9fff), (0x20000, 0x2a6df), (0x2a700, 0x2b738), (0x2b740, 0x2b81d),
  (0x2b820, 0x2cea1), (0x2ceb0, 0x2ebe0), (0x30000, 0x3134a)]

def upperHex? (c : Char) : Option Nat :=
  if '0' ≤ c && c ≤ '9' then some (c.toNat - 48)
  else if 'A' ≤ c && c ≤ 'F' then some (c.toNat - 55)
  else none

/-- The ideograph at a code point of four or five digits. -/
def ideograph? (cs : List Char) : Option Nat := do
  guard (cs.length = 4 || cs.length = 5)
  let digits ← cs.mapM upperHex?
  let code := digits.foldl (16 * · + ·) 0
  guard (ideographs.has code)
  return code

/-- Characters that are named by their code points. -/
def coded : List (String × Ranges) := [
  ("CJK COMPATIBILITY IDEOGRAPH-", [(0xf900, 0xfa6d), (0xfa70, 0xfad9), (0x2f800, 0x2fa1d)]),
  ("KHITAN SMALL SCRIPT CHARACTER-", [(0x18b00, 0x18cd5)]),
  ("NUSHU CHARACTER-", [(0x1b170, 0x1b2fb)])]

/-- A code point in its shortest form of at least four digits. -/
def codeIn? (ranges : Ranges) (cs : List Char) : Option Nat := do
  let digits ← cs.mapM upperHex?
  let code := digits.foldl (16 * · + ·) 0
  guard (ranges.has code && cs.length = if code < 0x10000 then 4 else 5)
  return code

/-- Characters that are named by a number from `start` on; it has at least `width` digits. -/
structure Series where
  lead : String
  width : Nat
  start : Nat
  count : Nat
  first : Nat

def counted : List Series := [
  ⟨"VARIATION SELECTOR-", 2, 17, 240, 0xe0100⟩, ⟨"VS", 2, 17, 240, 0xe0100⟩,
  ⟨"TANGUT COMPONENT-", 3, 1, 768, 0x18800⟩]

def Series.find? (s : Series) (name : List Char) : Option Nat := do
  let digits ← dropLead? s.lead.toList name
  let n := decimalValue digits
  guard (digits.all isAsciiDigit && digits.length = max s.width (toString n).length)
  guard (s.start ≤ n && n < s.start + s.count)
  return s.first + n - s.start

/-- The pattern of the given dots in increasing order, each of which counts twice the one before. -/
def braille? (least : Nat) : List Char → Option Nat
  | [] => some 0
  | c :: cs => do
      let dot := decimalValue [c]
      guard (isAsciiDigit c && least ≤ dot && dot ≤ 8)
      return 2 ^ (dot - 1) + (← braille? (dot + 1) cs)

def pattern? (name : List Char) : Option Nat := do
  let dots ← dropLead? "BRAILLE PATTERN ".toList name
  if dots = "BLANK".toList then some 0x2800
  else do
    let digits ← dropLead? "DOTS-".toList dots
    guard !digits.isEmpty
    return 0x2800 + (← braille? 1 digits)

/-- The code point of a name in capitals that follows a rule. -/
def regular? (name : List Char) : Option Nat :=
  ((pattern? name).or (counted.findSome? (Series.find? · name))).or
    (coded.findSome? fun (lead, ranges) => do codeIn? ranges (← dropLead? lead.toList name))

/-- The code point of the character with a name. Letters of names may be small, but for syllables
and ideographs. -/
def find? (name : List Char) : Option Nat :=
  match dropLead? "HANGUL SYLLABLE ".toList name,
      dropLead? "CJK UNIFIED IDEOGRAPH-".toList name with
  | some sounds, _ => syllable? sounds
  | none, some digits => ideograph? digits
  | none, none =>
      let upper := name.map Char.toUpper
      ((aliases.lookup (String.ofList upper)).or (regular? upper)).or
        (runs.findSome? (Run.find? · upper))

end Dialogue.Text.Name
