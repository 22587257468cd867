import Dialogue.Regex.Basic
/-!
Where matching a text has come to, and where groups begin and end.
-/
namespace Dialogue.Regex

open Dialogue.Text

/-- A place in a text: what stands before it, last character first, and after it. -/
structure Place where
  position : Nat
  before : List Char
  after : List Char

def Place.next? (p : Place) : Option (Char × Place) :=
  match p.after with
  | [] => none
  | c :: cs => some (c, ⟨p.position + 1, c :: p.before, cs⟩)

def Place.moveBack? (p : Place) (n : Nat) : Option Place :=
  if n ≤ p.position then
    some ⟨p.position - n, p.before.drop n, (p.before.take n).reverse ++ p.after⟩
  else none

/-- The text between two positions. -/
def Place.between (p : Place) (start stop : Nat) : List Char :=
  ((p.before.reverse ++ p.after).drop start).take (stop - start)

def isWordAt (ascii : Bool) (c? : Option Char) : Bool := c?.any (Category.word.has ascii)

def Anchor.holds (anchor : Anchor) (p : Place) : Bool :=
  match anchor with
  | .textStart => p.before.isEmpty
  | .textEnd => p.after.isEmpty
  | .lineStart => p.before.isEmpty || p.before.head? = some '\n'
  | .lineEnd => p.after.isEmpty || p.after.head? = some '\n'
  | .lastLineEnd => p.after.isEmpty || p.after = ['\n']
  | .boundary ascii negated =>
      if p.before.isEmpty && p.after.isEmpty then false
      else
        (isWordAt ascii p.before.head? != isWordAt ascii p.after.head?) != negated

/-- The beginnings and ends of the groups, of each group in turn, up to the last one that has been
set. -/
abbrev Marks := List (Option Nat)

def Marks.put (marks : Marks) (index position : Nat) : Marks :=
  if index < marks.length then List.set marks index (some position)
  else marks ++ List.replicate (index - marks.length) none ++ [some position]

def beginning (number : Nat) : Nat := 2 * (number - 1)

def ending (number : Nat) : Nat := 2 * (number - 1) + 1

/-- Where a group begins and ends, if it has ended behind its beginning. -/
def Marks.span? (marks : Marks) (number : Nat) : Option (Nat × Nat) :=
  match marks[beginning number]?, marks[ending number]? with
  | some (some start), some (some stop) => if start ≤ stop then some (start, stop) else none
  | _, _ => none

/-- The marks after a failed attempt that began with `saved`. Within a repetition all of them are
taken back, else only those of groups that had no marks yet. -/
def Marks.takeBack (within : Bool) (saved now : Marks) : Marks :=
  if within then saved else now.take saved.length

theorem Marks.put_lookup (marks : Marks) (index position : Nat) :
    (marks.put index position)[index]? = some (some position) := by
  unfold Marks.put
  split
  · simp [*]
  · rename_i h
    have hlen : (marks ++ List.replicate (index - marks.length) none).length = index := by
      simp; omega
    rw [List.getElem?_append_right (by omega), hlen]
    simp

end Dialogue.Regex

/-!
Matching an expression at a place of a text. Alternatives are tried in order; a repetition goes on
only as long as it moves.
-/
namespace Dialogue.Regex

open Dialogue.Text

/-- Where an attempt ended, if it did not fail, and the marks that it leaves. -/
structure Outcome where
  stop? : Option Place
  marks : Marks

def Outcome.failed (marks : Marks) : Outcome := ⟨none, marks⟩

/-- The end of a part that is matched on its own. -/
def done (p : Place) (marks : Marks) : Outcome := ⟨some p, marks⟩

/-- Goes on from where an attempt ended. -/
def Outcome.onward (o : Outcome) (next : Place → Marks → Outcome) : Outcome :=
  match o.stop? with
  | some q => next q o.marks
  | none => o

/-- Tries something else with the marks that a failed attempt leaves. -/
def Outcome.orTry (o : Outcome) (other : Marks → Outcome) : Outcome :=
  match o.stop? with
  | some _ => o
  | none => other o.marks

/-- A matcher goes on with its last argument from every place it can reach. -/
abbrev Matcher := Place → Marks → (Place → Marks → Outcome) → Outcome

/-- Takes the characters of `taken`. -/
def takeSame (same : Char → Char → Bool) : List Char → Place → Option Place
  | [], p => some p
  | c :: cs, p =>
      match p.next? with
      | some (d, q) => if same c d then takeSame same cs q else none
      | none => none

def sameChar (fold ascii : Bool) (c d : Char) : Bool :=
  if fold then lowChar ascii c = lowChar ascii d else c = d

/-- Another round is allowed after `count` rounds. -/
def allows (most : Option Nat) (count : Nat) : Bool := most.all (count < ·)

/-- The places after no, one, two and more characters that satisfy a test. -/
def stretch (test : Test) : (bound : Nat) → Place → List Place
  | 0, p => [p]
  | bound + 1, p =>
      match p.next? with
      | some (c, q) => if test.has c then p :: stretch test bound q else [p]
      | none => [p]

/-- Goes on from the first of the places that leads to the end. -/
def tryPlaces (within : Bool) : List Place → (saved now : Marks) →
    (Place → Marks → Outcome) → Outcome
  | [], _, now, _ => .failed now
  | p :: places, saved, now, onward =>
      (onward p now).orTry fun left =>
        tryPlaces within places saved (saved.takeBack within left) onward

/-- Repeats a single character. -/
def repeatOne (within : Bool) (greed : Greed) (least : Nat) (most : Option Nat) (test : Test) :
    Matcher := fun p marks onward =>
  let bound := (most.map (min · p.after.length)).getD p.after.length
  let places := (stretch test bound p).drop least
  match greed with
  | .greedy => tryPlaces within places.reverse marks marks onward
  | .lazy => tryPlaces within places marks marks onward
  | .possessive =>
      match places.getLast? with
      | some q => onward q marks
      | none => .failed marks

/-- Repeats `body` from the count `count` on; `last` is the place of the previous round, counted
from the least number of rounds. -/
def rounds (within lazy : Bool) (least : Nat) (most : Option Nat) (body : Matcher) :
    (bound : Nat) → (count : Nat) → (last : Option Nat) → Matcher
  | 0, _, _, _, marks, _ => .failed marks
  | bound + 1, count, last, p, marks, onward =>
      if count < least then
        body p marks fun q now =>
          rounds within lazy least most body bound (count + 1) last q now onward
      else
        let again := fun (now : Marks) =>
          body p now fun q later =>
            rounds within lazy least most body bound (count + 1) (some p.position) q later onward
        let mayRepeat := allows most count && last ≠ some p.position
        if lazy then
          (onward p marks).orTry fun left =>
            let now := marks.takeBack within left
            if mayRepeat then again now else .failed now
        else if mayRepeat then (again marks).orTry fun _ => onward p marks
        else onward p marks

/-- Repeats `body` and keeps the first way each round takes. -/
def firmRounds (least : Nat) (most : Option Nat) (body : Matcher) :
    (bound : Nat) → (count : Nat) → (last : Option Nat) → Place → Marks → Outcome
  | 0, _, _, _, marks => .failed marks
  | bound + 1, count, last, p, marks =>
      if count < least then
        (body p marks done).onward fun q now =>
          firmRounds least most body bound (count + 1) last q now
      else if allows most count && last ≠ some p.position then
        let o := body p marks done
        match o.stop? with
        | some q => firmRounds least most body bound (count + 1) (some p.position) q o.marks
        | none => done p marks
      else done p marks

/-- No repetition takes more rounds than this. -/
def roundsBound (least : Nat) (p : Place) : Nat := least + p.after.length + 3

mutual

/-- The matcher of an expression; `within` says whether it stands within a repetition. -/
def run : (within : Bool) → Regex → Matcher
  | _, .one test, p, marks, onward =>
      match p.next? with
      | some (c, q) => if test.has c then onward q marks else .failed marks
      | none => .failed marks
  | _, .anchor place, p, marks, onward => if place.holds p then onward p marks else .failed marks
  | within, .sequence parts, p, marks, onward => runAll within parts p marks onward
  | within, .choice alternatives, p, marks, onward =>
      runFirst within alternatives p marks marks onward
  | within, .group none body, p, marks, onward => run within body p marks onward
  | within, .group (some number) body, p, marks, onward =>
      run within body p (marks.put (beginning number) p.position) fun q now =>
        onward q (now.put (ending number) q.position)
  | within, .atomic body, p, marks, onward => (run within body p marks done).onward onward
  | within, .repeated greed least most body, p, marks, onward =>
      match body.single? with
      | some test => repeatOne within greed least most test p marks onward
      | none =>
          let bound := roundsBound least p
          if greed = .possessive then
            (firmRounds least most (run true body) bound 0 none p marks).onward onward
          else
            rounds within (greed == .lazy) least most (run true body) bound 0 none p marks onward
  | within, .look behind negated body, p, marks, onward =>
      match behind.elim (some p) p.moveBack? with
      | none => if negated then onward p marks else .failed marks
      | some start =>
          let o := run within body start marks done
          if negated then
            match o.stop? with
            | some _ => .failed o.marks
            | none => onward p (marks.takeBack within o.marks)
          else o.onward fun _ now => onward p now
  | _, .sameAs number fold ascii, p, marks, onward =>
      match marks.span? number with
      | some (start, stop) =>
          match takeSame (sameChar fold ascii) (p.between start stop) p with
          | some q => onward q marks
          | none => .failed marks
      | none => .failed marks
  | within, .ifGroup number yes no, p, marks, onward =>
      if (marks.span? number).isSome then run within yes p marks onward
      else run within no p marks onward

def runAll : (within : Bool) → List Regex → Matcher
  | _, [], p, marks, onward => onward p marks
  | within, part :: parts, p, marks, onward =>
      run within part p marks fun q now => runAll within parts q now onward

/-- Goes on with the first alternative that leads to the end. -/
def runFirst : (within : Bool) → List Regex → Place → (saved now : Marks) →
    (Place → Marks → Outcome) → Outcome
  | _, [], _, _, now, _ => .failed now
  | within, alternative :: alternatives, p, saved, now, onward =>
      (run within alternative p now onward).orTry fun left =>
        runFirst within alternatives p saved (saved.takeBack within left) onward

end

theorem takeSame_eq {cs : List Char} {before rest : List Char} {n : Nat} :
    takeSame (fun c d => c = d) cs ⟨n, before, cs ++ rest⟩ =
      some ⟨n + cs.length, cs.reverse ++ before, rest⟩ := by
  induction cs generalizing n before with
  | nil => simp [takeSame]
  | cons c cs ih => simp [takeSame, Place.next?, ih]; omega

theorem mem_stretch_after {test : Test} {bound : Nat} {p q : Place}
    (h : q ∈ stretch test bound p) : q.after.length ≤ p.after.length := by
  induction bound generalizing p with
  | zero => simp [stretch] at h; simp [h]
  | succ bound ih =>
      simp only [stretch] at h
      split at h
      · rename_i c r hr
        have hlen : r.after.length ≤ p.after.length := by
          unfold Place.next? at hr
          split at hr
          · simp at hr
          · rename_i cs hcs
            simp only [Option.some.injEq, Prod.mk.injEq] at hr
            obtain ⟨_, rfl⟩ := hr
            simp [hcs]
        split at h
        · rcases List.mem_cons.1 h with rfl | h
          · exact Nat.le_refl _
          · exact Nat.le_trans (ih h) hlen
        · simp at h; simp [h]
      · simp at h; simp [h]

end Dialogue.Regex
