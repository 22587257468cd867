import Dialogue.Text.Blank
import Dialogue.Text.Digit
import Mathlib.Data.List.Infix
/-!
Blanks around a text. They go when it is stripped, and all else stays.
-/
namespace Dialogue.Text

def Blank (cs : List Char) : Prop := ∀ c ∈ cs, isBlank c = true

/-- The text has no blanks at its two ends. -/
structure Trimmed (cs : List Char) : Prop where
  head : ∀ c ∈ cs.head?, isBlank c = false
  last : ∀ c ∈ cs.getLast?, isBlank c = false

variable {cs lead trail : List Char} {c : Char}

theorem blank_nil : Blank [] := nofun

theorem Trimmed.reverse (h : Trimmed cs) : Trimmed cs.reverse :=
  ⟨by simpa using h.last, by simpa using h.head⟩

theorem trimmed_of_not_blank (h : ∀ c ∈ cs, isBlank c = false) : Trimmed cs :=
  ⟨fun c hc => h c (List.mem_of_mem_head? hc), fun c hc => h c (List.mem_of_mem_getLast? hc)⟩

/-- A text that stands between two others is trimmed if they are. -/
theorem trimmed_append {middle : List Char} (hlead : Trimmed lead) (hne : lead ≠ [])
    (htrail : Trimmed trail) (hne' : trail ≠ []) : Trimmed (lead ++ (middle ++ trail)) := by
  obtain ⟨c, cs, rfl⟩ := List.exists_cons_of_ne_nil hne
  refine ⟨hlead.head, fun d hd => htrail.last d ?_⟩
  rwa [List.getLast?_append_of_ne_nil _ (by simp [hne']), List.getLast?_append_of_ne_nil _ hne'] at hd

section Dropping

variable {p : Char → Bool}

theorem dropWhile_eq_self (h : ∀ c ∈ cs.head?, p c = false) : cs.dropWhile p = cs := by
  cases cs with
  | nil => rfl
  | cons c cs => rw [List.dropWhile_cons, h c rfl, if_neg Bool.false_ne_true]

theorem dropWhile_append_eq (hlead : ∀ c ∈ lead, p c = true) (h : ∀ c ∈ cs.head?, p c = false) :
    (lead ++ cs).dropWhile p = cs := by
  rw [List.dropWhile_append_of_pos hlead, dropWhile_eq_self h]

end Dropping

theorem stripLeft_append (hlead : Blank lead) (h : ∀ c ∈ cs.head?, isBlank c = false) :
    stripLeft (lead ++ cs) = cs := dropWhile_append_eq hlead h

theorem stripRight_append (htrail : Blank trail) (h : ∀ c ∈ cs.getLast?, isBlank c = false) :
    stripRight (cs ++ trail) = cs := by
  have htrail : ∀ c ∈ trail.reverse, isBlank c = true := fun c hc => htrail c (List.mem_reverse.1 hc)
  rw [stripRight, List.reverse_append, dropWhile_append_eq htrail (by simpa using h),
    List.reverse_reverse]

theorem strip_append (hlead : Blank lead) (htrail : Blank trail) (h : Trimmed cs) :
    strip (lead ++ (cs ++ trail)) = cs := by
  cases cs with
  | nil =>
      have hall : Blank (lead ++ trail) := fun c hc =>
        (List.mem_append.1 hc).elim (hlead c) (htrail c)
      have hgone : stripLeft (lead ++ trail ++ []) = [] := stripLeft_append hall nofun
      rw [List.append_nil] at hgone
      rw [List.nil_append, strip, hgone]
      rfl
  | cons c cs =>
      rw [strip, stripLeft_append hlead (by simpa using h.head), stripRight_append htrail h.last]

theorem strip_eq_self (h : Trimmed cs) : strip cs = cs := by
  simpa using strip_append blank_nil blank_nil h

theorem head_dropWhile {p : Char → Bool} (hc : c ∈ (cs.dropWhile p).head?) : p c = false := by
  have hnot := List.head?_dropWhile_not p cs
  rw [Option.mem_def.1 hc] at hnot
  exact hnot

theorem trimmed_strip (cs : List Char) : Trimmed (strip cs) := by
  refine ⟨fun c hc => ?_, fun c hc => ?_⟩
  · -- what is dropped from the right end leaves the front as it is
    obtain ⟨dropped, hdropped⟩ : stripRight (stripLeft cs) <+: stripLeft cs := by
      rw [stripRight, ← List.reverse_suffix, List.reverse_reverse]
      exact List.dropWhile_suffix isBlank
    have hfirst : c ∈ (stripLeft cs).head? := by
      rw [← hdropped, Option.mem_def, List.head?_append, ← strip, Option.mem_def.1 hc]
      rfl
    exact head_dropWhile hfirst
  · rw [strip, stripRight, List.getLast?_reverse] at hc
    exact head_dropWhile hc

theorem blank_takeWhile (cs : List Char) : Blank (cs.takeWhile isBlank) := fun c hc =>
  List.all_eq_true.1 List.all_takeWhile c hc

theorem exists_stripLeft (cs : List Char) : ∃ lead, Blank lead ∧ cs = lead ++ stripLeft cs :=
  ⟨cs.takeWhile isBlank, blank_takeWhile cs, List.takeWhile_append_dropWhile.symm⟩

theorem exists_stripRight (cs : List Char) : ∃ trail, Blank trail ∧ cs = stripRight cs ++ trail := by
  refine ⟨(cs.reverse.takeWhile isBlank).reverse,
    fun c hc => blank_takeWhile cs.reverse c (List.mem_reverse.1 hc), ?_⟩
  rw [stripRight, ← List.reverse_append, List.takeWhile_append_dropWhile, List.reverse_reverse]

/-- A text is what is left of it between blanks. -/
theorem exists_strip (cs : List Char) :
    ∃ lead trail, cs = lead ++ (strip cs ++ trail) ∧ Blank lead ∧ Blank trail := by
  obtain ⟨lead, hlead, hcs⟩ := exists_stripLeft cs
  obtain ⟨trail, htrail, hrest⟩ := exists_stripRight (stripLeft cs)
  exact ⟨lead, trail, hcs.trans (congrArg (lead ++ ·) hrest), hlead, htrail⟩

theorem infix_strip (cs : List Char) : strip cs <:+: cs := by
  obtain ⟨lead, trail, hcs, -, -⟩ := exists_strip cs
  exact ⟨lead, trail, (List.append_assoc ..).trans hcs.symm⟩

theorem bareNumber_eq_self (h : Trimmed cs) : bareNumber cs = cs := by
  have hnot {c : Char} (hc : isBlank c = false) : surroundsNumbers c = false := by
    rw [surroundsNumbers, hc, Bool.false_and]
  rw [bareNumber, dropWhile_eq_self fun c hc => hnot (h.head c hc),
    dropWhile_eq_self fun c hc => hnot (h.reverse.head c hc), List.reverse_reverse]

/-- Digits are no blanks: their intervals of code points are apart. -/
theorem isBlank_of_isDecimal (h : isDecimal c = true) : isBlank c = false := by
  rw [Bool.eq_false_iff]
  intro hblank
  obtain ⟨range, hrange, hlow, hhigh⟩ := Ranges.has_iff.1 hblank
  have hascii : ∀ range ∈ blankRanges, range.2 < 0x30 ∨ 0x3a ≤ range.1 := by decide
  have hothers : ∀ base ∈ zeros, ∀ range ∈ blankRanges,
      range.2 < base ∨ base + 10 ≤ range.1 := by decide
  unfold isDecimal digit? at h
  split at h
  · split at h
    · rename_i hdigit
      simp only [Bool.and_eq_true, decide_eq_true_eq] at hdigit
      have := hascii range hrange
      omega
    · cases h
  · rw [Option.isSome_map] at h
    obtain ⟨base, hbase⟩ := Option.isSome_iff_exists.1 h
    have hmem := List.mem_of_find?_eq_some hbase
    have hfound := List.find?_some hbase
    simp only [Bool.and_eq_true, decide_eq_true_eq] at hfound
    have := hothers base hmem range hrange
    omega

end Dialogue.Text
