import Dialogue.Proofs.Program
import Dialogue.Validation
/-!
Rules that do not ask for the day it is. What they accept they accept every day and in every
language.
-/
namespace Dialogue.Rule

/-- The rule does not compare with today. -/
def IsUndated (rule : Value) : Prop :=
  rule.field "type" ≠ .ok (some (.text "today after")) ∧
    rule.field "type" ≠ .ok (some (.text "today before"))

variable {one other : Setting} {value rule override : Value} {answer : List Char}

theorem accepted_checkPattern {pattern : Value}
    (h : checkPattern one override pattern answer = .ok .accepted) :
    checkPattern other override pattern answer = .ok .accepted := by
  unfold checkPattern at h ⊢
  split at h
  · split at h
    · split at h
      · rename_i hfound
        rw [if_pos hfound]
      · cases h
    · cases h
    · cases h
    · cases h
    · cases h
  · cases h

theorem accepted_checkRange {first last : Value}
    (h : checkRange one override first last answer = .ok .accepted) :
    checkRange other override first last answer = .ok .accepted := by
  obtain ⟨start, hstart, h⟩ := exists_of_bind_ok h
  obtain ⟨stop, hstop, h⟩ := exists_of_bind_ok h
  simp only [checkRange, hstart, hstop, bind, Except.bind]
  split at h
  · split at h
    · rename_i hinside
      rw [if_pos hinside]
      rfl
    · obtain ⟨text, -, h⟩ := exists_of_bind_ok h
      cases h
  · cases h

theorem accepted_checkCustom (h : checkCustom one rule override answer = .ok .accepted) :
    checkCustom other rule override answer = .ok .accepted := by
  obtain ⟨pattern, hpattern, h⟩ := exists_of_bind_ok h
  obtain ⟨first, hfirst, h⟩ := exists_of_bind_ok h
  obtain ⟨last, hlast, h⟩ := exists_of_bind_ok h
  simp only [checkCustom, hpattern, hfirst, hlast, bind, Except.bind]
  simp only at h
  split at h
  · rename_i hp
    rw [if_pos hp]
    exact accepted_checkPattern h
  · rename_i hp
    rw [if_neg hp]
    split at h
    · rename_i hr
      rw [if_pos hr]
      exact accepted_checkRange h
    · rename_i hr
      rw [if_neg hr]
      rfl

theorem accepted_check (hrule : IsUndated rule) (h : check one value rule = .ok .accepted) :
    check other value rule = .ok .accepted := by
  unfold check at h ⊢
  split at h
  · rename_i hnone
    rw [if_pos hnone]
    rfl
  · rename_i hsome
    rw [if_neg hsome]
    obtain ⟨text, htext, h⟩ := exists_of_bind_ok h
    obtain ⟨kind, hkind, h⟩ := exists_of_bind_ok h
    obtain ⟨own, hown, h⟩ := exists_of_bind_ok h
    simp only [htext, hkind, hown, bind, Except.bind]
    have hnamed {day : String} (hday : rule.field "type" ≠ .ok (some (.text day))) :
        kind.getD .null ≠ .text day := by
      cases kind with
      | none => exact nofun
      | some v => exact fun heq => hday (hkind.trans (congrArg _ (congrArg _ heq)))
    split at h
    · simp only at h
      split at h
      · rename_i hmatch
        rw [if_pos hmatch]
        rfl
      · cases h
    · simp only at h
      split at h
      · rename_i hmatch
        rw [if_pos hmatch]
        rfl
      · cases h
    · exact accepted_checkCustom h
    · rename_i hafter
      exact absurd hafter (hnamed hrule.1)
    · rename_i hbefore
      exact absurd hbefore (hnamed hrule.2)
    · rfl

end Dialogue.Rule
