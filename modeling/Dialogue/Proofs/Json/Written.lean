import Dialogue.Proofs.Json.Printed
import Dialogue.Proofs.Json.Spelling
import Dialogue.Proofs.Numeral
/-!
What is written is read as it was, if a text can hold it without loss.
-/
namespace Dialogue

/-- Values that a text holds without loss: floats are finite, integers are not too long, and the
keys of an object are all different. -/
inductive Value.IsJson : Value → Prop where
  | null : IsJson .null
  | bool (b : Bool) : IsJson (.bool b)
  | int {n : Int} (h : n.natAbs < 10 ^ Numeral.maxDigits) : IsJson (.int n)
  | float {x : Float} (h : x.isFinite = true) : IsJson (.float x)
  | text (s : String) : IsJson (.text s)
  | list {items : List Value} (h : ∀ v ∈ items, IsJson v) : IsJson (.list items)
  | object {fields : Mapping Value} (hkeys : (Mapping.keys fields).Nodup)
      (h : ∀ field ∈ fields, IsJson field.2) : IsJson (.object fields)

namespace Json

theorem isGap_nil : IsGap [] := by rintro c ⟨⟩

theorem isGap_append {gap next : List Char} (hgap : IsGap gap) (hnext : IsGap next) :
    IsGap (gap ++ next) := fun c hc =>
  (List.mem_append.1 hc).elim (hgap c) (hnext c)

/-- Besides its marks a style writes blanks only. -/
structure Style.Sound (style : Style) : Prop where
  comma : ∃ gap, IsGap gap ∧ style.comma = ',' :: gap
  colon : ∃ before after, IsGap before ∧ IsGap after ∧ style.colon = before ++ ':' :: after
  line (depth : Nat) : IsGap (style.line depth)

theorem sound_indented : indented.Sound where
  comma := ⟨[], isGap_nil, rfl⟩
  colon := ⟨[], [' '], isGap_nil, by simp [IsGap]; rfl, rfl⟩
  line depth := by
    intro c hc
    rcases List.mem_cons.1 hc with rfl | hc
    · rfl
    · rw [List.eq_of_mem_replicate hc]
      rfl

theorem sound_spaced : spaced.Sound where
  comma := ⟨[' '], by simp [IsGap]; rfl, rfl⟩
  colon := ⟨[], [' '], isGap_nil, by simp [IsGap]; rfl, rfl⟩
  line _ := isGap_nil

theorem Style.isGap_closing {α : Type} {style : Style} (h : style.Sound) (depth : Nat)
    (entries : List α) : IsGap (style.closing depth entries) := by
  unfold Style.closing
  split
  · exact isGap_nil
  · exact h.line depth

section

variable {style : Style} (h : style.Sound)
include h

mutual

theorem writeValue_spells (depth : Nat) : (v : Value) → v.IsJson →
    ∃ cs, writeValue style depth v = .ok cs ∧ Spells cs v
  | .null, _ => ⟨_, rfl, .null⟩
  | .bool b, _ => ⟨_, rfl, .bool b⟩
  | .int n, hv => by
      cases hv with
      | int hn =>
          obtain ⟨s, hs⟩ := Numeral.exists_print hn
          obtain ⟨l, hl, hchars, hvalue⟩ := print_int hs
          refine ⟨s.toList, ?_, hchars ▸ .number hl hvalue⟩
          rw [writeValue, hs]
          rfl
  | .float x, hv => by
      cases hv with
      | float hx =>
          obtain ⟨l, hl, hchars, hvalue⟩ := print_float hx
          exact ⟨_, rfl, hchars ▸ .number hl hvalue⟩
  | .text s, _ => ⟨_, rfl, by simpa [quote] using Spells.text (quotes_escaped s.toList)⟩
  | .list items, hv => by
      cases hv with
      | list hitems =>
          rw [writeValue]
          by_cases hne : items = []
          · subst hne
            exact ⟨_, rfl, .emptyList isGap_nil⟩
          · obtain ⟨cs, hcs, hspells⟩ := writeItems_spells (depth + 1) items hne hitems
            rw [hcs]
            refine ⟨_, rfl, ?_⟩
            simpa using Spells.list (h.line _) (hspells _ (Style.isGap_closing h depth items))
  | .object fields, hv => by
      cases hv with
      | object hkeys hfields =>
          rw [writeValue]
          by_cases hne : fields = []
          · subst hne
            exact ⟨_, rfl, .emptyObject isGap_nil⟩
          · obtain ⟨cs, hcs, hspells⟩ := writeFields_spells (depth + 1) fields hne hfields
            rw [hcs]
            refine ⟨_, rfl, ?_⟩
            have hobject :=
              Spells.object (h.line (depth + 1)) (hspells _ (Style.isGap_closing h depth fields))
            rw [Mapping.ofEntries_of_nodup hkeys] at hobject
            simpa using hobject

/-- Each item stands on a line of its own; blanks may follow the last one. -/
theorem writeItems_spells (depth : Nat) : (items : List Value) → items ≠ [] →
    (∀ v ∈ items, v.IsJson) → ∃ cs, writeItems style depth items = .ok (style.line depth ++ cs) ∧
      ∀ gap, IsGap gap → SpellsItems (cs ++ gap) items
  | [], hne, _ => absurd rfl hne
  | [v], _, hitems => by
      obtain ⟨cs, hcs, hspells⟩ := writeValue_spells depth v (hitems v (by simp))
      refine ⟨cs, ?_, fun gap hgap => .last hspells hgap⟩
      rw [writeItems, hcs]
      rfl
  | v :: w :: vs, _, hitems => by
      obtain ⟨cs, hcs, hspells⟩ := writeValue_spells depth v (hitems v (by simp))
      obtain ⟨rest, hrest, hmore⟩ := writeItems_spells depth (w :: vs) (by simp)
        fun u hu => hitems u (List.mem_cons_of_mem v hu)
      obtain ⟨after, hafter, hcomma⟩ := h.comma
      refine ⟨cs ++ style.comma ++ (style.line depth ++ rest), ?_, fun gap hgap => ?_⟩
      · rw [writeItems, hcs, hrest]
        · simp [bind, Except.bind, pure, Except.pure]
        · simp
      · simpa [hcomma] using SpellsItems.more hspells isGap_nil
          (isGap_append hafter (h.line depth)) (hmore gap hgap)

theorem writeFields_spells (depth : Nat) : (fields : List (String × Value)) → fields ≠ [] →
    (∀ field ∈ fields, field.2.IsJson) →
    ∃ cs, writeFields style depth fields = .ok (style.line depth ++ cs) ∧
      ∀ gap, IsGap gap → SpellsFields (cs ++ gap) fields
  | [], hne, _ => absurd rfl hne
  | [(k, v)], _, hfields => by
      obtain ⟨cs, hcs, hspells⟩ := writeValue_spells depth v (hfields (k, v) (by simp))
      obtain ⟨before, after, hbefore, hafter, hcolon⟩ := h.colon
      refine ⟨quote k ++ style.colon ++ cs, ?_, fun gap hgap => ?_⟩
      · rw [writeFields, hcs]
        simp [bind, Except.bind, pure, Except.pure]
      · simpa [hcolon, quote] using
          SpellsFields.last (quotes_escaped k.toList) hbefore hafter hspells hgap
  | (k, v) :: entry :: rest, _, hfields => by
      obtain ⟨cs, hcs, hspells⟩ := writeValue_spells depth v (hfields (k, v) (by simp))
      obtain ⟨more, hmore, hrest⟩ := writeFields_spells depth (entry :: rest) (by simp)
        fun field hfield => hfields field (List.mem_cons_of_mem _ hfield)
      obtain ⟨before, after, hbefore, hafter, hcolon⟩ := h.colon
      obtain ⟨next, hnext, hcomma⟩ := h.comma
      refine ⟨quote k ++ style.colon ++ cs ++ style.comma ++ (style.line depth ++ more), ?_,
        fun gap hgap => ?_⟩
      · rw [writeFields, hcs, hmore]
        · simp [bind, Except.bind, pure, Except.pure]
        · simp
      · simpa [hcolon, hcomma, quote] using
          SpellsFields.more (quotes_escaped k.toList) hbefore hafter hspells isGap_nil
            (isGap_append hnext (h.line depth)) (hrest gap hgap)

end

/-- A value is written, and read back as it was. -/
theorem read_write {v : Value} (hv : v.IsJson) :
    ∃ s, write style v = .ok s ∧ read s = .ok v := by
  obtain ⟨cs, hcs, hspells⟩ := writeValue_spells h 0 v hv
  refine ⟨String.ofList cs, ?_, by simpa using hspells.read_eq isGap_nil isGap_nil⟩
  rw [write, hcs]
  rfl

end

end Json

end Dialogue
