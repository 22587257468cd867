import Dialogue.Proofs.Json.Written
import Dialogue.Proofs.Text.Blank
import Dialogue.Slot.Extraction
import Mathlib.Data.List.Forall2
/-!
The reply and the slots of a completion, and what may be written around them.
-/
namespace Dialogue.Slot

open Dialogue.Text

variable {body output cs tag gap : List Char}

/-- The name of the language of a fence, in any letter case, or nothing. -/
def IsTag (tag : List Char) : Prop :=
  tag = [] ∨ List.Forall₂ (fun letter c => c ∈ caseVariants letter) "json".toList tag

inductive Opening : List Char → Prop where
  | none : Opening []
  | fence {tag gap : List Char} (tagged : IsTag tag) (blank : Blank gap) :
      Opening (Slot.fence ++ (tag ++ gap))

inductive Closing : List Char → Prop where
  | none : Closing []
  | fence {gap : List Char} (blank : Blank gap) : Closing (gap ++ Slot.fence)

/-- The output is the body between blanks, with an opening and a closing fence around it. Either
fence may be missing. -/
def Wraps (body output : List Char) : Prop :=
  ∃ lead opening closing trail, Blank lead ∧ Opening opening ∧ Closing closing ∧ Blank trail ∧
    output = lead ++ (opening ++ (body ++ (closing ++ trail)))

section Dropping

theorem dropWord_tag {word : List Char}
    (h : List.Forall₂ (fun letter c => c ∈ caseVariants letter) word tag) (cs : List Char) :
    dropWord word (tag ++ cs) = cs := by
  have hlength := h.length_eq
  have htake : (tag ++ cs).take word.length = tag := by rw [hlength, List.take_left]
  unfold dropWord
  simp only [htake]
  refine (if_pos (Bool.and_eq_true_iff.2 ⟨decide_eq_true hlength.symm,
    List.all_eq_true.2 fun pair hpair => ?_⟩)).trans (by rw [hlength, List.drop_left])
  exact List.elem_eq_true_of_mem ((List.forall₂_iff_zip.1 h).2 hpair)

/-- What is dropped is the word in some letter case, or nothing. -/
theorem exists_dropWord (word cs : List Char) :
    ∃ tag, (tag = [] ∨ List.Forall₂ (fun letter c => c ∈ caseVariants letter) word tag) ∧
      cs = tag ++ dropWord word cs := by
  unfold dropWord
  simp only
  split
  · rename_i h
    simp only [Bool.and_eq_true, decide_eq_true_eq] at h
    refine ⟨cs.take word.length, .inr (List.forall₂_iff_zip.2 ⟨h.1.symm, fun {a b} hmem => ?_⟩),
      (List.take_append_drop _ _).symm⟩
    exact List.mem_of_elem_eq_true (List.all_eq_true.1 h.2 (a, b) hmem)
  · exact ⟨[], .inl rfl, rfl⟩

theorem dropWord_of_head {c : Char} {word : List Char} (hc : c ∈ word.head?)
    (h : ∀ d ∈ cs.head?, d ∉ caseVariants c) : dropWord word cs = cs := by
  obtain ⟨word, rfl⟩ := List.head?_eq_some_iff.1 hc
  rw [dropWord]
  simp only
  refine if_neg fun hmatch => ?_
  cases cs with
  | nil => simp at hmatch
  | cons d cs =>
      simp only [Bool.and_eq_true] at hmatch
      exact h d rfl (List.mem_of_elem_eq_true (List.all_eq_true.1 hmatch.2 (c, d) (by simp)))

theorem caseVariants_j : caseVariants 'j' = ['j', 'J'] := by decide +kernel

/-- The bodies that are of interest here begin and end with a brace. -/
structure Braced (body : List Char) : Prop where
  head : body.head? = some '\x7b'
  last : body.getLast? = some '\x7d'

theorem Braced.ne_nil (h : Braced body) : body ≠ [] := by
  rintro rfl
  cases h.head

theorem Braced.trimmed (h : Braced body) : Trimmed body where
  head c hc := by
    cases h.head.symm.trans hc
    decide
  last c hc := by
    cases h.last.symm.trans hc
    decide

theorem Braced.head_append (h : Braced body) (cs : List Char) :
    (body ++ cs).head? = some '\x7b' := by
  rw [List.head?_append, h.head]
  rfl

theorem Opening.head_append {opening : List Char} (h : Opening opening) (cs : List Char) {c : Char}
    (hc : c ∈ (opening ++ cs).head?) : c ∈ cs.head? ∨ c = '`' := by
  cases h with
  | none => exact .inl hc
  | fence tagged blank =>
      cases hc
      exact .inr rfl

theorem Closing.last_append {closing : List Char} (h : Closing closing) (cs : List Char) {c : Char}
    (hc : c ∈ (cs ++ closing).getLast?) : c ∈ cs.getLast? ∨ c = '`' := by
  cases h with
  | none => exact .inl (by rwa [List.append_nil] at hc)
  | fence blank =>
      rw [← List.append_assoc, List.getLast?_append_of_ne_nil _ (by decide)] at hc
      cases hc
      exact .inr rfl

/-- A language is dropped with its fence, and a body is taken for none. -/
theorem dropWord_json (htag : IsTag tag) (hgap : Blank gap) (hhead : cs.head? = some '\x7b') :
    dropWord "json".toList (tag ++ (gap ++ cs)) = gap ++ cs := by
  have hletter : ∀ c ∈ caseVariants 'j', isBlank c = false ∧ c ≠ '\x7b' := by
    rw [caseVariants_j]
    exact List.forall_mem_cons.2 ⟨by decide, List.forall_mem_singleton.2 (by decide)⟩
  rcases htag with rfl | htag
  · refine dropWord_of_head (c := 'j') rfl fun d hd hmem => ?_
    obtain ⟨hnot, hne⟩ := hletter d hmem
    cases gap with
    | nil => exact hne (Option.some.inj (hd.symm.trans hhead))
    | cons c gap =>
        cases hd
        exact absurd (hgap d (.head _)) (Bool.eq_false_iff.1 hnot)
  · exact dropWord_tag htag _

theorem dropOpeningFence_append {opening : List Char} (hopening : Opening opening)
    (hbody : Braced body) (cs : List Char) :
    dropOpeningFence (opening ++ (body ++ cs)) = body ++ cs := by
  have hhead := hbody.head_append cs
  have hblank : ∀ c ∈ (body ++ cs).head?, isBlank c = false := fun c hc => by
    cases hhead.symm.trans hc
    decide
  cases hopening with
  | none =>
      refine if_neg fun hfence => ?_
      obtain ⟨rest, hrest⟩ := List.isPrefixOf_iff_prefix.1 hfence
      have hfirst : (fence ++ rest).head? = some '\x7b' := by rw [hrest, List.nil_append, hhead]
      cases hfirst
  | @fence tag gap tagged blank =>
      have hfence : fence.isPrefixOf (fence ++ (tag ++ gap) ++ (body ++ cs)) = true := by
        rw [List.isPrefixOf_iff_prefix, List.append_assoc]
        exact List.prefix_append _ _
      rw [dropOpeningFence, if_pos hfence, List.append_assoc, List.append_assoc]
      exact (congrArg stripLeft (dropWord_json tagged blank hhead)).trans
        (stripLeft_append blank hblank)

theorem dropClosingFence_append {closing : List Char} (hclosing : Closing closing)
    (hbody : Braced body) : dropClosingFence (body ++ closing) = body := by
  cases hclosing with
  | none =>
      rw [List.append_nil]
      refine if_neg fun hfence => ?_
      obtain ⟨rest, hrest⟩ := List.isSuffixOf_iff_suffix.1 hfence
      have hlast := hbody.last
      rw [← hrest, List.getLast?_append_of_ne_nil _ (by decide)] at hlast
      cases hlast
  | @fence gap blank =>
      have hfence : fence.isSuffixOf (body ++ (gap ++ fence)) = true := by
        rw [List.isSuffixOf_iff_suffix, ← List.append_assoc]
        exact List.suffix_append _ _
      have hlength : (body ++ (gap ++ fence)).length - 3 = (body ++ gap).length := by
        simp [fence]
        omega
      rw [dropClosingFence, if_pos hfence, hlength, ← List.append_assoc, List.take_left]
      exact stripRight_append blank hbody.trimmed.last

theorem exists_dropOpeningFence (cs : List Char) :
    ∃ opening, Opening opening ∧ cs = opening ++ dropOpeningFence cs := by
  unfold dropOpeningFence
  split
  · rename_i hfence
    obtain ⟨rest, rfl⟩ := List.isPrefixOf_iff_prefix.1 hfence
    obtain ⟨tag, htag, hrest⟩ := exists_dropWord "json".toList rest
    obtain ⟨gap, hgap, hopened⟩ := exists_stripLeft (dropWord "json".toList rest)
    have hdrop : (fence ++ rest).drop 3 = rest := rfl
    refine ⟨fence ++ (tag ++ gap), .fence htag hgap, ?_⟩
    rw [hdrop, List.append_assoc, List.append_assoc, ← hopened, ← hrest]
  · exact ⟨[], .none, rfl⟩

theorem exists_dropClosingFence (cs : List Char) :
    ∃ closing, Closing closing ∧ cs = dropClosingFence cs ++ closing := by
  unfold dropClosingFence
  split
  · rename_i hfence
    obtain ⟨front, rfl⟩ := List.isSuffixOf_iff_suffix.1 hfence
    obtain ⟨gap, hgap, hfront⟩ := exists_stripRight front
    have htake : (front ++ fence).take ((front ++ fence).length - 3) = front := by
      simp [fence]
    refine ⟨gap ++ fence, .fence hgap, ?_⟩
    rw [htake, ← List.append_assoc, ← hfront]
  · exact ⟨[], .none, (List.append_nil _).symm⟩

end Dropping

section Unwrapping

theorem unfence_of_wraps (h : Wraps body output) (hbody : Braced body) : unfence output = body := by
  obtain ⟨lead, opening, closing, trail, hlead, hopening, hclosing, htrail, rfl⟩ := h
  have htrimmed : Trimmed (opening ++ (body ++ closing)) := by
    refine ⟨fun c hc => ?_, fun c hc => ?_⟩
    · rcases hopening.head_append _ hc with hc | rfl
      · cases (hbody.head_append closing).symm.trans hc
        decide
      · decide
    · rw [← List.append_assoc] at hc
      rcases hclosing.last_append _ hc with hc | rfl
      · rw [List.getLast?_append_of_ne_nil _ hbody.ne_nil] at hc
        exact hbody.trimmed.last c hc
      · decide
  have hstrip : strip (lead ++ (opening ++ (body ++ (closing ++ trail)))) =
      opening ++ (body ++ closing) := by
    have hassoc : opening ++ (body ++ (closing ++ trail)) =
        opening ++ (body ++ closing) ++ trail := by simp
    rw [hassoc, strip_append hlead htrail htrimmed]
  rw [unfence, hstrip, dropOpeningFence_append hopening hbody,
    dropClosingFence_append hclosing hbody]

/-- Every output wraps what is left of it without blanks and fences. -/
theorem wraps_unfence (output : List Char) : Wraps (unfence output) output := by
  obtain ⟨lead, trail, houtput, hlead, htrail⟩ := exists_strip output
  obtain ⟨opening, hopening, hstrip⟩ := exists_dropOpeningFence (strip output)
  obtain ⟨closing, hclosing, hopened⟩ := exists_dropClosingFence (dropOpeningFence (strip output))
  refine ⟨lead, opening, closing, trail, hlead, hopening, hclosing, htrail, ?_⟩
  calc output
      = lead ++ (strip output ++ trail) := houtput
    _ = lead ++ (opening ++ dropOpeningFence (strip output) ++ trail) := by rw [← hstrip]
    _ = lead ++ (opening ++ (unfence output ++ closing) ++ trail) := by rw [unfence, ← hopened]
    _ = lead ++ (opening ++ (unfence output ++ (closing ++ trail))) := by simp

theorem braced_of_spells {fields : Mapping Value} (h : Json.Spells body (.object fields)) :
    Braced body := by
  cases h with
  | number hl hv =>
      unfold Json.Literal.value at hv
      split at hv
      · split at hv <;> cases hv
      · cases hv
  | emptyObject hgap => exact ⟨rfl, by simp [List.getLast?_cons]⟩
  | object hgap h => exact ⟨rfl, by simp [List.getLast?_cons]⟩

/-- An object with a reply and slots is found in whatever is written around it, and output that
writes nothing around an object is the reply as it is. -/
theorem extract_unwraps :
    (∀ body fields r slots, Json.Spells body (.object fields) →
      Mapping.get? fields "response" = some (.text r) →
      Mapping.get? fields "slots" = some (.object slots) →
      ∀ output : String, Wraps body output.toList → extract output = ⟨r, slots⟩) ∧
    ∀ output : String,
      (∀ body fields, Wraps body output.toList →
        Json.read (String.ofList body) ≠ .ok (.object fields)) →
      extract output = ⟨output, []⟩ := by
  constructor
  · intro body fields r slots hbody hresponse hslots output hwraps
    have hread : Json.read (String.ofList body) = .ok (.object fields) := by
      have hread : Json.read (String.ofList ([] ++ (body ++ []))) = .ok (.object fields) :=
        hbody.read_eq (List.forall_mem_nil _) (List.forall_mem_nil _)
      rwa [List.append_nil, List.nil_append] at hread
    delta extract
    rw [unfence_of_wraps hwraps (braced_of_spells hbody), hread]
    simp only [extractFields, hresponse, hslots]
  · intro output hnot
    have hread := hnot (unfence output.toList)
    delta extract
    split
    · rename_i fields hfields
      exact absurd hfields (hread fields (wraps_unfence output.toList))
    · rfl

end Unwrapping

namespace Sample

def answer : Mapping Value :=
  [("response", .text "Use ```"), ("slots", .object [("n", .int 2)])]

def answerText : List Char :=
  "\x7b\"response\": \"Use ```\", \"slots\": \x7b\"n\": 2\x7d\x7d".toList

theorem spells_answer : Json.Spells answerText (.object answer) := by
  have hslots : (Value.object [("n", .int 2)]).IsJson :=
    .object (by decide) (List.forall_mem_singleton.2 (.int (by decide +kernel)))
  have hanswer : (Value.object answer).IsJson :=
    .object (by decide) (List.forall_mem_cons.2 ⟨.text _, List.forall_mem_singleton.2 hslots⟩)
  obtain ⟨cs, hcs, hspells⟩ := Json.writeValue_spells Json.sound_spaced 0 _ hanswer
  have hwritten : Json.writeValue Json.spaced 0 (.object answer) = .ok answerText := by rfl
  cases hcs.symm.trans hwritten
  exact hspells

theorem isTag_JSON : IsTag "JSON".toList :=
  .inr (.cons (by decide +kernel) (.cons (by decide +kernel)
    (.cons (by decide +kernel) (.cons (by decide +kernel) .nil))))

end Sample

/-- The fence that stands in the reply stays there. -/
theorem fenced_answer_extracted :
    extract "```JSON\n\x7b\"response\": \"Use ```\", \"slots\": \x7b\"n\": 2\x7d\x7d\n``` " =
      ⟨"Use ```", [("n", .int 2)]⟩ := by
  have hline : Blank ['\n'] := List.forall_mem_singleton.2 (by decide)
  have hspace : Blank [' '] := List.forall_mem_singleton.2 (by decide)
  refine extract_unwraps.1 Sample.answerText Sample.answer _ _ Sample.spells_answer rfl rfl _ ?_
  exact ⟨[], _, _, [' '], blank_nil, .fence Sample.isTag_JSON hline, .fence hline, hspace,
    by decide +kernel⟩

end Dialogue.Slot
