import Dialogue.Proofs.Scenario.Graph
import Dialogue.Proofs.Text
/-!
The rule by which an edge is chosen, apart from how it is looked for. The authored conditions of a
node come first: of those that apply and name an edge the first one decides. Then comes the handle
that is given, which never gives way to a default, and without one the default edge. Where the
conditions can be read, the edge out of a node is the one that this rule chooses.
-/
namespace Dialogue

open Dialogue.Text

/-- The first item of a list that has a property. -/
def IsFirst {α : Type} (p : α → Prop) (items : List α) (a : α) : Prop :=
  ∃ before after, items = before ++ a :: after ∧ p a ∧ ∀ b ∈ before, ¬ p b

section First

variable {α : Type} {p : α → Prop} {items : List α} {a b : α}

theorem not_isFirst_nil : ¬ IsFirst p [] a := by
  rintro ⟨before, after, h, -⟩
  simp at h

theorem isFirst_cons : IsFirst p (a :: items) b ↔ (p a ∧ b = a) ∨ (¬ p a ∧ IsFirst p items b) := by
  constructor
  · rintro ⟨before, after, h, hb, hbefore⟩
    cases before with
    | nil =>
        cases h
        exact .inl ⟨hb, rfl⟩
    | cons c before =>
        cases h
        exact .inr
          ⟨hbefore a (by simp), before, after, rfl, hb, fun d hd => hbefore d (by simp [hd])⟩
  · rintro (⟨ha, rfl⟩ | ⟨ha, before, after, rfl, hb, hbefore⟩)
    · exact ⟨[], items, rfl, ha, by simp⟩
    · refine ⟨a :: before, after, rfl, hb, fun d hd => ?_⟩
      rcases List.mem_cons.1 hd with rfl | hd
      · exact ha
      · exact hbefore d hd

theorem find?_eq_some_iff_isFirst {test : α → Bool} :
    items.find? test = some a ↔ IsFirst (test · = true) items a := by
  rw [List.find?_eq_some_iff_append]
  constructor
  · rintro ⟨ha, before, after, rfl, hbefore⟩
    exact ⟨before, after, rfl, ha, fun b hb => by simpa using hbefore b hb⟩
  · rintro ⟨before, after, rfl, ha, hbefore⟩
    exact ⟨ha, before, after, rfl, fun b hb => by simpa using hbefore b hb⟩

theorem IsFirst.mem (h : IsFirst p items a) : a ∈ items := by
  obtain ⟨before, after, rfl, -⟩ := h
  simp

theorem IsFirst.holds (h : IsFirst p items a) : p a := by
  obtain ⟨before, after, -, ha, -⟩ := h
  exact ha

end First

namespace Text

theorem lower_eq_nil_iff {text : List Char} : lower text = [] ↔ text = [] := by
  cases text with
  | nil => simp [lower, lowerFrom]
  | cons c text =>
      simp only [lower, lowerFrom, reduceCtorEq, iff_false]
      split_ifs <;> simp

end Text

/-- The objects in a list. -/
def Value.objects : Value → List (Mapping Value)
  | .list items => items.filterMap fun
      | .object fields => some fields
      | _ => none
  | _ => []

/-- The value says no, or it is a list of objects. -/
def Value.ListsObjects (v : Value) : Prop := v.truthy = true → v = .list (v.objects.map .object)

/-- The label of an edge as an authored value; an edge without a handle has null for one. -/
def Edge.label (edge : Edge) : Value := .ofText? edge.handle

namespace Value

variable {v : Value}

theorem objects_of_not_truthy (h : v.truthy = false) : v.objects = [] := by
  cases v with
  | list items =>
      cases items with
      | nil => rfl
      | cons item items => simp [truthy] at h
  | _ => rfl

theorem objects_map (items : List (Mapping Value)) :
    (Value.list (items.map .object)).objects = items := by
  simp [objects, List.filterMap_map]

theorem ListsObjects.elements (hlists : v.ListsObjects) (h : v.truthy = true) :
    v.elements = .ok (v.objects.map .object) := by
  conv_lhs => rw [hlists h]
  rfl

end Value

namespace Scenario

def entry (fields : Mapping Value) (name : String) : Value := (Mapping.get? fields name).getD .null

/-- The output slot of an llm node holds a value with this text. -/
def Says (node : Node) (slots : Slots) (text : String) : Prop :=
  ∃ name v, node.get "outputVar" = .text name ∧ name ≠ "" ∧ Mapping.get? slots name = some v ∧
    v.toText = .ok text

/-- The keyword of a condition occurs in the output, both in lower case. -/
def Mentioned (node : Node) (slots : Slots) (condition : Mapping Value) : Prop :=
  ∃ output keyword, Says node slots output ∧ (entry condition "keyword").toText = .ok keyword ∧
    keyword ≠ "" ∧ lower keyword.toList <:+: lower output.toList

/-- The value of the reply beside a condition, else the handle of the condition, else its id. -/
def handleAt (node : Node) (condition : Mapping Value × Nat) : Value :=
  let reply := (node.get "replies").objects[condition.2]?.elim .null (entry · "value")
  reply.orElse ((entry condition.1 "handle").orElse (entry condition.1 "id"))

/-- The first condition that applies and whose label is that of an edge, and the first edge with
this label. -/
def Selects {γ : Type} (applies : γ → Prop) (label : γ → Value) (conditions : List γ)
    (edges : List Edge) (edge : Edge) : Prop :=
  ∃ condition, IsFirst (fun c => applies c ∧ ∃ e ∈ edges, e.label = label c) conditions condition ∧
    IsFirst (·.label = label condition) edges edge

/-- The edge that the authored conditions of a node select. -/
inductive Authored (scenario : Scenario) (node : Node) (slots : Slots) (edge : Edge) : Prop where
  | keyword (kind : node.kind? = some .llm)
      (selects : Selects (Mentioned node slots) (entry · "id") (node.get "conditions").objects
        (scenario.outgoing node.id) edge)
  | condition (kind : node.isConditionBranch = true)
      (selects : Selects (fun c => Condition.holdsIn (.object c.1) (.object slots) = .ok true)
        (handleAt node) (node.get "conditions").objects.zipIdx (scenario.outgoing node.id) edge)

/-- The edge for the handle that is given, or the default edge where none is given. -/
inductive Offered (node : Node) (edges : List Edge) (handle : Option String) :
    Option Edge → Prop where
  | named {name : String} {edge : Edge} (given : handle = some name) (filled : name ≠ "")
      (first : IsFirst (·.handle = some name) edges edge) : Offered node edges handle (some edge)
  | unknown {name : String} (given : handle = some name) (filled : name ≠ "")
      (missing : ∀ edge ∈ edges, edge.handle ≠ some name) : Offered node edges handle none
  | default {edge : Edge} (ungiven : handle.getD "" = "") (kind : node.isConditionBranch = true)
      (first : IsFirst (·.handle = some "default") edges edge) :
      Offered node edges handle (some edge)
  | plain {edge : Edge} (ungiven : handle.getD "" = "")
      (missing : node.isConditionBranch = true → ∀ edge ∈ edges, edge.handle ≠ some "default")
      (first : IsFirst (·.handle.getD "" = "") edges edge) : Offered node edges handle (some edge)
  | nowhere (ungiven : handle.getD "" = "")
      (missing : node.isConditionBranch = true → ∀ edge ∈ edges, edge.handle ≠ some "default")
      (handled : ∀ edge ∈ edges, edge.handle.getD "" ≠ "") : Offered node edges handle none

/-- The edge out of a node, if one is chosen. -/
inductive Chosen (scenario : Scenario) (node : Node) (handle : Option String) (slots : Slots) :
    Option Edge → Prop where
  | authored {edge : Edge} (selected : Authored scenario node slots edge) :
      Chosen scenario node handle slots (some edge)
  | offered {chosen : Option Edge} (missing : ∀ edge, ¬ Authored scenario node slots edge)
      (offer : Offered node (scenario.outgoing node.id) handle chosen) :
      Chosen scenario node handle slots chosen

/-- The conditions of a node are objects that can be read under the slots. -/
structure Readable (node : Node) (slots : Slots) : Prop where
  conditions : node.kind? = some .llm ∨ node.isConditionBranch = true →
    (node.get "conditions").ListsObjects
  output : node.kind? = some .llm → (node.get "outputVar").truthy = true →
    ∃ v text, slotAt slots (node.get "outputVar") = .ok v ∧ v.toText = .ok text
  keywords : node.kind? = some .llm → ∀ condition ∈ (node.get "conditions").objects,
    ∃ keyword, (entry condition "keyword").toText = .ok keyword
  holds : node.isConditionBranch = true → ∀ condition ∈ (node.get "conditions").objects,
    ∃ b, Condition.holdsIn (.object condition) (.object slots) = .ok b
  replies : node.isConditionBranch = true → (node.get "replies").ListsObjects

section Labels

variable {edges : List Edge} {edge : Edge} {handle : Value}

theorem matchesHandle_iff : matchesHandle handle edge = true ↔ edge.label = handle := by
  unfold matchesHandle Edge.label
  cases handle <;> cases edge.handle <;> simp [Value.ofText?, eq_comm]

theorem edgeFor?_eq_some_iff :
    edgeFor? edges handle = some edge ↔ IsFirst (·.label = handle) edges edge := by
  simp only [edgeFor?, find?_eq_some_iff_isFirst, matchesHandle_iff]

theorem edgeFor?_eq_none_iff :
    edgeFor? edges handle = none ↔ ∀ edge ∈ edges, edge.label ≠ handle := by
  simp only [edgeFor?, List.find?_eq_none, matchesHandle_iff]

theorem plainEdge?_eq_some_iff :
    plainEdge? edges = some edge ↔ IsFirst (·.handle.getD "" = "") edges edge := by
  simp only [plainEdge?, find?_eq_some_iff_isFirst, Edge.isPlain, decide_eq_true_eq]

theorem plainEdge?_eq_none_iff :
    plainEdge? edges = none ↔ ∀ edge ∈ edges, edge.handle.getD "" ≠ "" := by
  simp [plainEdge?, List.find?_eq_none, Edge.isPlain]

theorem label_eq_text_iff {name : String} : edge.label = .text name ↔ edge.handle = some name := by
  unfold Edge.label
  cases edge.handle <;> simp [Value.ofText?]

variable {name : String}

theorem edgeFor?_text_eq_some_iff :
    edgeFor? edges (.text name) = some edge ↔ IsFirst (·.handle = some name) edges edge := by
  simp only [edgeFor?_eq_some_iff, label_eq_text_iff]

theorem edgeFor?_text_eq_none_iff :
    edgeFor? edges (.text name) = none ↔ ∀ edge ∈ edges, edge.handle ≠ some name := by
  simp only [edgeFor?_eq_none_iff, ne_eq, label_eq_text_iff]

end Labels

section Scanning

variable {γ : Type} {applies : γ → Prop} {label : γ → Value} {conditions : List γ}
  {edges : List Edge} {test : γ → Except Fault (Option Edge)}

/-- The test of one condition finds the edge that it names, if it applies. -/
def Tests (test : γ → Except Fault (Option Edge)) (applies : γ → Prop) (label : γ → Value)
    (edges : List Edge) (condition : γ) : Prop :=
  ∃ found, test condition = .ok found ∧ ∀ edge,
    found = some edge ↔ applies condition ∧ IsFirst (·.label = label condition) edges edge

theorem exists_isFirst_label {wanted : Value} (h : ∃ e ∈ edges, e.label = wanted) :
    ∃ edge, IsFirst (·.label = wanted) edges edge := by
  obtain ⟨e, he, hlabel⟩ := h
  obtain ⟨edge, hedge⟩ := Option.ne_none_iff_exists'.1
    (mt edgeFor?_eq_none_iff.1 fun hnone => hnone e he hlabel)
  exact ⟨edge, edgeFor?_eq_some_iff.1 hedge⟩

theorem selects_cons {condition : γ} {edge : Edge} :
    Selects applies label (condition :: conditions) edges edge ↔
      (applies condition ∧ IsFirst (·.label = label condition) edges edge) ∨
        ((¬ ∃ e, applies condition ∧ IsFirst (·.label = label condition) edges e) ∧
          Selects applies label conditions edges edge) := by
  have hnames : (¬ ∃ e, applies condition ∧ IsFirst (·.label = label condition) edges e) ↔
      ¬ (applies condition ∧ ∃ e ∈ edges, e.label = label condition) := by
    refine not_congr ⟨?_, ?_⟩
    · rintro ⟨e, happlies, hfirst⟩
      exact ⟨happlies, e, hfirst.mem, hfirst.holds⟩
    · rintro ⟨happlies, hnamed⟩
      obtain ⟨e, hfirst⟩ := exists_isFirst_label hnamed
      exact ⟨e, happlies, hfirst⟩
  rw [hnames]
  constructor
  · rintro ⟨found, hfirst, hedge⟩
    rcases isFirst_cons.1 hfirst with ⟨⟨happlies, -⟩, rfl⟩ | ⟨hnot, hfirst⟩
    · exact .inl ⟨happlies, hedge⟩
    · exact .inr ⟨hnot, found, hfirst, hedge⟩
  · rintro (⟨happlies, hedge⟩ | ⟨hnot, found, hfirst, hedge⟩)
    · have hnames : ∃ e ∈ edges, e.label = label condition := ⟨edge, hedge.mem, hedge.holds⟩
      exact ⟨condition, isFirst_cons.2 (.inl ⟨⟨happlies, hnames⟩, rfl⟩), hedge⟩
    · exact ⟨found, isFirst_cons.2 (.inr ⟨hnot, hfirst⟩), hedge⟩

/-- Conditions that name no edge are passed over. -/
theorem firstSome_selects (h : ∀ condition ∈ conditions, Tests test applies label edges condition) :
    ∃ found, firstSome test conditions = .ok found ∧
      ∀ edge, found = some edge ↔ Selects applies label conditions edges edge := by
  induction conditions with
  | nil =>
      refine ⟨none, rfl, fun edge => ⟨nofun, ?_⟩⟩
      rintro ⟨condition, hfirst, -⟩
      exact absurd hfirst not_isFirst_nil
  | cons condition conditions ih =>
      obtain ⟨found, htest, hfound⟩ := h condition (by simp)
      obtain ⟨rest, hrest, hselects⟩ := ih fun c hc => h c (by simp [hc])
      rw [firstSome, htest]
      cases found with
      | some first =>
          refine ⟨some first, rfl, fun edge => ?_⟩
          have hfirst := (hfound first).1 rfl
          rw [selects_cons, ← hfound edge]
          exact (or_iff_left fun hnot => hnot.1 ⟨first, hfirst⟩).symm
      | none =>
          refine ⟨rest, hrest, fun edge => ?_⟩
          have hnone : ∀ e, ¬ (applies condition ∧ IsFirst (·.label = label condition) edges e) :=
            fun e he => absurd ((hfound e).2 he) nofun
          rw [selects_cons, hselects, or_iff_right (hnone edge), and_iff_right (not_exists.2 hnone)]

theorem firstSome_map {δ : Type} (f : δ → γ) (items : List δ) :
    firstSome test (items.map f) = firstSome (fun d => test (f d)) items := by
  induction items with
  | nil => rfl
  | cons d items ih =>
      simp only [List.map_cons, firstSome, ih]

theorem not_selects {edge : Edge} (h : ∀ condition ∈ conditions, ¬ applies condition) :
    ¬ Selects applies label conditions edges edge := by
  rintro ⟨condition, hfirst, -⟩
  exact h condition hfirst.mem hfirst.holds.1

theorem tests_of_ite {condition : γ} {p : Prop} [Decidable p]
    (htest : test condition = .ok (if p then edgeFor? edges (label condition) else none))
    (happlies : p ↔ applies condition) : Tests test applies label edges condition := by
  refine ⟨_, htest, fun edge => ?_⟩
  rw [← happlies, ← edgeFor?_eq_some_iff]
  by_cases hp : p <;> simp [hp]

end Scanning

section Keywords

variable {node : Node} {slots : Slots} {edges : List Edge} {condition : Mapping Value}
  {output text : String}

theorem keywordEdge?_object {keyword : String}
    (h : (entry condition "keyword").toText = .ok keyword) :
    keywordEdge? edges (lower output.toList) (.object condition) =
      .ok (if keyword ≠ "" ∧ lower keyword.toList <:+: lower output.toList then
        edgeFor? edges (entry condition "id") else none) := by
  have hread : keywordEdge? edges (lower output.toList) (.object condition) = (do
      let word ← (entry condition "keyword").toText
      if (lower word.toList).isEmpty || !occursIn (lower word.toList) (lower output.toList) then
        .ok none
      else .ok (edgeFor? edges (entry condition "id"))) := rfl
  rw [hread, h]
  show (if _ then _ else _) = _
  by_cases hkeyword : keyword = ""
  · simp [hkeyword, lower, lowerFrom]
  · have hlower : lower keyword.toList ≠ [] := by simpa [lower_eq_nil_iff] using hkeyword
    by_cases hoccurs : lower keyword.toList <:+: lower output.toList
    · simp [hkeyword, hlower, hoccurs, occursIn_iff_infix.2 hoccurs]
    · have hnot : occursIn (lower keyword.toList) (lower output.toList) = false :=
        Bool.eq_false_iff.2 (mt occursIn_iff_infix.1 hoccurs)
      simp [hoccurs, hnot]

theorem Says.eq {v : Value} (h : Says node slots output)
    (hslot : slotAt slots (node.get "outputVar") = .ok v) (htext : v.toText = .ok text) :
    output = text := by
  obtain ⟨name, w, hget, -, hfound, hw⟩ := h
  rw [hget, slotAt, hfound] at hslot
  obtain rfl : w = v := Except.ok.inj hslot
  exact Except.ok.inj (hw.symm.trans htext)

/-- A slot that is missing reads as the empty text, so one that reads otherwise is there. -/
theorem says_of_slotAt {v : Value} (hname : (node.get "outputVar").truthy = true)
    (hslot : slotAt slots (node.get "outputVar") = .ok v) (htext : v.toText = .ok text)
    (hne : text ≠ "") : Says node slots text := by
  have hnull : v ≠ .null := by
    rintro rfl
    exact hne (Except.ok.inj htext).symm
  unfold slotAt at hslot
  split at hslot
  · rename_i name hget
    refine ⟨name, v, hget, ?_, ?_, htext⟩
    · rintro rfl
      simp [hget, Value.truthy] at hname
    · cases hfound : Mapping.get? slots name with
      | none => exact absurd (by simpa [hfound] using hslot.symm) hnull
      | some w => simpa [hfound] using hslot
  · split at hslot
    · exact absurd (Except.ok.inj hslot).symm hnull
    · cases hslot

end Keywords

section Authored

variable {scenario : Scenario} {node : Node} {slots : Slots} {edges : List Edge} {edge : Edge}
  {condition : Mapping Value} {place : Nat}

theorem replyValue?_eq {replies : Value} (h : replies.ListsObjects) :
    replyValue? replies place =
      .ok ((replies.objects[place]?.map (entry · "value")).filter Value.truthy) := by
  by_cases htruthy : replies.truthy = true
  · obtain ⟨items, rfl⟩ : ∃ items : List (Mapping Value), replies = .list (items.map .object) :=
      ⟨_, h htruthy⟩
    rw [Value.objects_map, replyValue?, htruthy]
    cases hreply : items[place]? with
    | none => simp [hreply]
    | some reply =>
        simp only [List.getElem?_map, hreply, Option.map_some]
        rfl
  · rw [Bool.not_eq_true] at htruthy
    simp [replyValue?, htruthy, Value.objects_of_not_truthy htruthy]

theorem conditionHandle_eq (h : (node.get "replies").ListsObjects) :
    conditionHandle node place (.object condition) = .ok (handleAt node (condition, place)) := by
  have hread : conditionHandle node place (.object condition) = (do
      let value ← replyValue? (node.get "replies") place
      .ok (value.getD ((entry condition "handle").orElse (entry condition "id")))) := by
    unfold conditionHandle
    refine bind_congr fun value => ?_
    cases value with
    | some value => rfl
    | none =>
        show (if (entry condition "handle").truthy then Except.ok (entry condition "handle")
          else Except.ok (entry condition "id")) = _
        rw [Option.getD_none, Value.orElse, apply_ite Except.ok]
  rw [hread, replyValue?_eq h, handleAt]
  cases (node.get "replies").objects[place]? with
  | none => rfl
  | some reply =>
      simp only [Option.map_some, Option.elim, Value.orElse, Option.filter]
      cases (entry reply "value").truthy <;> rfl

theorem outputEdge?_eq {v : Value} (hconditions : (node.get "conditions").ListsObjects)
    (htruthy : (node.get "conditions").truthy = true)
    (hname : (node.get "outputVar").truthy = true)
    (hslot : slotAt slots (node.get "outputVar") = .ok v) (htext : v.toText = .ok text) :
    outputEdge? node edges slots =
      if (lower text.toList).isEmpty then .ok none
      else firstSome (fun c => keywordEdge? edges (lower text.toList) (.object c))
        (node.get "conditions").objects := by
  rw [outputEdge?, hconditions.elements htruthy, hslot]
  simp only [hname, htruthy]
  show (do let s ← v.toText; if (lower s.toList).isEmpty then _ else _) = _
  rw [htext, ← firstSome_map]
  rfl

theorem outputEdge?_selects (hkind : node.kind? = some .llm) (h : Readable node slots) :
    ∃ found, outputEdge? node edges slots = .ok found ∧ ∀ edge, found = some edge ↔
      Selects (Mentioned node slots) (entry · "id") (node.get "conditions").objects edges edge := by
  have hunmentioned (hsilent : ∀ output, Says node slots output → output = "") :
      ∀ condition ∈ (node.get "conditions").objects, ¬ Mentioned node slots condition := by
    rintro condition - ⟨output, keyword, htold, -, hkeyword, hinfix⟩
    rw [hsilent output htold] at hinfix
    exact hkeyword (String.toList_eq_nil_iff.1 (lower_eq_nil_iff.1 (List.infix_nil.1 hinfix)))
  by_cases hearly : (node.get "outputVar").truthy = true ∧ (node.get "conditions").truthy = true
  · obtain ⟨hname, hconditions⟩ := hearly
    obtain ⟨v, text, hslot, htext⟩ := h.output hkind hname
    rw [outputEdge?_eq (h.conditions (.inl hkind)) hconditions hname hslot htext]
    by_cases hempty : text = ""
    · refine ⟨none, by simp [hempty, lower, lowerFrom], fun edge =>
        iff_of_false (Option.some_ne_none edge).symm ?_⟩
      exact not_selects (hunmentioned fun output htold => (htold.eq hslot htext).trans hempty)
    · have hlower : (lower text.toList).isEmpty = false := by
        simpa [lower_eq_nil_iff] using hempty
      rw [hlower]
      refine firstSome_selects fun condition hcondition => ?_
      obtain ⟨keyword, hkeyword⟩ := h.keywords hkind condition hcondition
      refine tests_of_ite (keywordEdge?_object hkeyword) ⟨?_, ?_⟩
      · rintro ⟨hne, hinfix⟩
        exact ⟨text, keyword, says_of_slotAt hname hslot htext hempty, hkeyword, hne, hinfix⟩
      · rintro ⟨output, other, htold, hother, hne, hinfix⟩
        obtain rfl : output = text := htold.eq hslot htext
        obtain rfl : other = keyword := Except.ok.inj (hother.symm.trans hkeyword)
        exact ⟨hne, hinfix⟩
  · refine ⟨none, ?_, fun edge => iff_of_false (Option.some_ne_none edge).symm fun hselects => ?_⟩
    · have hstop : (!(node.get "outputVar").truthy || !(node.get "conditions").truthy) = true := by
        simpa only [← Bool.not_and, Bool.not_eq_true', ← Bool.not_eq_true, Bool.and_eq_true]
          using hearly
      rw [outputEdge?, if_pos hstop]
      rfl
    · rw [not_and_or, Bool.not_eq_true, Bool.not_eq_true] at hearly
      rcases hearly with hname | hconditions
      · refine absurd hselects (not_selects (hunmentioned fun output htold => ?_))
        obtain ⟨name, v, hget, hne, -⟩ := htold
        simp [hget, Value.truthy, hne] at hname
      · rw [Value.objects_of_not_truthy hconditions] at hselects
        exact not_selects (fun condition hmem => absurd hmem List.not_mem_nil) hselects

theorem branchEdge?_selects (hkind : node.isConditionBranch = true) (h : Readable node slots) :
    ∃ found, branchEdge? node edges slots = .ok found ∧ ∀ edge, found = some edge ↔
      Selects (fun c => Condition.holdsIn (.object c.1) (.object slots) = .ok true)
        (handleAt node) (node.get "conditions").objects.zipIdx edges edge := by
  by_cases hconditions : (node.get "conditions").truthy = true
  · have helements := (h.conditions (.inr hkind)).elements hconditions
    have hread : branchEdge? node edges slots =
        firstSome (fun c => conditionEdge? node edges slots (.object c.1, c.2))
          (node.get "conditions").objects.zipIdx := by
      rw [branchEdge?, helements, hconditions]
      show firstSome _ (List.map _ _).zipIdx = _
      rw [List.zipIdx_map, firstSome_map]
      rfl
    rw [hread]
    refine firstSome_selects fun c hc => ?_
    obtain ⟨b, hb⟩ := h.holds hkind c.1 (List.fst_mem_of_mem_zipIdx hc)
    refine tests_of_ite (p := b = true) ?_ (by simp [hb])
    cases b with
    | false =>
        rw [conditionEdge?, hb]
        rfl
    | true =>
        rw [conditionEdge?, hb]
        show (do .ok (edgeFor? edges (← conditionHandle node c.2 (.object c.1)))) = _
        rw [conditionHandle_eq (h.replies hkind)]
        rfl
  · rw [Bool.not_eq_true] at hconditions
    refine ⟨none, by rw [branchEdge?, hconditions]; rfl, fun edge =>
      iff_of_false (Option.some_ne_none edge).symm fun hselects => ?_⟩
    rw [Value.objects_of_not_truthy hconditions] at hselects
    exact not_selects (fun condition hmem => absurd hmem List.not_mem_nil) hselects

theorem kind?_of_isConditionBranch (h : node.isConditionBranch = true) :
    node.kind? = some .branch := by
  simpa using (Bool.and_eq_true_iff.1 h).1

variable (scenario) in
theorem authoredEdge?_spec (h : Readable node slots) :
    ∃ found, authoredEdge? node (scenario.outgoing node.id) slots = .ok found ∧
      ∀ edge, found = some edge ↔ Authored scenario node slots edge := by
  unfold authoredEdge?
  split_ifs with hllm hbranch
  · have hnot : ¬ node.isConditionBranch = true := fun hbranch => by
      simp [kind?_of_isConditionBranch hbranch] at hllm
    obtain ⟨found, hfound, hselects⟩ := outputEdge?_selects hllm h
    refine ⟨found, hfound, fun edge => (hselects edge).trans ⟨.keyword hllm, ?_⟩⟩
    rintro (⟨-, hselected⟩ | ⟨hbranch, -⟩)
    · exact hselected
    · exact absurd hbranch hnot
  · obtain ⟨found, hfound, hselects⟩ := branchEdge?_selects hbranch h
    refine ⟨found, hfound, fun edge => (hselects edge).trans ⟨.condition hbranch, ?_⟩⟩
    rintro (⟨hkind, -⟩ | ⟨-, hselected⟩)
    · exact absurd hkind hllm
    · exact hselected
  · refine ⟨none, rfl, fun edge => ⟨nofun, ?_⟩⟩
    rintro (⟨hkind, -⟩ | ⟨hkind, -⟩)
    · exact absurd hkind hllm
    · exact absurd hkind hbranch

end Authored

section Offer

variable {node : Node} {edges : List Edge} {handle : Option String} {chosen : Option Edge}

theorem handleEdge?_given {name : String} (h : name ≠ "") :
    handleEdge? node edges (some name) = edgeFor? edges (.text name) := by
  simp [handleEdge?, Option.filter, h]

theorem handleEdge?_ungiven (h : handle.getD "" = "") :
    handleEdge? node edges handle =
      if node.isConditionBranch then (edgeFor? edges (.text "default")).or (plainEdge? edges)
      else plainEdge? edges := by
  cases handle with
  | none => rfl
  | some name =>
      obtain rfl : name = "" := h
      rfl

theorem Offered.eq_handleEdge? (h : Offered node edges handle chosen) :
    handleEdge? node edges handle = chosen := by
  cases h with
  | named given filled first =>
      rw [given, handleEdge?_given filled, edgeFor?_text_eq_some_iff.2 first]
  | unknown given filled missing =>
      rw [given, handleEdge?_given filled, edgeFor?_text_eq_none_iff.2 missing]
  | default ungiven kind first =>
      rw [handleEdge?_ungiven ungiven, if_pos kind, edgeFor?_text_eq_some_iff.2 first]
      rfl
  | plain ungiven missing first =>
      rw [handleEdge?_ungiven ungiven, plainEdge?_eq_some_iff.2 first]
      split_ifs with kind
      · rw [edgeFor?_text_eq_none_iff.2 (missing kind)]
        rfl
      · rfl
  | nowhere ungiven missing handled =>
      rw [handleEdge?_ungiven ungiven, plainEdge?_eq_none_iff.2 handled]
      split_ifs with kind
      · rw [edgeFor?_text_eq_none_iff.2 (missing kind)]
        rfl
      · rfl

theorem offered_plainEdge? (ungiven : handle.getD "" = "")
    (missing : node.isConditionBranch = true → ∀ edge ∈ edges, edge.handle ≠ some "default") :
    Offered node edges handle (plainEdge? edges) := by
  cases hplain : plainEdge? edges with
  | some edge => exact .plain ungiven missing (plainEdge?_eq_some_iff.1 hplain)
  | none => exact .nowhere ungiven missing (plainEdge?_eq_none_iff.1 hplain)

theorem offered_handleEdge? : Offered node edges handle (handleEdge? node edges handle) := by
  by_cases ungiven : handle.getD "" = ""
  · rw [handleEdge?_ungiven ungiven]
    split_ifs with kind
    · cases hdefault : edgeFor? edges (.text "default") with
      | some edge => exact .default ungiven kind (edgeFor?_text_eq_some_iff.1 hdefault)
      | none => exact offered_plainEdge? ungiven fun _ => edgeFor?_text_eq_none_iff.1 hdefault
    · exact offered_plainEdge? ungiven (absurd · kind)
  · obtain ⟨name, rfl⟩ : ∃ name, handle = some name := by
      cases handle <;> simp at ungiven ⊢
    have filled : name ≠ "" := ungiven
    rw [handleEdge?_given filled]
    cases hnamed : edgeFor? edges (.text name) with
    | some edge => exact .named rfl filled (edgeFor?_text_eq_some_iff.1 hnamed)
    | none => exact .unknown rfl filled (edgeFor?_text_eq_none_iff.1 hnamed)

end Offer

/-- The edge out of a node is the one that the rule chooses, and no other is chosen. -/
theorem edgeFrom_follows_precedence {scenario : Scenario} {node : Node} {handle : Option String}
    {slots : Slots} (h : Readable node slots) :
    ∃ chosen, scenario.edgeFrom node handle slots = .ok chosen ∧
      ∀ other, Chosen scenario node handle slots other ↔ other = chosen := by
  obtain ⟨authored, hread, hauthored⟩ := authoredEdge?_spec scenario h
  cases authored with
  | some edge =>
      have hedge : Authored scenario node slots edge := (hauthored edge).1 rfl
      refine ⟨some edge, by rw [edgeFrom, hread]; rfl, fun other => ⟨?_, ?_⟩⟩
      · rintro (hother | ⟨hnone, -⟩)
        · exact ((hauthored _).2 hother).symm
        · exact absurd hedge (hnone edge)
      · rintro rfl
        exact .authored hedge
  | none =>
      have hnone : ∀ edge, ¬ Authored scenario node slots edge :=
        fun edge hedge => Option.some_ne_none edge ((hauthored edge).2 hedge).symm
      refine ⟨handleEdge? node (scenario.outgoing node.id) handle,
        by rw [edgeFrom, hread]; rfl, fun other => ⟨?_, ?_⟩⟩
      · rintro (hother | ⟨-, hoffer⟩)
        · exact absurd hother (hnone _)
        · exact hoffer.eq_handleEdge?.symm
      · rintro rfl
        exact .offered hnone offered_handleEdge?

/-- Both conditions of the node hold. The handle of the first one is that of no edge; the reply
beside the second one takes the place of its own handle. -/
def crossroads : Node where
  id := "gate"
  type := "branch"
  data := [
    ("evaluationType", .text "CONDITION"),
    ("conditions", .list [
      .object [("slot", .text "age"), ("value", .text "7"), ("handle", .text "nowhere")],
      .object [("slot", .text "age"), ("value", .text "7"), ("handle", .text "plain")]]),
    ("replies", .list [.object [("value", .text "")], .object [("value", .text "bridge")]])]

def crossing : Scenario where
  id := "walk"
  name := "Walk"
  description := ""
  nodes := [crossroads]
  edges := [⟨"e1", "gate", "field", none⟩, ⟨"e2", "gate", "field", some "plain"⟩,
    ⟨"e3", "gate", "river", some "bridge"⟩, ⟨"e4", "gate", "hill", some "default"⟩]
  start := none

theorem crossing_leads_over_bridge :
    Readable crossroads [("age", .text "7")] ∧
      ∃ chosen, crossing.edgeFrom crossroads (some "plain") [("age", .text "7")] = .ok chosen ∧
        chosen = some ⟨"e3", "gate", "river", some "bridge"⟩ ∧
        ∀ other, Chosen crossing crossroads (some "plain") [("age", .text "7")] other ↔
          other = chosen := by
  have hreadable : Readable crossroads [("age", .text "7")] := {
    conditions := fun _ _ => rfl
    output := fun hkind => absurd hkind (by decide)
    keywords := fun hkind => absurd hkind (by decide)
    holds := fun _ =>
      List.forall_mem_cons.2 ⟨⟨true, rfl⟩, List.forall_mem_cons.2 ⟨⟨true, rfl⟩, nofun⟩⟩
    replies := fun _ _ => rfl }
  obtain ⟨chosen, hchosen, hrule⟩ : ∃ chosen,
      crossing.edgeFrom crossroads (some "plain") [("age", .text "7")] = .ok chosen ∧
        ∀ other, Chosen crossing crossroads (some "plain") [("age", .text "7")] other ↔
          other = chosen := edgeFrom_follows_precedence hreadable
  refine ⟨hreadable, chosen, hchosen, ?_, hrule⟩
  have hread : crossing.edgeFrom crossroads (some "plain") [("age", .text "7")] =
      .ok (some ⟨"e3", "gate", "river", some "bridge"⟩) := by rfl
  exact Except.ok.inj (hchosen.symm.trans hread)

end Scenario

end Dialogue
