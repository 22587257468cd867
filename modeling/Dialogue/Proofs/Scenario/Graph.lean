import Dialogue.Proofs.Value.Fault
import Dialogue.Scenario.Reading
import Dialogue.Scenario.Resolve
import Mathlib.Data.List.Nodup
/-!
Scenarios without defects as graphs. Their nodes have distinct ids and their edges join nodes, so
the way on from a node fails for want of a node only where the empty id stands for one.
-/
namespace Dialogue.Scenario

variable {scenario : Scenario} {edges : List Edge} {edge : Edge} {slots : Slots}

theorem duplicates_eq_nil_iff {ids : List String} : duplicates ids = [] ↔ ids.Nodup := by
  have hsort : duplicates ids = [] ↔ ids.filter (fun id => 1 < ids.count id) = [] := by
    rw [duplicates, ← List.length_eq_zero_iff, List.length_mergeSort, List.length_eq_zero_iff]
    cases hf : ids.filter fun id => 1 < ids.count id with
    | nil => simp
    | cons id rest => simp [List.eraseDups_cons]
  rw [hsort, List.filter_eq_nil_iff, List.nodup_iff_count_le_one]
  constructor
  · intro h id
    by_cases hid : id ∈ ids
    · simpa using h id hid
    · simp [List.count_eq_zero_of_not_mem hid]
  · intro h id _
    simpa using h id

theorem startDefects_eq_nil_iff :
    scenario.startDefects = [] ↔ ∀ id ∈ scenario.start, id = "" ∨ id ∈ scenario.nodeIds := by
  unfold startDefects
  cases scenario.start with
  | none => simp
  | some id => simp [or_iff_not_imp_left]

theorem edgeDefects_eq_nil_iff :
    scenario.edgeDefects edge = [] ↔
      edge.source ∈ scenario.nodeIds ∧ edge.target ∈ scenario.nodeIds := by
  simp [edgeDefects]

theorem defects_eq_nil_iff :
    scenario.defects = [] ↔
      scenario.id ≠ "" ∧ scenario.nodes ≠ [] ∧ scenario.nodeIds.Nodup ∧
        (∀ id ∈ scenario.start, id = "" ∨ id ∈ scenario.nodeIds) ∧
        ∀ edge ∈ scenario.edges, edge.source ∈ scenario.nodeIds ∧ edge.target ∈ scenario.nodeIds := by
  simp [defects, duplicates_eq_nil_iff, startDefects_eq_nil_iff, edgeDefects_eq_nil_iff]

theorem nodeIds_nodup (h : scenario.defects = []) : scenario.nodeIds.Nodup :=
  (defects_eq_nil_iff.1 h).2.2.1

theorem target_mem (h : scenario.defects = []) (he : edge ∈ scenario.edges) :
    edge.target ∈ scenario.nodeIds :=
  ((defects_eq_nil_iff.1 h).2.2.2.2 edge he).2

theorem node?_of_mem (h : scenario.defects = []) {node : Node} (hn : node ∈ scenario.nodes)
    (hid : node.id ≠ "") : scenario.node? node.id = some node := by
  rw [node?, if_neg hid]
  cases hf : scenario.nodes.find? (·.id = node.id) with
  | none => simpa using List.find?_eq_none.1 hf node hn
  | some found =>
      have hsame : found.id = node.id := by simpa using List.find?_some hf
      have hfound : found ∈ scenario.nodes := List.mem_of_find?_eq_some hf
      rw [List.inj_on_of_nodup_map (nodeIds_nodup h) hfound hn hsame]

theorem node?_eq_none (h : scenario.defects = []) {id : String} (hid : id ∈ scenario.nodeIds) :
    scenario.node? id = none ↔ id = "" := by
  obtain ⟨node, hn, rfl⟩ := List.mem_map.1 hid
  constructor
  · intro hnone
    by_contra hne
    rw [node?_of_mem h hn hne] at hnone
    cases hnone
  · intro hempty
    rw [node?, if_pos hempty]

theorem startNode?_mem {node : Node} (h : scenario.startNode? = some node) :
    node ∈ scenario.nodes := by
  rcases Option.or_eq_some_iff.1 h with h | ⟨-, h⟩
  · obtain ⟨id, -, hid⟩ := Option.bind_eq_some_iff.1 h
    exact (id_of_node? hid).2
  · exact List.mem_of_find?_eq_some h

section Edges

theorem edgeFor?_mem {handle : Value} (h : edgeFor? edges handle = some edge) : edge ∈ edges :=
  List.mem_of_find?_eq_some h

theorem plainEdge?_mem (h : plainEdge? edges = some edge) : edge ∈ edges :=
  List.mem_of_find?_eq_some h

theorem firstSome_found {α β : Type} {test : α → Except Fault (Option β)} {as : List α} {b : β}
    (h : firstSome test as = .ok (some b)) : ∃ a ∈ as, test a = .ok (some b) := by
  induction as with
  | nil => cases h
  | cons a rest ih =>
      obtain ⟨found, hfound, h⟩ := exists_of_bind_ok h
      cases found with
      | none =>
          obtain ⟨c, hc, htest⟩ := ih h
          exact ⟨c, .tail a hc, htest⟩
      | some c =>
          cases h
          exact ⟨a, .head rest, hfound⟩

theorem keywordEdge?_mem {output : List Char} {condition : Value}
    (h : keywordEdge? edges output condition = .ok (some edge)) : edge ∈ edges := by
  obtain ⟨_, _, h⟩ := exists_of_bind_ok h
  obtain ⟨_, _, h⟩ := exists_of_bind_ok h
  simp only at h
  split at h
  · cases h
  · obtain ⟨_, _, h⟩ := exists_of_bind_ok h
    exact edgeFor?_mem (Except.ok.inj h)

theorem conditionEdge?_mem {node : Node} {condition : Value × Nat}
    (h : conditionEdge? node edges slots condition = .ok (some edge)) : edge ∈ edges := by
  obtain ⟨_, _, h⟩ := exists_of_bind_ok h
  split at h
  · obtain ⟨_, _, h⟩ := exists_of_bind_ok h
    exact edgeFor?_mem (Except.ok.inj h)
  · cases h

theorem outputEdge?_mem {node : Node} (h : outputEdge? node edges slots = .ok (some edge)) :
    edge ∈ edges := by
  unfold outputEdge? at h
  simp only at h
  split at h
  · cases h
  · obtain ⟨_, _, h⟩ := exists_of_bind_ok h
    obtain ⟨_, _, h⟩ := exists_of_bind_ok h
    split at h
    · cases h
    · obtain ⟨_, _, h⟩ := exists_of_bind_ok h
      obtain ⟨_, -, h⟩ := firstSome_found h
      exact keywordEdge?_mem h

theorem branchEdge?_mem {node : Node} (h : branchEdge? node edges slots = .ok (some edge)) :
    edge ∈ edges := by
  unfold branchEdge? at h
  simp only at h
  split at h
  · cases h
  · obtain ⟨_, _, h⟩ := exists_of_bind_ok h
    obtain ⟨_, -, h⟩ := firstSome_found h
    exact conditionEdge?_mem h

theorem authoredEdge?_mem {node : Node} (h : authoredEdge? node edges slots = .ok (some edge)) :
    edge ∈ edges := by
  unfold authoredEdge? at h
  split at h
  · exact outputEdge?_mem h
  · split at h
    · exact branchEdge?_mem h
    · cases h

theorem handleEdge?_mem {node : Node} {handle : Option String}
    (h : handleEdge? node edges handle = some edge) : edge ∈ edges := by
  unfold handleEdge? at h
  split at h
  · exact edgeFor?_mem h
  · split at h
    · rcases Option.or_eq_some_iff.1 h with h | ⟨-, h⟩
      · exact edgeFor?_mem h
      · exact plainEdge?_mem h
    · exact plainEdge?_mem h

theorem edgeFrom_mem {node : Node} {handle : Option String}
    (h : scenario.edgeFrom node handle slots = .ok (some edge)) :
    edge ∈ scenario.edges ∧ edge.source = node.id := by
  rw [← mem_outgoing]
  obtain ⟨authored, hauthored, h⟩ := exists_of_bind_ok h
  cases authored with
  | none => exact handleEdge?_mem (Except.ok.inj h)
  | some found =>
      cases h
      exact authoredEdge?_mem hauthored

end Edges

section Faults

theorem onlyValues_firstSome {α β : Type} {test : α → Except Fault (Option β)}
    (h : ∀ a, OnlyValues (test a)) (as : List α) : OnlyValues (firstSome test as) := by
  induction as with
  | nil => exact onlyValues_ok _
  | cons a rest ih =>
      refine (h a).bind fun found => ?_
      cases found with
      | none => exact ih
      | some b => exact onlyValues_ok _

theorem onlyValues_keywordEdge? (edges : List Edge) (output : List Char) (condition : Value) :
    OnlyValues (keywordEdge? edges output condition) :=
  (condition.onlyValues_field _).bind fun _ => (Value.onlyValues_toText _).bind fun _ =>
    (onlyValues_ok _).ite ((condition.onlyValues_field _).map _)

theorem onlyValues_slotAt (slots : Slots) (name : Value) : OnlyValues (slotAt slots name) := by
  unfold slotAt
  split
  · exact onlyValues_ok _
  · exact (onlyValues_ok _).ite (onlyValues_clash _)

theorem onlyValues_outputEdge? (node : Node) (edges : List Edge) (slots : Slots) :
    OnlyValues (outputEdge? node edges slots) :=
  (onlyValues_ok _).ite <| (onlyValues_slotAt slots _).bind fun _ =>
    (Value.onlyValues_toText _).bind fun _ => (onlyValues_ok _).ite <|
      (Value.onlyValues_elements _).bind fun _ =>
        onlyValues_firstSome (onlyValues_keywordEdge? edges _) _

theorem onlyValues_replyValue? (replies : Value) (place : Nat) :
    OnlyValues (replyValue? replies place) := by
  refine (onlyValues_ok _).ite ?_
  split
  · split
    · exact (Value.onlyValues_field _ _).map _
    · exact onlyValues_ok _
  · exact (onlyValues_clash _).ite (onlyValues_ok _)
  · exact (onlyValues_missingField _).ite (onlyValues_ok _)
  · exact onlyValues_clash _

theorem onlyValues_conditionHandle (node : Node) (place : Nat) (condition : Value) :
    OnlyValues (conditionHandle node place condition) := by
  refine (onlyValues_replyValue? _ place).bind fun reply => ?_
  cases reply with
  | some value => exact onlyValues_ok _
  | none =>
      exact (condition.onlyValues_field _).bind fun _ =>
        (onlyValues_ok _).ite ((condition.onlyValues_field _).map _)

theorem onlyValues_branchEdge? (node : Node) (edges : List Edge) (slots : Slots) :
    OnlyValues (branchEdge? node edges slots) := by
  have hcondition (condition : Value × Nat) :
      OnlyValues (conditionEdge? node edges slots condition) :=
    (Condition.onlyValues_holdsIn _ _).bind fun _ =>
      ((onlyValues_conditionHandle node _ _).map _).ite (onlyValues_ok _)
  exact (onlyValues_ok _).ite <| (Value.onlyValues_elements _).bind fun _ =>
    onlyValues_firstSome hcondition _

theorem onlyValues_edgeFrom (scenario : Scenario) (node : Node) (handle : Option String)
    (slots : Slots) : OnlyValues (scenario.edgeFrom node handle slots) := by
  have hauthored : OnlyValues (authoredEdge? node (scenario.outgoing node.id) slots) :=
    (onlyValues_outputEdge? node _ slots).ite ((onlyValues_branchEdge? node _ slots).ite (onlyValues_ok _))
  refine hauthored.bind fun authored => ?_
  cases authored with
  | none => exact onlyValues_ok _
  | some found => exact onlyValues_ok _

end Faults

section Next

variable {node found : Node} {handle : Option String}

theorem target_eq (scenario : Scenario) (edge : Edge) :
    scenario.target edge =
      (scenario.node? edge.target).elim (.error (.noSuchNode scenario.id edge.target)) .ok := by
  unfold target
  cases scenario.node? edge.target <;> rfl

theorem target_ok (h : scenario.target edge = .ok found) :
    found ∈ scenario.nodes ∧ found.id = edge.target := by
  rw [target_eq] at h
  cases hf : scenario.node? edge.target with
  | none =>
      rw [hf] at h
      cases h
  | some node =>
      rw [hf] at h
      cases h
      exact (id_of_node? hf).symm

theorem next_mem {current : Option String}
    (h : scenario.next current handle slots = .ok (some found)) : found ∈ scenario.nodes := by
  unfold next at h
  split at h
  · exact startNode?_mem (Except.ok.inj h)
  · split at h
    · cases h
    · obtain ⟨edge, _, h⟩ := exists_of_bind_ok h
      cases edge with
      | none => cases h
      | some edge =>
          obtain ⟨node, htarget, h⟩ := exists_of_bind_ok h
          cases h
          exact (target_ok htarget).1

theorem follow_mem {id handle : String} (h : scenario.follow id handle = .ok (some found)) :
    found ∈ scenario.nodes := by
  unfold follow at h
  split at h
  · cases h
  · obtain ⟨node, htarget, h⟩ := exists_of_bind_ok h
    cases h
    exact (target_ok htarget).1

theorem next_of_mem (h : scenario.defects = []) (hn : node ∈ scenario.nodes) (hid : node.id ≠ "")
    (handle : Option String) (slots : Slots) :
    scenario.next (some node.id) handle slots =
      (scenario.edgeFrom node handle slots).bind fun edge =>
        edge.elim (.ok none) fun edge => (scenario.target edge).map some := by
  have hcurrent : (some node.id).filter (· ≠ "") = some node.id := by simp [hid]
  rw [next, hcurrent]
  simp only [node?_of_mem h hn hid]
  refine bind_congr fun edge => ?_
  cases edge with
  | none => rfl
  | some edge => cases ht : scenario.target edge <;> simp [ht, Except.map, bind, Except.bind, pure, Except.pure]

theorem next_empty : scenario.next (some "") handle slots = .ok scenario.startNode? := rfl

/-- The way on from a node does not fail for want of a node, and what it leads to is behind an edge
that leaves the node. -/
structure Guided (scenario : Scenario) (node : Node) (handle : Option String) (slots : Slots) :
    Prop where
  resolved : ∀ id missing, scenario.next (some node.id) handle slots ≠ .error (.noSuchNode id missing)
  joined : ∀ found, scenario.next (some node.id) handle slots = .ok (some found) →
    found ∈ scenario.nodes ∧
      ∃ edge ∈ scenario.edges, edge.source = node.id ∧ edge.target = found.id

theorem guided_empty_iff (hid : node.id = "") :
    scenario.Guided node handle slots ↔
      ∀ start ∈ scenario.startNode?,
        ∃ edge ∈ scenario.edges, edge.source = "" ∧ edge.target = start.id := by
  constructor
  · intro h start hstart
    have hjoined := h.joined start
    rw [hid, next_empty] at hjoined
    exact (hjoined (congrArg Except.ok hstart)).2
  · intro h
    constructor
    · rw [hid, next_empty]
      rintro id missing ⟨⟩
    · rw [hid, next_empty]
      intro found hfound
      have hstart : scenario.startNode? = some found := Except.ok.inj hfound
      exact ⟨startNode?_mem hstart, h found hstart⟩

theorem guided_named_iff (h : scenario.defects = []) (hn : node ∈ scenario.nodes)
    (hid : node.id ≠ "") :
    scenario.Guided node handle slots ↔
      ∀ edge, scenario.edgeFrom node handle slots = .ok (some edge) → edge.target ≠ "" := by
  have hnext := next_of_mem h hn hid handle slots
  constructor
  · intro hguided edge hedge hempty
    refine hguided.resolved scenario.id edge.target ?_
    rw [hnext, hedge]
    simp [Except.bind, target_eq, node?, hempty, Except.map]
  · intro hedges
    constructor
    · intro id missing herr
      rw [hnext] at herr
      cases hedge : scenario.edgeFrom node handle slots with
      | error fault =>
          rw [hedge] at herr
          cases herr
          exact onlyValues_edgeFrom scenario node handle slots _ hedge
      | ok chosen =>
          rw [hedge] at herr
          cases chosen with
          | none => cases herr
          | some edge =>
              have hmem := target_mem h (edgeFrom_mem hedge).1
              have htarget := mt (node?_eq_none h hmem).1 (hedges edge hedge)
              obtain ⟨found, hfound⟩ := Option.ne_none_iff_exists'.1 htarget
              simp [Except.bind, target_eq, hfound, Except.map] at herr
    · intro found hok
      refine ⟨next_mem hok, ?_⟩
      rw [hnext] at hok
      obtain ⟨chosen, hedge, hok⟩ := exists_of_bind_ok hok
      cases chosen with
      | none => cases hok
      | some edge =>
          obtain ⟨hmem, hsource⟩ := edgeFrom_mem hedge
          cases ht : scenario.target edge with
          | error fault =>
              rw [Option.elim, ht] at hok
              cases hok
          | ok node =>
              rw [Option.elim, ht] at hok
              cases hok
              exact ⟨edge, hmem, hsource, (target_ok ht).2.symm⟩

theorem guided_of_named (h : scenario.defects = []) (hids : "" ∉ scenario.nodeIds)
    (hn : node ∈ scenario.nodes) : scenario.Guided node handle slots := by
  have hid : node.id ≠ "" := fun hempty => hids (List.mem_map.2 ⟨node, hn, hempty⟩)
  refine (guided_named_iff h hn hid).2 fun edge hedge hempty => hids ?_
  rw [← hempty]
  exact target_mem h (edgeFrom_mem hedge).1

/-- Where every node has a name, the edge that leads on leads to a node. -/
theorem exists_next (h : scenario.defects = []) (hids : "" ∉ scenario.nodeIds)
    (hn : node ∈ scenario.nodes) {edge : Option Edge}
    (hedge : scenario.edgeFrom node handle slots = .ok edge) :
    ∃ found, scenario.next (some node.id) handle slots = .ok found := by
  have hid : node.id ≠ "" := fun hempty => hids (List.mem_map.2 ⟨node, hn, hempty⟩)
  have hnext := next_of_mem h hn hid handle slots
  rw [hedge] at hnext
  cases edge with
  | none => exact ⟨none, hnext⟩
  | some edge =>
      have hmem := target_mem h (edgeFrom_mem hedge).1
      have htarget : edge.target ≠ "" := fun hempty => hids (hempty ▸ hmem)
      obtain ⟨found, hfound⟩ := Option.ne_none_iff_exists'.1 (mt (node?_eq_none h hmem).1 htarget)
      refine ⟨some found, hnext.trans ?_⟩
      simp [Except.bind, target_eq, hfound, Except.map]

/-- Exactly the empty id stands in the way: as the id of the node itself it names the start, and
behind an edge it names no node. -/
theorem guided_iff (h : scenario.defects = []) (hn : node ∈ scenario.nodes) :
    scenario.Guided node handle slots ↔
      if node.id = "" then
        ∀ start ∈ scenario.startNode?,
          ∃ edge ∈ scenario.edges, edge.source = "" ∧ edge.target = start.id
      else ∀ edge, scenario.edgeFrom node handle slots = .ok (some edge) → edge.target ≠ "" := by
  split
  · rename_i hid
    exact guided_empty_iff hid
  · rename_i hid
    exact guided_named_iff h hn hid

/-- Two messages, the second without an id, and an edge from the first to the second. -/
def unnamed : Scenario where
  id := "s"
  name := ""
  description := ""
  nodes := [⟨"a", "message", []⟩, ⟨"", "message", []⟩]
  edges := [⟨"e", "a", "", none⟩]
  start := none

theorem unnamed_defects : unnamed.defects = [] := by
  rw [defects_eq_nil_iff]
  decide

theorem unnamed_not_guided :
    unnamed.defects = [] ∧ ∃ node ∈ unnamed.nodes, ¬ unnamed.Guided node none [] := by
  refine ⟨unnamed_defects, ⟨"a", "message", []⟩, .head _, fun h => ?_⟩
  exact h.resolved "s" "" (by rfl)

theorem unnamed_guided_nowhere :
    unnamed.defects = [] ∧ ∀ node ∈ unnamed.nodes, ¬ unnamed.Guided node none [] := by
  refine ⟨unnamed_defects, fun node hn h => ?_⟩
  have hway := (guided_iff unnamed_defects hn).1 h
  rcases List.mem_cons.1 hn with rfl | hn
  · exact hway ⟨"e", "a", "", none⟩ (by rfl) rfl
  · obtain rfl := List.mem_singleton.1 hn
    obtain ⟨edge, hedge, hsource, -⟩ := hway ⟨"a", "message", []⟩ (by rfl)
    obtain rfl := List.mem_singleton.1 hedge
    exact absurd hsource (by decide)

end Next

end Dialogue.Scenario

/-!
Leaving a node by a named handle. Only the first edge that carries the handle counts, and only the
node that bears its target; edges without a handle and what the slots hold do not matter. The empty
id stands in the way as it does for any other edge.
-/

namespace Dialogue.Scenario

/-- The first node that bears an id, which may be empty. -/
def bearer? (scenario : Scenario) (id : String) : Option Node :=
  scenario.nodes.find? (·.id = id)

/-- The first edge that leaves a node by a handle. -/
def edgeBy? (scenario : Scenario) (id handle : String) : Option Edge :=
  (scenario.outgoing id).find? (·.handle = some handle)

/-- `next` bears the target of the edge for the handle; without such an edge there is no next
node. -/
def IsBehind (scenario : Scenario) (id handle : String) (next : Option Node) : Prop :=
  match scenario.edgeBy? id handle with
  | none => next = none
  | some edge => ∃ found, scenario.bearer? edge.target = some found ∧ next = some found

variable {scenario : Scenario} {node found : Node} {edge : Edge} {id handle : String}
  {next : Option Node} {slots : Slots}

theorem node?_empty : scenario.node? "" = none := rfl

theorem node?_eq_bearer? (h : id ≠ "") : scenario.node? id = scenario.bearer? id := if_neg h

theorem node?_eq_some_iff : scenario.node? id = some node ↔
    id ≠ "" ∧ scenario.bearer? id = some node := by
  by_cases hid : id = ""
  · simp [hid, node?_empty]
  · simp [hid, node?_eq_bearer? hid]

theorem target_ok_iff : scenario.target edge = .ok found ↔
    edge.target ≠ "" ∧ scenario.bearer? edge.target = some found := by
  rw [target_eq, ← node?_eq_some_iff]
  cases scenario.node? edge.target <;> simp

theorem matchesHandle_text : matchesHandle (.text handle) edge = decide (edge.handle = some handle) := by
  cases h : edge.handle <;> simp [matchesHandle, h, eq_comm]

theorem edgeFor?_outgoing :
    edgeFor? (scenario.outgoing id) (.text handle) = scenario.edgeBy? id handle := by
  have hmatches : matchesHandle (.text handle) = fun edge : Edge => edge.handle = some handle :=
    funext fun _ => matchesHandle_text
  rw [edgeFor?, hmatches, edgeBy?]

/-- Without an edge for the handle there is nowhere to go. -/
theorem follow_of_none (h : scenario.edgeBy? id handle = none) :
    scenario.follow id handle = .ok none := by
  rw [follow, edgeFor?_outgoing, h]

theorem follow_of_some (h : scenario.edgeBy? id handle = some edge) :
    scenario.follow id handle = (scenario.target edge).map some := by
  rw [follow, edgeFor?_outgoing, h]
  exact bind_pure_comp some (scenario.target edge)

theorem isBehind_of_follow (h : scenario.follow id handle = .ok next) :
    scenario.IsBehind id handle next := by
  unfold IsBehind
  split
  · rename_i hedge
    rw [follow_of_none hedge] at h
    exact (Except.ok.inj h).symm
  · rename_i edge hedge
    rw [follow_of_some hedge] at h
    cases htarget : scenario.target edge with
    | error fault =>
        rw [htarget] at h
        cases h
    | ok found =>
        rw [htarget] at h
        exact ⟨found, (target_ok_iff.1 htarget).2, (Except.ok.inj h).symm⟩

/-- Nodes that look at neither their output nor conditions go by the handle alone. -/
theorem edgeFrom_unauthored (hllm : node.kind? ≠ some .llm)
    (hbranch : node.isConditionBranch = false) (handle : Option String) (slots : Slots) :
    scenario.edgeFrom node handle slots =
      .ok (handleEdge? node (scenario.outgoing node.id) handle) := by
  have hauthored : authoredEdge? node (scenario.outgoing node.id) slots = .ok none := by
    rw [authoredEdge?, if_neg hllm, hbranch]
    rfl
  rw [edgeFrom, hauthored]
  rfl

theorem edgeFrom_handled (hllm : node.kind? ≠ some .llm) (hbranch : node.isConditionBranch = false)
    (hhandle : handle ≠ "") :
    scenario.edgeFrom node (some handle) slots = .ok (scenario.edgeBy? node.id handle) := by
  have hfilter : (some handle).filter (· ≠ "") = some handle := by simp [hhandle]
  rw [edgeFrom_unauthored hllm hbranch, handleEdge?, hfilter, ← edgeFor?_outgoing]

/-- Nodes that look at neither their output nor conditions go exactly where the handle says. -/
theorem next_handled (hnode : scenario.node? node.id = some node) (hllm : node.kind? ≠ some .llm)
    (hbranch : node.isConditionBranch = false) (hhandle : handle ≠ "") :
    scenario.next (some node.id) (some handle) slots = scenario.follow node.id handle := by
  have hcurrent : (some node.id).filter (· ≠ "") = some node.id := by
    simp [(node?_eq_some_iff.1 hnode).1]
  rw [next, hcurrent]
  simp only [hnode, edgeFrom_handled hllm hbranch hhandle]
  cases hedge : scenario.edgeBy? node.id handle with
  | none => exact (follow_of_none hedge).symm
  | some edge =>
      rw [follow_of_some hedge]
      exact bind_pure_comp some (scenario.target edge)

end Dialogue.Scenario
