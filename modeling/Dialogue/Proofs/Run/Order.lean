import Dialogue.Proofs.Node.Ways
import Dialogue.Proofs.Scenario.Graph
import Dialogue.Run.Walk
import Mathlib.Data.List.Find
/-!
The order in which a scenario lists its nodes and edges. Every look-up takes the first match of a
list, so the order cannot show where at most one item matches.
-/
namespace Dialogue.Scenario

variable {scenario other : Scenario} {edges others : List Edge}

def reordered (scenario : Scenario) (nodes : List Node) (edges : List Edge) : Scenario :=
  { scenario with nodes := nodes, edges := edges }

/-- No two nodes have the same id, no two edges out of a node the same handle, where a missing
handle counts as an empty one, and the start node is declared and there. -/
structure Unambiguous (scenario : Scenario) : Prop where
  ids : scenario.nodeIds.Nodup
  handles : ∀ node ∈ scenario.nodes,
    ((scenario.outgoing node.id).map fun edge => edge.handle.getD "").Nodup
  start : ∃ node, scenario.start.bind scenario.node? = some node

/-- Two lists of edges answer every look-up alike. -/
structure AgreeingEdges (edges others : List Edge) : Prop where
  handle : ∀ handle, edgeFor? others handle = edgeFor? edges handle
  plain : plainEdge? others = plainEdge? edges

/-- Two scenarios answer every look-up from a node of the first alike. -/
structure Agreeing (scenario other : Scenario) : Prop where
  id : other.id = scenario.id
  start : other.startNode? = scenario.startNode?
  node : ∀ id, other.node? id = scenario.node? id
  edges : ∀ node ∈ scenario.nodes,
    AgreeingEdges (scenario.outgoing node.id) (other.outgoing node.id)

section Lookups

theorem handle_of_matchesHandle {handle : Value} {edge : Edge}
    (h : matchesHandle handle edge = true) :
    (∃ text, handle = .text text ∧ edge.handle = some text) ∨
      (handle = .null ∧ edge.handle = none) := by
  unfold matchesHandle at h
  split at h
  · rename_i s t ht
    exact .inl ⟨s, rfl, by rw [ht, of_decide_eq_true h]⟩
  · rename_i hnone
    exact .inr ⟨rfl, hnone⟩
  · cases h

theorem agreeingEdges_of_perm (hperm : others.Perm edges)
    (hdistinct : (edges.map fun edge => edge.handle.getD "").Nodup) :
    AgreeingEdges edges others := by
  have hsame {one two : Edge} (hone : one ∈ edges) (htwo : two ∈ edges)
      (h : one.handle.getD "" = two.handle.getD "") : one = two :=
    List.inj_on_of_nodup_map hdistinct hone htwo h
  constructor
  · intro handle
    refine (List.find?_eq_find?_of_perm hperm.symm ?_).symm
    rintro one ⟨hone, hmatch⟩ two ⟨htwo, hother⟩
    refine hsame hone htwo ?_
    rcases handle_of_matchesHandle hmatch with ⟨s, rfl, hs⟩ | ⟨rfl, hs⟩
    · rcases handle_of_matchesHandle hother with ⟨t, ht, htwo⟩ | ⟨ht, -⟩
      · cases ht
        rw [hs, htwo]
      · cases ht
    · rcases handle_of_matchesHandle hother with ⟨t, ht, -⟩ | ⟨-, htwo⟩
      · cases ht
      · rw [hs, htwo]
  · refine (List.find?_eq_find?_of_perm hperm.symm ?_).symm
    rintro one ⟨hone, hplain⟩ two ⟨htwo, hother⟩
    have hempty : one.handle.getD "" = "" := of_decide_eq_true hplain
    have hnone : two.handle.getD "" = "" := of_decide_eq_true hother
    exact hsame hone htwo (hempty.trans hnone.symm)

theorem node?_reordered {nodes : List Node} (hids : scenario.nodeIds.Nodup)
    (hnodes : nodes.Perm scenario.nodes) (edges : List Edge) (id : String) :
    (scenario.reordered nodes edges).node? id = scenario.node? id := by
  have hfind : nodes.find? (·.id = id) = scenario.nodes.find? (·.id = id) := by
    refine (List.find?_eq_find?_of_perm hnodes.symm ?_).symm
    rintro one ⟨hone, hid⟩ two ⟨htwo, hother⟩
    have hsame : one.id = two.id := (of_decide_eq_true hid).trans (of_decide_eq_true hother).symm
    exact List.inj_on_of_nodup_map hids hone htwo hsame
  simp only [node?, reordered, hfind]

theorem startNode?_of_declared {node : Node} (h : scenario.start.bind scenario.node? = some node) :
    scenario.startNode? = some node := by
  simp only [startNode?, h, Option.some_or]

theorem Unambiguous.agreeing_reordered (h : scenario.Unambiguous) {nodes : List Node}
    (hnodes : nodes.Perm scenario.nodes) (hedges : edges.Perm scenario.edges) :
    Agreeing scenario (scenario.reordered nodes edges) := by
  have hnode := node?_reordered h.ids hnodes edges
  refine ⟨rfl, ?_, hnode, ?_⟩
  · obtain ⟨node, hstart⟩ := h.start
    have hdeclared : (scenario.reordered nodes edges).start.bind
        (scenario.reordered nodes edges).node? = some node := by
      rw [← hstart]
      exact congrArg (scenario.start.bind ·) (funext hnode)
    rw [startNode?_of_declared hstart, startNode?_of_declared hdeclared]
  · intro node hn
    exact agreeingEdges_of_perm (hedges.filter _) (h.handles node hn)

end Lookups

section Edges

variable {node : Node} {slots : Slots} (h : AgreeingEdges edges others)
include h

theorem keywordEdge?_agreeing (output : List Char) :
    keywordEdge? others output = keywordEdge? edges output := by
  funext condition
  simp only [keywordEdge?, h.handle]

theorem conditionEdge?_agreeing :
    conditionEdge? node others slots = conditionEdge? node edges slots := by
  funext condition
  simp only [conditionEdge?, h.handle]

theorem authoredEdge?_agreeing :
    authoredEdge? node others slots = authoredEdge? node edges slots := by
  simp only [authoredEdge?, outputEdge?, branchEdge?, keywordEdge?_agreeing h,
    conditionEdge?_agreeing h]

theorem handleEdge?_agreeing (handle : Option String) :
    handleEdge? node others handle = handleEdge? node edges handle := by
  simp only [handleEdge?, h.handle, h.plain]

end Edges

namespace Agreeing

variable (h : Agreeing scenario other)
include h

theorem target (edge : Edge) : other.target edge = scenario.target edge := by
  simp only [Scenario.target, h.node, h.id]

theorem edgeFrom {node : Node} (hn : node ∈ scenario.nodes) (handle : Option String)
    (slots : Slots) : other.edgeFrom node handle slots = scenario.edgeFrom node handle slots := by
  simp only [Scenario.edgeFrom, authoredEdge?_agreeing (h.edges node hn),
    handleEdge?_agreeing (h.edges node hn)]

theorem next (current handle : Option String) (slots : Slots) :
    other.next current handle slots = scenario.next current handle slots := by
  unfold Scenario.next
  split
  · rw [h.start]
  · rename_i id hid
    rw [h.node, h.id]
    cases hfound : scenario.node? id with
    | none => rfl
    | some node => simp only [h.edgeFrom (id_of_node? hfound).2, h.target]

theorem follow {node : Node} (hn : node ∈ scenario.nodes) (handle : String) :
    other.follow node.id handle = scenario.follow node.id handle := by
  simp only [Scenario.follow, (h.edges node hn).handle, h.target]

end Agreeing

end Dialogue.Scenario

/-!
Runs of a scenario whose nodes and edges are listed in another order. All that a run asks of its
scenario is looked up, so it makes the same calls and comes to the same result.
-/

namespace Dialogue

namespace Node

variable {context : Context} {other : Scenario}

def Context.within (context : Context) (other : Scenario) : Context :=
  { context with scenario := other }

section Executions

variable (h : context.scenario.Agreeing other)
include h

theorem leave_within (node : Node) (handle : Option String) (slots : Slots) (events : List Event) :
    leave (context.within other) node handle slots events =
      leave context node handle slots events := by
  simp only [leave, Context.within, h.next]

theorem leaveWith_within (node : Node) (handle : Option String) (draft : Slot.Draft) :
    leaveWith (context.within other) node handle draft = leaveWith context node handle draft := by
  simp only [leaveWith, Context.within, h.next]

theorem api_within (node : Node) (slots : Slots) :
    Api.execute (context.within other) node slots = Api.execute context node slots := by
  have hbase : (context.within other).apiBase = context.apiBase := rfl
  simp only [Api.execute, Api.succeed, Api.fail, leaveWith_within h, leave_within h, hbase]

theorem llm_within {node : Node} (hn : node ∈ context.scenario.nodes) (slots : Slots) :
    Llm.execute (context.within other) node slots = Llm.execute context node slots := by
  have hlanguage : (context.within other).language = context.language := rfl
  have hfollow : (context.within other).scenario.follow node.id "onError"
      = context.scenario.follow node.id "onError" := h.follow hn _
  simp only [Llm.execute, Llm.succeed, Llm.fail, leaveWith_within h, hlanguage, hfollow]

theorem execute_within {node : Node} (hn : node ∈ context.scenario.nodes) (slots : Slots) :
    node.execute (context.within other) slots = node.execute context slots := by
  have hsession : (context.within other).session = context.session := rfl
  unfold execute
  cases node.kind? with
  | none => rfl
  | some kind =>
      cases kind with
      | message => rfl
      | slotfilling => rfl
      | form => rfl
      | iframe => rfl
      | branch => simp only [executeBranch, leave_within h]
      | toast => simp only [executeToast, leave_within h, hsession]
      | link => simp only [executeLink, leave_within h, hsession]
      | setSlot => simp only [executeSetSlot, leaveWith_within h]
      | api => exact api_within h node slots
      | llm => exact llm_within h hn slots
      | delay => simp only [executeDelay, leave_within h]

end Executions

end Node

namespace Run

open Attempt

variable {setting : Setting} {other : Scenario}

def Setting.within (setting : Setting) (other : Scenario) : Setting :=
  { setting with context := setting.context.within other }

section Runs

variable (h : setting.context.scenario.Agreeing other)
include h

theorem walk_within (remaining steps : Nat) {next : Option Node}
    (hn : ∀ node ∈ next, node ∈ setting.context.scenario.nodes) (slots : Slots)
    (events : List Event) :
    walk (setting.context.within other) remaining steps next slots events =
      walk setting.context remaining steps next slots events := by
  have hfinish : finish (setting.context.within other) = finish setting.context := by
    funext slots events steps
    simp only [finish, Node.Context.within, h.id]
  induction remaining generalizing steps next slots events with
  | zero =>
      cases next with
      | none => simp only [walk, hfinish]
      | some node => rfl
  | succ remaining ih =>
      cases next with
      | none => simp only [walk, hfinish]
      | some node =>
          have hmem := hn node rfl
          simp only [walk, Node.execute_within h hmem]
          refine ExceptT.ext ?_
          simp only [ExceptT.run_bind_lift]
          refine Program.Always.bind_congr (Node.execute_leads setting.context node slots) ?_
          intro outcome hleads
          cases outcome with
          | error fault => rfl
          | ok effect =>
              have hleads := hleads effect rfl
              simp only
              split
              · rfl
              · split
                · rfl
                · rename_i hgoes
                  refine congrArg ExceptT.run (ih _ (fun found hfound => ?_) _ _)
                  cases hwaits : effect.waits with
                  | true => exact absurd hfound (hgoes _ hwaits)
                  | false =>
                      rw [Node.Effect.Leads, hwaits] at hleads
                      exact hleads found hfound

theorem proceed_within (state : State) (input : Input) (slots : Slots) :
    proceed (setting.within other) state input slots = proceed setting state input slots := by
  have hnext : (setting.within other).context.scenario.next state.node input.handle slots =
      setting.context.scenario.next state.node input.handle slots := h.next _ _ _
  simp only [proceed, hnext]
  cases hfound : setting.context.scenario.next state.node input.handle slots with
  | error fault => rfl
  | ok next =>
      refine walk_within h _ _ (fun node hnode => ?_) _ _
      exact Scenario.next_mem (hfound.trans (congrArg _ hnode))

theorem stumble_within (state : State) (input : Input) (slots : Slots) :
    stumble (setting.within other) state input slots = stumble setting state input slots := by
  have hnext : (setting.within other).context.scenario.next state.node input.handle slots =
      setting.context.scenario.next state.node input.handle slots := h.next _ _ _
  have hsteps : (setting.within other).maxSteps = setting.maxSteps := rfl
  simp only [stumble, hnext, hsteps]
  split
  · rename_i steps node hmax hfound
    have hexecute := Node.execute_within h (Scenario.next_mem hfound) slots
    exact congrArg (fun work : Attempt Node.Effect =>
      ExceptT.lift work.run >>= fun _ => (throw .invalidRecord : Attempt Result)) hexecute
  · rfl

theorem receive_within (state : State) (input : Input) (current : Node) :
    receive (setting.within other) state input current = receive setting state input current := by
  have hlanguage : (setting.within other).context.language = setting.context.language := rfl
  have htoday : (setting.within other).today = setting.today := rfl
  simp only [receive, hlanguage, htoday, proceed_within h, stumble_within h]

theorem perform_within (state : State) (input : Input) :
    perform (setting.within other) state input = perform setting state input := by
  have hnode (id : String) : (setting.within other).context.scenario.node? id =
      setting.context.scenario.node? id := h.node id
  have hlanguage : (setting.within other).context.language = setting.context.language := rfl
  simp only [perform, hnode, hlanguage, proceed_within h, receive_within h]

end Runs

/-- A run of an unambiguous scenario does not depend on the order of its nodes and of its edges:
whatever the world answers, it makes the same calls and comes to the same result. -/
theorem run_ignores_order (setting : Setting) (h : setting.context.scenario.Unambiguous)
    {nodes : List Node} {edges : List Edge} (hnodes : nodes.Perm setting.context.scenario.nodes)
    (hedges : edges.Perm setting.context.scenario.edges) (state : State) (input : Input) :
    perform (setting.within (setting.context.scenario.reordered nodes edges)) state input =
      perform setting state input :=
  perform_within (h.agreeing_reordered hnodes hedges) state input

namespace Sample

/-- Three edges leave the branch; two are taken on a condition and one by default. -/
def triage : Scenario where
  id := "triage"
  name := "Triage"
  description := ""
  nodes := [
    ⟨"who", "branch", [("evaluationType", .text "CONDITION"), ("conditions", .list [
      .object [("slot", .text "age"), ("value", .text "adult"), ("handle", .text "grown")],
      .object [("slot", .text "age"), ("value", .text "child"), ("handle", .text "young")]])]⟩,
    ⟨"office", "message", []⟩,
    ⟨"school", "message", [("content", .text "Which school?")]⟩,
    ⟨"home", "message", []⟩]
  edges := [
    ⟨"e1", "who", "home", some ""⟩,
    ⟨"e2", "who", "office", some "grown"⟩,
    ⟨"e3", "who", "school", some "young"⟩]
  start := some "who"

def counter : Setting := ⟨⟨triage, "s1", "en", ""⟩, ⟨2024, 1, 1⟩, 10⟩

def pupil : State := ⟨none, false, [("age", .text "child")]⟩

theorem triage_unambiguous : triage.Unambiguous where
  ids := by decide
  handles := by decide
  start := ⟨_, rfl⟩

end Sample

theorem triage_ignores_order :
    Sample.counter.context.scenario.Unambiguous ∧
      ∃ r, perform (Sample.counter.within
          (Sample.triage.reordered Sample.triage.nodes.reverse Sample.triage.edges.reverse))
          Sample.pupil .none = pure r ∧
        perform Sample.counter Sample.pupil .none = pure r ∧ r.node = some "school" := by
  have hsame := run_ignores_order Sample.counter Sample.triage_unambiguous
    (List.reverse_perm Sample.triage.nodes) (List.reverse_perm Sample.triage.edges) Sample.pupil
    .none
  obtain ⟨r, hr, hnode⟩ : ∃ r, perform Sample.counter Sample.pupil .none = pure r ∧
      r.node = some "school" := ⟨_, rfl, by decide⟩
  exact ⟨Sample.triage_unambiguous, r, hsame.trans hr, hr, hnode⟩

end Run

end Dialogue
