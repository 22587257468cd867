import Dialogue.Proofs.Node.Writes
import Dialogue.Proofs.Scenario.Graph
import Dialogue.Script
import Dialogue.Proofs.Node.Ways
/-!
The flags and the error edge of an llm node. A completion that failed is told in the slots and takes
the error edge, whatever else could lead on, unless that edge ends at the empty id. One that went
well takes the flags of an earlier failure away before it writes what it brings, so that a
completion that brings the flags is told as a failure.
-/
namespace Dialogue

namespace Node.Llm

open Attempt

variable {context : Context} {node : Node} {slots : Slots} {effect : Effect} {reason : String}

section Recovery

theorem fail_of_none (h : context.scenario.edgeBy? node.id "onError" = none) :
    fail context node slots reason = .ok (.fail (flagged slots reason) reason) := by
  rw [fail, Scenario.follow_of_none h]
  rfl

theorem fail_of_some {edge : Edge} (h : context.scenario.edgeBy? node.id "onError" = some edge) :
    fail context node slots reason = (context.scenario.target edge).map fun found =>
      .goTo (some found) (flagged slots reason) [] := by
  rw [fail, Scenario.follow_of_some h]
  cases context.scenario.target edge <;> rfl

/-- The node behind the error edge is the next one, and only the flags are written. Without an
error edge there is no next node and the failure is passed on, and without a node behind it the
scenario cannot go on. -/
structure Recovers (scenario : Scenario) (node : Node) (slots : Slots) (reason : String)
    (outcome : Except Fault Effect) : Prop where
  onward : ∀ edge found, scenario.edgeBy? node.id "onError" = some edge →
    scenario.bearer? edge.target = some found →
      outcome = .ok (.goTo (some found) (flagged slots reason) [])
  stuck : scenario.edgeBy? node.id "onError" = none →
    outcome = .ok (.fail (flagged slots reason) reason)
  lost : ∀ fault, outcome = .error fault → ∃ edge,
    scenario.edgeBy? node.id "onError" = some edge ∧ scenario.bearer? edge.target = none ∧
      fault = .noSuchNode scenario.id edge.target

/-- The error edge ends at the empty id, and a node bears it. -/
def Unreachable (scenario : Scenario) (node : Node) : Prop :=
  ∃ edge, scenario.edgeBy? node.id "onError" = some edge ∧ edge.target = "" ∧
    scenario.bearer? "" ≠ none

theorem fail_of_unreachable (h : Unreachable context.scenario node) :
    fail context node slots reason = .error (.noSuchNode context.scenario.id "") := by
  obtain ⟨edge, hedge, hempty, -⟩ := h
  rw [fail_of_some hedge, Scenario.target_eq, hempty]
  rfl

theorem bearer?_of_reachable {edge : Edge} (h : ¬ Unreachable context.scenario node)
    (hedge : context.scenario.edgeBy? node.id "onError" = some edge) :
    context.scenario.node? edge.target = context.scenario.bearer? edge.target := by
  by_cases hempty : edge.target = ""
  · have hnone : context.scenario.bearer? "" = none :=
      Classical.not_not.1 fun hsome => h ⟨edge, hedge, hempty, hsome⟩
    rw [hempty, hnone, Scenario.node?_empty]
  · exact Scenario.node?_eq_bearer? hempty

theorem recovers_fail (h : ¬ Unreachable context.scenario node) :
    Recovers context.scenario node slots reason (fail context node slots reason) := by
  constructor
  · intro edge found hedge hfound
    rw [fail_of_some hedge, Scenario.target_eq, bearer?_of_reachable h hedge, hfound]
    rfl
  · exact fail_of_none
  · intro fault herror
    cases hedge : context.scenario.edgeBy? node.id "onError" with
    | none =>
        rw [fail_of_none hedge] at herror
        cases herror
    | some edge =>
        rw [fail_of_some hedge, Scenario.target_eq, bearer?_of_reachable h hedge] at herror
        cases hfound : context.scenario.bearer? edge.target with
        | none =>
            rw [hfound] at herror
            cases herror
            exact ⟨edge, rfl, hfound, rfl⟩
        | some found =>
            rw [hfound] at herror
            cases herror

theorem not_recovers_of_unreachable (h : Unreachable context.scenario node) :
    ¬ Recovers context.scenario node slots reason (fail context node slots reason) := by
  intro hrecovers
  obtain ⟨edge, hedge, hempty, hsome⟩ := h
  obtain ⟨other, hother, hnone, -⟩ := hrecovers.lost _ (fail_of_unreachable ⟨edge, hedge, hempty, hsome⟩)
  cases hedge.symm.trans hother
  exact hsome (hempty ▸ hnone)

/-- A failed completion never takes the way of one that went well. Only where the error edge ends at
the empty id of a node is that node taken for a missing one. -/
theorem failed_completion_recovers_iff (context : Context) (slots : Slots)
    (hkind : node.kind? = some .llm) :
    (node.execute context slots).run.recorded.Always fun (outcome, heard) =>
      ∀ reason, Failed heard reason →
        (Recovers context.scenario node slots reason outcome ↔ ¬ Unreachable context.scenario node) ∧
          (Unreachable context.scenario node →
            outcome = .error (.noSuchNode context.scenario.id "")) := by
  rw [Node.execute, hkind]
  refine (execute_settles context node slots).mono ?_
  rintro ⟨outcome, heard⟩ hsettles reason hfailed
  simp only at hsettles
  obtain rfl := hsettles.eq_fail hfailed
  refine ⟨⟨fun hrecovers h => ?_, recovers_fail⟩, fail_of_unreachable⟩
  exact not_recovers_of_unreachable h hrecovers

namespace Sample

/-- A question whose last answer still meets its condition. -/
def ask : Node := ⟨"ask", "llm", [("prompt", .text "Hi {name}"), ("outputVar", .text "reply"),
  ("conditions", .list [.object [("id", .text "c1"), ("keyword", .text "yes")]])]⟩

/-- The error edge of the question ends at `apology`. -/
def chat (apology : String) : Scenario where
  id := "chat"
  name := "Chat"
  description := ""
  nodes := [ask, ⟨"cheer", "message", []⟩, ⟨apology, "message", []⟩]
  edges := [⟨"e1", "ask", "cheer", some "c1"⟩, ⟨"e2", "ask", "cheer", none⟩,
    ⟨"e3", "ask", apology, some "onError"⟩]
  start := none

def answered : Slots := [("name", .text "Ann"), ("reply", .text "Yes")]

def down : Script := { Script.empty with completions := [.error (.completion "down")] }

def told (apology : String) : Except Fault Effect × List Exchange :=
  ((ask.execute ⟨chat apology, "s1", "en", "http://chat"⟩ answered).run.recorded.run Script.answer
    down).1

end Sample

theorem failed_chat_recovers :
    Sample.ask.kind? = some .llm ∧ Failed (Sample.told "regret").2 "down" ∧
      (Sample.told "regret").1 = .ok (.goTo (some ⟨"regret", "message", []⟩)
        [("name", .text "Ann"), ("reply", .text "Yes"), ("llmError", .text "down"),
          ("llmFailed", .bool true)] []) := by
  have hfailed : Failed (Sample.told "regret").2 "down" := .head _
  have hnamed : ¬ Unreachable (Sample.chat "regret") Sample.ask := by
    rintro ⟨edge, hedge, hempty, -⟩
    cases hedge
    exact absurd hempty (by decide)
  have hcourse := failed_completion_recovers_iff ⟨Sample.chat "regret", "s1", "en", "http://chat"⟩
    Sample.answered (show Sample.ask.kind? = some .llm from rfl)
  obtain ⟨hrecovers, -⟩ := hcourse.run Script.answer Sample.down "down" hfailed
  exact ⟨rfl, hfailed, (hrecovers.2 hnamed).onward _ _ rfl rfl⟩

/-- The edge and the node behind it are there, but the node bears the empty id. -/
theorem unnamed_apology_is_lost :
    Sample.ask.kind? = some .llm ∧ (Sample.chat "").defects = [] ∧
      Failed (Sample.told "").2 "down" ∧
      (Sample.told "").1 = .error (.noSuchNode "chat" "") ∧
      ¬ Recovers (Sample.chat "") Sample.ask Sample.answered "down" (Sample.told "").1 := by
  refine ⟨rfl, Scenario.defects_eq_nil_iff.2 (by decide), .head _, rfl, fun hrecovers => ?_⟩
  cases hrecovers.onward _ _ rfl rfl

end Recovery

section Flags

def flags : List String := ["llmError", "llmFailed"]

/-- A completion gives the slot a value: it is kept there, or it brings a value for it. -/
def Names (node : Node) (output name : String) : Prop :=
  node.get "outputVar" = .text name ∨ name ∈ Mapping.keys (read node output).slots

variable {flag output : String}

theorem mem_keys_store {draft stored : Slot.Draft} {named v : Value} {name : String}
    (h : draft.store named v = .ok stored) :
    name ∈ Mapping.keys stored.slots ↔ named = .text name ∨ name ∈ Mapping.keys draft.slots := by
  unfold Slot.Draft.store at h
  split at h
  · cases h
    rw [Mapping.mem_keys_set, Value.text.injEq]
  · rename_i hnot
    split at h
    · cases h
      exact (or_iff_right (hnot name)).symm
    · cases h

theorem ne_of_mem_flags (h : flag ∈ flags) : flag ≠ "" := by
  rintro rfl
  simp [flags] at h

/-- The flags of an earlier failure are taken away first. -/
theorem notMem_keys_cleared (h : flag ∈ flags) :
    flag ∉ Mapping.keys (Mapping.erase (Mapping.erase slots "llmError") "llmFailed") := by
  rw [← Mapping.get?_eq_none_iff, Mapping.get?_erase, Mapping.get?_erase]
  rcases List.mem_pair.1 h with rfl | rfl <;> rfl

theorem mem_keys_succeed (hflag : flag ∈ flags)
    (h : succeed context node slots output = .ok effect) :
    flag ∈ Mapping.keys effect.slots ↔ Names node output flag := by
  have hkept : flag ∈ Mapping.keys (Mapping.update
      (Mapping.erase (Mapping.erase slots "llmError") "llmFailed") (read node output).slots) ↔
      flag ∈ Mapping.keys (read node output).slots := by
    rw [Mapping.mem_keys_update]
    exact or_iff_right (notMem_keys_cleared hflag)
  unfold succeed at h
  simp only at h
  split at h
  · obtain ⟨stored, hstored, h⟩ := exists_of_bind_ok h
    rw [slots_leaveWith h, mem_keys_store hstored]
    exact or_congr_right hkept
  · rename_i hname
    have hother : node.get "outputVar" ≠ .text flag := fun hname' => hname (by
      rw [hname']
      simpa [Value.truthy] using ne_of_mem_flags hflag)
    rw [slots_leaveWith h]
    exact hkept.trans (or_iff_right hother).symm

theorem mem_keys_fail (hflag : flag ∈ flags) (h : fail context node slots reason = .ok effect) :
    flag ∈ Mapping.keys effect.slots := by
  rw [slots_fail h, flagged, Mapping.mem_keys_set, Mapping.mem_keys_set]
  rcases List.mem_pair.1 hflag with rfl | rfl
  · exact .inr (.inl rfl)
  · exact .inl rfl

/-- A flag tells whether the completion failed, unless the completion itself writes the flag. -/
theorem flags_truthful_iff (context : Context) (slots : Slots) (hkind : node.kind? = some .llm) :
    (node.execute context slots).run.recorded.Always fun (outcome, heard) =>
      ∀ effect, outcome = .ok effect → ∀ flag ∈ flags,
        ((flag ∈ Mapping.keys effect.slots ↔ ∃ reason, Failed heard reason) ↔
          ∀ output, Completed heard output → ¬ Names node output flag) := by
  rw [Node.execute, hkind]
  refine (execute_settles context node slots).mono ?_
  rintro ⟨outcome, heard⟩ hsettles effect rfl flag hflag
  simp only at hsettles
  unfold Failed Completed
  rcases hsettles.of_ok with ⟨reason, hheard, hfail⟩ | ⟨output, hheard, hsucceed⟩
  · have hall : ∀ output, .ok output ∈ heard.filterMap reply? → ¬ Names node output flag := by
      intro output houtput
      rw [hheard] at houtput
      cases List.mem_singleton.1 houtput
    refine iff_of_true (iff_of_true (mem_keys_fail hflag hfail) ⟨reason, ?_⟩) hall
    rw [hheard]
    exact .head _
  · have hnone : ¬ ∃ reason, .error (.completion reason) ∈ heard.filterMap reply? := by
      rintro ⟨reason, hreason⟩
      rw [hheard] at hreason
      cases List.mem_singleton.1 hreason
    rw [iff_false_right hnone, mem_keys_succeed hflag hsucceed, hheard]
    simp

namespace Sample

def guide : Node := ⟨"guide", "llm", [("prompt", .text "Where to?"), ("outputVar", .text "reply"),
  ("extractSlots", .bool true)]⟩

def tour : Context := ⟨⟨"tour", "Tour", "", [guide], [], none⟩, "s1", "en", "http://tour"⟩

/-- An earlier completion failed. -/
def flaggedBefore : Slots := [("llmError", .text "down"), ("llmFailed", .bool true)]

def saying (output : String) : Script := { Script.empty with completions := [.ok output] }

def guided (output : String) : Except Fault Effect × List Exchange :=
  ((guide.execute tour flaggedBefore).run.recorded.run Script.answer (saying output)).1

theorem guided_heard (output : String) :
    (guided output).2 = [⟨.complete "Where to?" "en", .ok output⟩] := rfl

theorem guided_not_failed (output : String) : ¬ ∃ reason, Failed (guided output).2 reason := by
  rintro ⟨reason, h⟩
  rw [Failed, guided_heard] at h
  cases List.mem_singleton.1 h

theorem eq_of_guided_completed {output other : String} (h : Completed (guided output).2 other) :
    other = output := by
  rw [Completed, guided_heard] at h
  exact Except.ok.inj (List.mem_singleton.1 h)

def keysAfter (output : String) : Option (List String) :=
  (guided output).1.toOption.map fun effect => Mapping.keys effect.slots

theorem ok_of_keysAfter {output : String} {keys : List String}
    (h : keysAfter output = some keys) :
    ∃ effect, (guided output).1 = .ok effect ∧ Mapping.keys effect.slots = keys := by
  obtain ⟨effect, heffect, hkeys⟩ := Option.map_eq_some_iff.1 h
  cases hok : (guided output).1 with
  | error fault =>
      rw [hok] at heffect
      cases heffect
  | ok found =>
      rw [hok] at heffect
      cases heffect
      exact ⟨effect, rfl, hkeys⟩

/-- A completion with the slot `city`. -/
def rome : String :=
  "\x7b\"response\": \"Rome!\", \"slots\": \x7b\"city\": \"Rome\"\x7d\x7d"

/-- A completion with the flags of a failure. -/
def blame : String := "\x7b\"response\": \"Hello\", \"slots\": " ++
  "\x7b\"llmFailed\": true, \"llmError\": \"down\"\x7d\x7d"

end Sample

theorem rome_is_not_flagged :
    Sample.guide.kind? = some .llm ∧ ∃ effect, (Sample.guided Sample.rome).1 = .ok effect ∧
      Mapping.keys effect.slots = ["city", "reply"] ∧
      ("llmFailed" ∈ Mapping.keys effect.slots ↔
        ∃ reason, Failed (Sample.guided Sample.rome).2 reason) := by
  have hkeys : Sample.keysAfter Sample.rome = some ["city", "reply"] := by decide +kernel
  obtain ⟨effect, heffect, hkeys⟩ := Sample.ok_of_keysAfter hkeys
  have hread : Mapping.keys (read Sample.guide Sample.rome).slots = ["city"] := by decide +kernel
  have htruthful := flags_truthful_iff Sample.tour Sample.flaggedBefore
    (show Sample.guide.kind? = some .llm from rfl)
  have hflag : ("llmFailed" ∈ Mapping.keys effect.slots ↔
      ∃ reason, Failed (Sample.guided Sample.rome).2 reason) ↔
        ∀ output, Completed (Sample.guided Sample.rome).2 output →
          ¬ Names Sample.guide output "llmFailed" :=
    htruthful.run Script.answer (Sample.saying Sample.rome) effect heffect "llmFailed" (by decide)
  refine ⟨rfl, effect, heffect, hkeys, hflag.2 fun output houtput => ?_⟩
  rw [Sample.eq_of_guided_completed houtput, Names, hread]
  rintro (hname | hmem)
  · exact absurd (Value.text.inj hname) (by decide)
  · exact absurd hmem (by decide)

theorem blame_is_believed :
    Sample.guide.kind? = some .llm ∧ ∃ effect, (Sample.guided Sample.blame).1 = .ok effect ∧
      (∀ flag ∈ flags, flag ∈ Mapping.keys effect.slots) ∧
      ¬ ∃ reason, Failed (Sample.guided Sample.blame).2 reason := by
  have hkeys : Sample.keysAfter Sample.blame = some ["llmFailed", "llmError", "reply"] := by
    decide +kernel
  obtain ⟨effect, heffect, hkeys⟩ := Sample.ok_of_keysAfter hkeys
  refine ⟨rfl, effect, heffect, ?_, Sample.guided_not_failed Sample.blame⟩
  rw [hkeys]
  decide

end Flags

end Node.Llm

end Dialogue

/-!
The flags that an api node leaves behind and the edge by which it is left tell the same outcome,
whatever the flags were before, whatever the response brings and wherever the requests fail. Only
an api node that bears the empty id is left for the start of its scenario.
-/
namespace Dialogue.Node.Api

open Attempt

variable {context : Context} {node : Node} {slots : Slots} {effect : Effect}

theorem handleOf_ne (failed : Bool) : handleOf failed ≠ "" := by
  cases failed <;> decide

theorem next_empty_of_takes {handle : Option String} (hid : node.id = "")
    (h : effect.Takes context.scenario node handle) :
    effect.next = context.scenario.startNode? := by
  have hnext := h.2
  rw [hid, Scenario.next_empty] at hnext
  exact (Except.ok.inj hnext).symm

theorem isBehind_of_takes {failed : Bool} (hkind : node.kind? = some .api) (hid : node.id ≠ "")
    (hnode : context.scenario.bearer? node.id = some node)
    (h : effect.Takes context.scenario node (some (handleOf failed))) :
    context.scenario.IsBehind node.id (handleOf failed) effect.next := by
  have hfound := Scenario.node?_eq_some_iff.2 ⟨hid, hnode⟩
  have hnext := h.2
  rw [Scenario.next_handled hfound (by simp [hkind]) (by simp [isConditionBranch, hkind])
    (handleOf_ne failed)] at hnext
  exact Scenario.isBehind_of_follow hnext

/-- The flags always agree with each other. The edge agrees with them unless the node bears the
empty id, which leads to the start of the scenario. -/
theorem leaves_by_outcome_iff (context : Context) (slots : Slots)
    (hkind : node.kind? = some .api) :
    Ensures (fun effect => ∃ failed, Flagged failed effect.slots ∧ effect.waits = false ∧
      (context.scenario.bearer? node.id = some node →
        (context.scenario.IsBehind node.id (handleOf failed) effect.next ↔
          (node.id = "" →
            context.scenario.IsBehind "" (handleOf failed) context.scenario.startNode?))))
      (node.execute context slots) := by
  rw [Node.execute, hkind]
  refine (execute_flagged context node slots).mono ?_
  rintro effect ⟨failed, hflagged, htakes⟩
  refine ⟨failed, hflagged, htakes.1, fun hnode => ?_⟩
  by_cases hid : node.id = ""
  · rw [next_empty_of_takes hid htakes, hid]
    exact ⟨fun h _ => h, fun h => h rfl⟩
  · exact iff_of_true (isBehind_of_takes hkind hid hnode htakes) fun hempty => absurd hempty hid

namespace Sample

/-- A request whose response may name the flags as its slots. -/
def charge : Node := ⟨"charge", "api", [("method", .text "POST"), ("url", .text "https://e.com/p"),
  ("body", .text "one"), ("responseMapping", .list [
    .object [("path", .text "why"), ("slot", .text "apiError")],
    .object [("path", .text "bad"), ("slot", .text "apiFailed")]])]⟩

/-- A request that bears no id. -/
def unnamed : Node := ⟨"", "api", [("url", .text "https://e.com/p")]⟩

def thanks : Node := ⟨"thanks", "message", []⟩

def trouble : Node := ⟨"trouble", "message", []⟩

/-- An api node in front of a page for either outcome and of one without a handle. -/
def shop (call : Node) : Scenario where
  id := "shop"
  name := "Shop"
  description := ""
  nodes := [call, thanks, trouble, ⟨"lobby", "message", []⟩]
  edges := [⟨"e1", call.id, "lobby", none⟩, ⟨"e2", call.id, "thanks", some "onSuccess"⟩,
    ⟨"e3", call.id, "trouble", some "onError"⟩]
  start := none

/-- An earlier call went well. -/
def before : Slots := [("_lastApiRequestBody", .text "zero"), ("apiFailed", .bool false)]

def online (reply : Http.Response) : Script :=
  { Script.empty with routes := [⟨"POST", "https://e.com/p", ⟨.ok reply, 0⟩⟩,
      ⟨"GET", "https://e.com/p", ⟨.ok reply, 0⟩⟩] }

/-- What the call comes to if it is answered by `reply`. -/
def outcome (call : Node) (reply : Http.Response) : Except Fault Effect :=
  ((call.execute ⟨shop call, "s1", "en", "http://shop"⟩ before).run.run Script.answer
    (online reply)).1

end Sample

theorem refused_charge_leaves_by_error :
    Sample.charge.kind? = some .api ∧ (Sample.shop Sample.charge).defects = [] ∧
      ∃ effect, Sample.outcome Sample.charge ⟨500, "no"⟩ = .ok effect ∧
        effect.slots = [("apiFailed", .bool true),
          ("apiError", .text "API request failed with status 500. Body: no")] ∧
        effect.next = some Sample.trouble ∧
        (Sample.shop Sample.charge).IsBehind "charge" "onError" effect.next := by
  have houtcome : Sample.outcome Sample.charge ⟨500, "no"⟩ = .ok (.goTo (some Sample.trouble)
      [("apiFailed", .bool true),
        ("apiError", .text "API request failed with status 500. Body: no")] []) := rfl
  have hleaves := leaves_by_outcome_iff ⟨Sample.shop Sample.charge, "s1", "en", "http://shop"⟩
    Sample.before (show Sample.charge.kind? = some .api from rfl)
  obtain ⟨failed, hflagged, -, hway⟩ :=
    hleaves.run Script.answer (Sample.online ⟨500, "no"⟩) _ houtcome
  obtain rfl : true = failed := Value.bool.inj (Option.some.inj hflagged.flag)
  refine ⟨rfl, Scenario.defects_eq_nil_iff.2 (by decide), _, houtcome, rfl, rfl, ?_⟩
  exact (hway rfl).2 nofun

/-- The call without an id is the start of its scenario, so that it leads to itself. -/
theorem unnamed_call_starts_over :
    Sample.unnamed.kind? = some .api ∧ (Sample.shop Sample.unnamed).defects = [] ∧
      ∃ effect, Sample.outcome Sample.unnamed ⟨200, ""⟩ = .ok effect ∧
        Flagged false effect.slots ∧
        ¬ (Sample.shop Sample.unnamed).IsBehind "" "onSuccess" effect.next := by
  refine ⟨rfl, Scenario.defects_eq_nil_iff.2 (by decide), _, rfl, ⟨rfl, rfl, nofun⟩, ?_⟩
  rintro ⟨found, hfound, hnext⟩
  obtain rfl := Option.some.inj hnext
  exact absurd (congrArg (Option.map Node.id) hfound) (by decide)

end Dialogue.Node.Api
