import Dialogue.Node.Execute
import Dialogue.Proofs.Scenario.Graph
/-!
Where executing a node leads: a node that waits is shown as itself, all others lead to a node of
their scenario or to its end.
-/
namespace Dialogue.Node

open Attempt

variable {context : Context} {node : Node} {slots : Slots} {effect : Effect}

/-- The effect waits at `node` itself, or goes on at a node of the scenario. -/
def Effect.Leads (scenario : Scenario) (node : Node) (effect : Effect) : Prop :=
  match effect.waits with
  | true => ∀ waiting ∈ effect.next, waiting.id = node.id ∧ waiting.kind? = node.kind?
  | false => ∀ next ∈ effect.next, next ∈ scenario.nodes

theorem leads_waitAt {scenario : Scenario} {waiting : Node} (hid : waiting.id = node.id)
    (hkind : waiting.kind? = node.kind?) : (Effect.waitAt waiting slots).Leads scenario node := by
  rintro _ ⟨⟩
  exact ⟨hid, hkind⟩

theorem leads_end {scenario : Scenario} {events : List Event} :
    (Effect.goTo none slots events).Leads scenario node := by
  rintro _ ⟨⟩

theorem leads_leave {handle : Option String} {events : List Event}
    (h : leave context node handle slots events = .ok effect) :
    effect.Leads context.scenario node := by
  obtain ⟨next, hnext, h⟩ := exists_of_bind_ok h
  cases h
  rintro found rfl
  exact Scenario.next_mem hnext

theorem leads_leaveWith {handle : Option String} {draft : Slot.Draft}
    (h : leaveWith context node handle draft = .ok effect) :
    effect.Leads context.scenario node := by
  obtain ⟨next, hnext, h⟩ := exists_of_bind_ok h
  obtain ⟨_, -, h⟩ := exists_of_bind_ok h
  cases h
  rintro found rfl
  exact Scenario.next_mem hnext

theorem leads_iframe (h : executeIframe context node slots = .ok effect) :
    effect.Leads context.scenario node := by
  unfold executeIframe at h
  simp only at h
  split at h
  · cases h
    exact leads_waitAt rfl rfl
  · obtain ⟨marked, -, h⟩ := exists_of_bind_ok h
    cases h
    exact leads_waitAt rfl rfl

theorem leads_branch (h : executeBranch context node slots = .ok effect) :
    effect.Leads context.scenario node := by
  unfold executeBranch at h
  split at h
  · exact leads_leave h
  · cases h
    exact leads_waitAt rfl rfl

theorem leads_toast (h : executeToast context node slots = .ok effect) :
    effect.Leads context.scenario node := by
  obtain ⟨_, -, h⟩ := exists_of_bind_ok h
  obtain ⟨_, -, h⟩ := exists_of_bind_ok h
  exact leads_leave h

theorem leads_link (h : executeLink context node slots = .ok effect) :
    effect.Leads context.scenario node := by
  unfold executeLink at h
  simp only at h
  split at h
  · obtain ⟨_, -, h⟩ := exists_of_bind_ok h
    exact leads_leave h
  · exact leads_leave h

theorem leads_setSlot (h : executeSetSlot context node slots = .ok effect) :
    effect.Leads context.scenario node := by
  unfold executeSetSlot at h
  simp only at h
  split at h
  · obtain ⟨_, -, h⟩ := exists_of_bind_ok h
    obtain ⟨_, -, h⟩ := exists_of_bind_ok h
    exact leads_leaveWith h
  · obtain ⟨_, -, h⟩ := exists_of_bind_ok h
    obtain ⟨_, -, h⟩ := exists_of_bind_ok h
    exact leads_leaveWith h

theorem leads_api (context : Context) (node : Node) (slots : Slots) :
    Ensures (Effect.Leads context.scenario node) (Api.execute context node slots) := by
  refine ensures_bind (ensures_of_forall (fun outcome => ?_) _)
  split
  · exact ensures_of fun _ => leads_leaveWith
  · exact ensures_of fun _ => leads_leave
  · exact ensures_of fun _ => leads_leave
  · exact ensures_throw _

theorem leads_llmSucceed {output : String} (h : Llm.succeed context node slots output = .ok effect) :
    effect.Leads context.scenario node := by
  unfold Llm.succeed at h
  simp only at h
  split at h
  · obtain ⟨_, -, h⟩ := exists_of_bind_ok h
    exact leads_leaveWith h
  · exact leads_leaveWith h

theorem leads_llmFail {reason : String} (h : Llm.fail context node slots reason = .ok effect) :
    effect.Leads context.scenario node := by
  obtain ⟨next, hnext, h⟩ := exists_of_bind_ok h
  cases next with
  | none =>
      cases h
      rintro _ ⟨⟩
  | some next =>
      cases h
      rintro _ ⟨⟩
      exact Scenario.follow_mem hnext

theorem leads_llm (context : Context) (node : Node) (slots : Slots) :
    Ensures (Effect.Leads context.scenario node) (Llm.execute context node slots) := by
  refine ensures_bind (ensures_of_forall (fun prompt => ?_) _)
  refine ensures_bind (ensures_of_forall (fun outcome => ?_) _)
  split
  · exact ensures_of fun _ => leads_llmSucceed
  · exact ensures_of fun _ => leads_llmFail
  · exact ensures_throw _

theorem leads_delay (context : Context) (node : Node) (slots : Slots) :
    Ensures (Effect.Leads context.scenario node) (executeDelay context node slots) := by
  have hleave : Ensures (Effect.Leads context.scenario node)
      (Attempt.of (leave context node none slots [])) := ensures_of fun _ => leads_leave
  refine ensures_bind (ensures_of_forall (fun duration => ?_) _)
  split
  · split
    · exact ensures_bind (ensures_of_forall (fun _ => hleave) _)
    · exact hleave
  · exact ensures_bind (ensures_pure hleave)

theorem execute_leads (context : Context) (node : Node) (slots : Slots) :
    Ensures (Effect.Leads context.scenario node) (node.execute context slots) := by
  have hself : Ensures (Effect.Leads context.scenario node)
      (Attempt.of (.ok (.waitAt node slots))) := by
    refine ensures_of ?_
    rintro _ ⟨⟩
    exact leads_waitAt rfl rfl
  unfold execute
  cases node.kind? with
  | none =>
      refine ensures_of ?_
      rintro _ ⟨⟩
      exact leads_end
  | some kind =>
      cases kind with
      | message => exact hself
      | slotfilling => exact hself
      | form => exact hself
      | iframe => exact ensures_of fun _ => leads_iframe
      | branch => exact ensures_of fun _ => leads_branch
      | toast => exact ensures_of fun _ => leads_toast
      | link => exact ensures_of fun _ => leads_link
      | setSlot => exact ensures_of fun _ => leads_setSlot
      | api => exact leads_api context node slots
      | llm => exact leads_llm context node slots
      | delay => exact leads_delay context node slots

end Dialogue.Node

/-!
The edge by which a node is left. An api node leaves by its outcome, an llm node that failed by its
error edge and every other node by no handle. A node that waits is not left by its execution.
-/

namespace Dialogue.Node

open Attempt

/-- Nodes that only show something. -/
def isDisplay (node : Node) : Bool := node.kind? = some .message || node.kind? = some .iframe

/-- The node behind `node`, once that has left the slots as they are. -/
inductive WayOn (scenario : Scenario) (node : Node) (slots : Slots) : Node → Prop where
  | plain {next : Node} (kind : node.kind? ≠ some .api)
      (leads : scenario.next (some node.id) none slots = .ok (some next)) :
      WayOn scenario node slots next
  | outcome {next : Node} (failed : Bool) (kind : node.kind? = some .api)
      (flagged : Mapping.get? slots "apiFailed" = some (.bool failed))
      (leads : scenario.next (some node.id) (some (if failed then "onError" else "onSuccess"))
        slots = .ok (some next)) :
      WayOn scenario node slots next
  | recovery {next : Node} (kind : node.kind? = some .llm)
      (flagged : Mapping.get? slots "llmFailed" = some (.bool true))
      (leads : scenario.follow node.id "onError" = .ok (some next)) :
      WayOn scenario node slots next

/-- Of a node that waits, those that do not need the user are the displays. -/
def Effect.Directs (scenario : Scenario) (node : Node) (effect : Effect) : Prop :=
  match effect.waits with
  | true => node.waitsForUser = !node.isDisplay
  | false => ∀ next ∈ effect.next, WayOn scenario node effect.slots next

/-- The effect goes on along the edge for `handle`, under the slots that it leaves. -/
def Effect.Takes (scenario : Scenario) (node : Node) (handle : Option String) (effect : Effect) :
    Prop :=
  effect.waits = false ∧ scenario.next (some node.id) handle effect.slots = .ok effect.next

variable {context : Context} {scenario : Scenario} {node : Node} {slots : Slots} {effect : Effect}
  {handle : Option String}

theorem isDisplay_iff :
    node.isDisplay = true ↔ node.kind? = some .message ∨ node.kind? = some .iframe := by
  simp [isDisplay]

theorem kind_of_isDisplay (h : node.isDisplay = true) :
    node.kind? ≠ some .slotfilling ∧ node.kind? ≠ some .api := by
  rcases isDisplay_iff.1 h with hkind | hkind <;> simp [hkind]

theorem takes_leave {events : List Event}
    (h : leave context node handle slots events = .ok effect) :
    effect.Takes context.scenario node handle ∧ effect.slots = slots := by
  obtain ⟨next, hnext, h⟩ := exists_of_bind_ok h
  cases h
  exact ⟨⟨rfl, hnext⟩, rfl⟩

theorem takes_leaveWith {draft : Slot.Draft}
    (h : leaveWith context node handle draft = .ok effect) :
    effect.Takes context.scenario node handle ∧ effect.slots = draft.slots := by
  obtain ⟨next, hnext, h⟩ := exists_of_bind_ok h
  obtain ⟨finished, hfinish, h⟩ := exists_of_bind_ok h
  cases h
  unfold Slot.Draft.finish at hfinish
  split at hfinish
  · cases hfinish
  · cases hfinish
    exact ⟨⟨rfl, hnext⟩, rfl⟩

theorem Effect.Takes.directs (h : effect.Takes scenario node none)
    (hkind : node.kind? ≠ some .api) : effect.Directs scenario node := by
  obtain ⟨hwaits, hnext⟩ := h
  rw [Effect.Directs, hwaits]
  intro next hfound
  exact .plain hkind (hnext.trans (congrArg _ hfound))

theorem Effect.Takes.directs_outcome (failed : Bool)
    (h : effect.Takes scenario node (some (if failed then "onError" else "onSuccess")))
    (hkind : node.kind? = some .api)
    (hflagged : Mapping.get? effect.slots "apiFailed" = some (.bool failed)) :
    effect.Directs scenario node := by
  obtain ⟨hwaits, hnext⟩ := h
  rw [Effect.Directs, hwaits]
  intro next hfound
  exact .outcome failed hkind hflagged (hnext.trans (congrArg _ hfound))

theorem directs_waitAt {waiting : Node} (h : node.waitsForUser = !node.isDisplay) :
    (Effect.waitAt waiting slots).Directs scenario node := h

theorem directs_iframe (hkind : node.kind? = some .iframe)
    (h : executeIframe context node slots = .ok effect) :
    effect.Directs context.scenario node := by
  have hdisplay : node.waitsForUser = !node.isDisplay := by simp [waitsForUser, isDisplay, hkind]
  unfold executeIframe at h
  simp only at h
  split at h
  · cases h
    exact directs_waitAt hdisplay
  · obtain ⟨marked, -, h⟩ := exists_of_bind_ok h
    cases h
    exact directs_waitAt hdisplay

theorem directs_branch (hkind : node.kind? = some .branch)
    (h : executeBranch context node slots = .ok effect) :
    effect.Directs context.scenario node := by
  unfold executeBranch at h
  split at h
  · exact (takes_leave h).1.directs (by simp [hkind])
  · rename_i hcondition
    cases h
    exact directs_waitAt (by simp [waitsForUser, isDisplay, hkind, hcondition])

theorem takes_toast (h : executeToast context node slots = .ok effect) :
    effect.Takes context.scenario node none := by
  obtain ⟨_, -, h⟩ := exists_of_bind_ok h
  obtain ⟨_, -, h⟩ := exists_of_bind_ok h
  exact (takes_leave h).1

theorem takes_link (h : executeLink context node slots = .ok effect) :
    effect.Takes context.scenario node none := by
  unfold executeLink at h
  simp only at h
  split at h
  · obtain ⟨_, -, h⟩ := exists_of_bind_ok h
    exact (takes_leave h).1
  · exact (takes_leave h).1

theorem takes_setSlot (h : executeSetSlot context node slots = .ok effect) :
    effect.Takes context.scenario node none := by
  unfold executeSetSlot at h
  simp only at h
  split at h
  · obtain ⟨_, -, h⟩ := exists_of_bind_ok h
    obtain ⟨_, -, h⟩ := exists_of_bind_ok h
    exact (takes_leaveWith h).1
  · obtain ⟨_, -, h⟩ := exists_of_bind_ok h
    obtain ⟨_, -, h⟩ := exists_of_bind_ok h
    exact (takes_leaveWith h).1

namespace Api

def handleOf (failed : Bool) : String := if failed then "onError" else "onSuccess"

/-- The slots tell whether the requests of an api node failed. A failure has its reason, and no body
is kept of it. -/
structure Flagged (failed : Bool) (slots : Slots) : Prop where
  flag : Mapping.get? slots "apiFailed" = some (.bool failed)
  error : (Mapping.get? slots "apiError").isSome = failed
  body : failed = true → Mapping.get? slots Prepared.bodySlot = none

theorem succeed_flagged {changes : Slot.Draft}
    (h : succeed context node slots changes = .ok effect) :
    Flagged false effect.slots ∧ effect.Takes context.scenario node (some (handleOf false)) := by
  obtain ⟨htakes, hslots⟩ := takes_leaveWith h
  refine ⟨⟨?_, ?_, nofun⟩, htakes⟩
  · simp [hslots]
  · simp [hslots]

/-- The body of an earlier request is gone before the flags are set. -/
theorem fail_flagged {reason : String} (hbody : Mapping.get? slots Prepared.bodySlot = none)
    (h : fail context node slots reason = .ok effect) :
    Flagged true effect.slots ∧ effect.Takes context.scenario node (some (handleOf true)) := by
  obtain ⟨htakes, hslots⟩ := takes_leave h
  refine ⟨⟨?_, ?_, fun _ => ?_⟩, htakes⟩
  · simp [hslots]
  · simp [hslots]
  · rw [hslots, Mapping.get?_set, Mapping.get?_set]
    exact hbody

/-- The edge by which an api node is left is that of the outcome told in the slots. -/
theorem execute_flagged (context : Context) (node : Node) (slots : Slots) :
    Ensures (fun effect => ∃ failed, Flagged failed effect.slots ∧
      effect.Takes context.scenario node (some (handleOf failed))) (execute context node slots) := by
  have hbody : Mapping.get? (Mapping.erase slots Prepared.bodySlot) Prepared.bodySlot = none := by
    simp
  refine ensures_bind (ensures_of_forall (fun outcome => ?_) _)
  split
  · exact ensures_of fun _ h => ⟨false, succeed_flagged h⟩
  · exact ensures_of fun _ h => ⟨true, fail_flagged hbody h⟩
  · exact ensures_of fun _ h => ⟨true, fail_flagged hbody h⟩
  · exact ensures_throw _

end Api

theorem directs_api (hkind : node.kind? = some .api) :
    Ensures (Effect.Directs context.scenario node) (Api.execute context node slots) :=
  (Api.execute_flagged context node slots).mono fun _ ⟨failed, hflagged, htakes⟩ =>
    htakes.directs_outcome failed hkind hflagged.flag

theorem takes_llmSucceed {output : String} (h : Llm.succeed context node slots output = .ok effect) :
    effect.Takes context.scenario node none := by
  unfold Llm.succeed at h
  simp only at h
  split at h
  · obtain ⟨_, -, h⟩ := exists_of_bind_ok h
    exact (takes_leaveWith h).1
  · exact (takes_leaveWith h).1

theorem directs_llmFail (hkind : node.kind? = some .llm) {reason : String}
    (h : Llm.fail context node slots reason = .ok effect) :
    effect.Directs context.scenario node := by
  obtain ⟨next, hnext, h⟩ := exists_of_bind_ok h
  cases next with
  | none =>
      cases h
      rintro _ ⟨⟩
  | some next =>
      cases h
      rintro _ ⟨⟩
      exact .recovery hkind (by simp [Effect.goTo]) hnext

theorem directs_llm (hkind : node.kind? = some .llm) :
    Ensures (Effect.Directs context.scenario node) (Llm.execute context node slots) := by
  refine ensures_bind (ensures_of_forall (fun prompt => ?_) _)
  refine ensures_bind (ensures_of_forall (fun outcome => ?_) _)
  split
  · exact ensures_of fun _ h => (takes_llmSucceed h).directs (by simp [hkind])
  · exact ensures_of fun _ => directs_llmFail hkind
  · exact ensures_throw _

theorem takes_delay :
    Ensures (Effect.Takes context.scenario node none) (executeDelay context node slots) := by
  have hleave : Ensures (Effect.Takes context.scenario node none)
      (Attempt.of (leave context node none slots [])) := ensures_of fun _ h => (takes_leave h).1
  refine ensures_bind (ensures_of_forall (fun duration => ?_) _)
  split
  · split
    · exact ensures_bind (ensures_of_forall (fun _ => hleave) _)
    · exact hleave
  · exact ensures_bind (ensures_pure hleave)

theorem execute_directs (context : Context) (node : Node) (slots : Slots) :
    Ensures (Effect.Directs context.scenario node) (node.execute context slots) := by
  have hself (h : node.waitsForUser = !node.isDisplay) :
      Ensures (Effect.Directs context.scenario node) (Attempt.of (.ok (.waitAt node slots))) := by
    refine ensures_of ?_
    rintro _ ⟨⟩
    exact directs_waitAt h
  unfold execute
  cases hkind : node.kind? with
  | none =>
      refine ensures_of ?_
      rintro _ ⟨⟩ _ ⟨⟩
  | some kind =>
      cases kind with
      | message => exact hself (by simp [waitsForUser, isDisplay, hkind])
      | slotfilling => exact hself (by simp [waitsForUser, isDisplay, hkind])
      | form => exact hself (by simp [waitsForUser, isDisplay, hkind])
      | iframe => exact ensures_of fun _ => directs_iframe hkind
      | branch => exact ensures_of fun _ => directs_branch hkind
      | toast => exact ensures_of fun _ h => (takes_toast h).directs (by simp [hkind])
      | link => exact ensures_of fun _ h => (takes_link h).directs (by simp [hkind])
      | setSlot => exact ensures_of fun _ h => (takes_setSlot h).directs (by simp [hkind])
      | api => exact directs_api hkind
      | llm => exact directs_llm hkind
      | delay => exact takes_delay.mono fun _ h => h.directs (by simp [hkind])

end Dialogue.Node
