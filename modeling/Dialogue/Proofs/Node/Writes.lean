import Dialogue.Node.Execute
import Dialogue.Proofs.Program
/-!
What an llm node asks the world for. It asks for one completion at most, and what it comes to is
settled by the answer.
-/
namespace Dialogue.Node

/-- What came of a completion that was asked for. -/
def reply? : Exchange → Option (Except Fault String)
  | ⟨.complete _ _, output⟩ => some output
  | ⟨.stream _ _, chunks⟩ => some (Except.map String.join chunks)
  | _ => none

/-- A completion that was asked for failed for a reason. -/
def Failed (heard : List Exchange) (reason : String) : Prop :=
  .error (.completion reason) ∈ heard.filterMap reply?

/-- A completion that was asked for came out. -/
def Completed (heard : List Exchange) (output : String) : Prop :=
  .ok output ∈ heard.filterMap reply?

namespace Llm

open Attempt

/-- The slots as a failed completion leaves them. -/
def flagged (slots : Slots) (reason : String) : Slots :=
  Mapping.set (Mapping.set slots "llmError" (.text reason)) "llmFailed" (.bool true)

/-- What the node makes of its completion. -/
def settle (context : Context) (node : Node) (slots : Slots) :
    Except Fault String → Except Fault Effect
  | .ok output => succeed context node slots output
  | .error (.completion reason) => fail context node slots reason
  | .error fault => .error fault

/-- The prompt cannot be written, and nothing is asked for; or one completion is asked for, and it
settles what the node comes to. -/
inductive Settles (context : Context) (node : Node) (slots : Slots) :
    Except Fault Effect → List Exchange → Prop where
  | unasked (fault : Fault) : Settles context node slots (.error fault) []
  | asked {exchange : Exchange} {answer : Except Fault String}
      (replied : reply? exchange = some answer) :
      Settles context node slots (settle context node slots answer) [exchange]

variable {context : Context} {node : Node} {slots : Slots} {effect : Effect} {reason : String}
  {outcome : Except Fault Effect} {heard : List Exchange}

theorem slots_fail (h : fail context node slots reason = .ok effect) :
    effect.slots = flagged slots reason := by
  obtain ⟨next, -, h⟩ := exists_of_bind_ok h
  cases next with
  | none =>
      cases h
      rfl
  | some next =>
      cases h
      rfl

theorem complete_replied (streaming : Bool) (prompt language : String) :
    (complete streaming prompt language).recorded.Always fun (answer, heard) =>
      ∃ exchange, heard = [exchange] ∧ reply? exchange = some answer := by
  cases streaming with
  | true => exact fun chunks => ⟨⟨.stream prompt language, chunks⟩, rfl, rfl⟩
  | false => exact fun answer => ⟨⟨.complete prompt language, answer⟩, rfl, rfl⟩

theorem execute_settles (context : Context) (node : Node) (slots : Slots) :
    (execute context node slots).run.recorded.Always fun (outcome, heard) =>
      Settles context node slots outcome heard := by
  simp only [execute]
  cases Template.fill ((Mapping.get? node.data "prompt").getD (.text "")) (.object slots) false with
  | error fault => exact .unasked fault
  | ok prompt =>
      simp only [Attempt.of_ok_bind, ExceptT.run_bind_lift]
      refine Program.always_recorded_bind.2 ((complete_replied _ _ _).mono ?_)
      rintro ⟨answer, heard⟩ ⟨exchange, rfl, hreplied⟩
      -- The answer decides which way the node goes on; none of the ways asks for more.
      cases answer with
      | ok output => exact .asked hreplied
      | error fault => cases fault <;> exact .asked hreplied

theorem Settles.eq_fail (h : Settles context node slots outcome heard) (hfailed : Failed heard reason) :
    outcome = fail context node slots reason := by
  cases h with
  | unasked fault => cases hfailed
  | asked hreplied =>
      rw [Failed, List.filterMap_cons_some hreplied] at hfailed
      obtain rfl := List.mem_singleton.1 hfailed
      rfl

theorem Settles.of_ok (h : Settles context node slots (.ok effect) heard) :
    (∃ reason, heard.filterMap reply? = [.error (.completion reason)] ∧
      fail context node slots reason = .ok effect) ∨
    ∃ output, heard.filterMap reply? = [.ok output] ∧
      succeed context node slots output = .ok effect := by
  generalize houtcome : Except.ok effect = outcome at h
  cases h with
  | unasked fault => cases houtcome
  | @asked exchange answer hreplied =>
      rw [List.filterMap_cons_some hreplied]
      cases answer with
      | ok output => exact .inr ⟨output, rfl, rfl⟩
      | error fault =>
          cases fault with
          | completion reason => exact .inl ⟨reason, rfl, rfl⟩
          | _ => cases houtcome

end Llm

end Dialogue.Node

/-!
Which slots executing a node writes: those it names, and those in which api and llm nodes leave what
became of them. All other slots are left as they are.
-/

namespace Dialogue

namespace Node

open Attempt

/-- Executing the node may give the slot `k` a value. -/
def Writes (node : Node) (k : String) : Prop :=
  match node.kind? with
  | some .setSlot => ∃ assignments, (node.get "assignments").elements = .ok assignments ∧
      ∃ assignment ∈ assignments, assignment.field "key" = .ok (some (.text k))
  | some .api => k = Prepared.bodySlot ∨ k = "apiError" ∨ k = "apiFailed" ∨
      ∃ configs fields entries, Api.configs node = .ok configs ∧ Value.object fields ∈ configs ∧
        (Prepared.fieldOf fields "responseMapping").elements = .ok entries ∧
        ∃ entry ∈ entries, entry.field "slot" = .ok (some (.text k))
  | some .llm => k = "llmError" ∨ k = "llmFailed" ∨ node.get "outputVar" = .text k ∨
      (node.get "extractSlots").truthy = true
  | _ => False

/-- The completion that an exchange with the world has brought. -/
def completion? : Exchange → Option String
  | ⟨.complete _ _, output⟩ => Except.toOption output
  | ⟨.stream _ _, chunks⟩ => (Except.toOption chunks).map String.join
  | _ => none

/-- Executing the node may give the slot `k` a value if it hears this. An llm node that extracts
slots only writes those that the completion brings. -/
def WritesOn (node : Node) (heard : List Exchange) (k : String) : Prop :=
  match node.kind? with
  | some .llm => k = "llmError" ∨ k = "llmFailed" ∨ node.get "outputVar" = .text k ∨
      (node.get "extractSlots").truthy = true ∧
        ∃ output ∈ heard.filterMap completion?, k ∈ Mapping.keys (Slot.extract output).slots
  | _ => node.Writes k

/-- After, the slot `k` holds what it held before, if anything. -/
def Keeps (k : String) (before after : Slots) : Prop :=
  Mapping.get? after k = Mapping.get? before k

section Slots

variable {k name : String} {before after slots : Slots} {v : Value}

theorem keeps_refl (k : String) (slots : Slots) : Keeps k slots slots := rfl

theorem Keeps.trans {last : Slots} (h : Keeps k before after) (ht : Keeps k after last) :
    Keeps k before last := Eq.trans ht h

theorem keeps_set (h : name ≠ k) : Keeps k slots (Mapping.set slots name v) := by
  rw [Keeps, Mapping.get?_set, if_neg h]

theorem keeps_erase (h : name ≠ k) : Keeps k slots (Mapping.erase slots name) := by
  rw [Keeps, Mapping.get?_erase, if_neg h]

theorem keeps_update {changes : Slots} (h : k ∉ Mapping.keys changes) :
    Keeps k slots (Mapping.update slots changes) := by
  induction changes generalizing slots with
  | nil => exact keeps_refl k slots
  | cons entry rest ih =>
      have hentry : entry.1 ≠ k := fun heq => h (heq ▸ .head _)
      exact (keeps_set hentry).trans (ih fun hrest => h (.tail _ hrest))

/-- Changes that leave `k` unset. -/
theorem keeps_merge {changes : Slots} (h : Keeps k [] changes) :
    Keeps k slots (Mapping.update slots changes) :=
  keeps_update (Mapping.get?_eq_none_iff.1 h)

theorem keeps_store {draft stored : Slot.Draft} {named : Value}
    (h : draft.store named v = .ok stored) (hne : named ≠ .text k) :
    Keeps k draft.slots stored.slots := by
  unfold Slot.Draft.store at h
  split at h
  · cases h
    exact keeps_set fun heq => hne (congrArg Value.text heq)
  · split at h
    · cases h
      exact keeps_refl k _
    · cases h

/-- What each step keeps up holds after the last one. -/
theorem foldlM_invariant {α : Type} {step : Slot.Draft → α → Except Fault Slot.Draft} {as : List α}
    {P : Slot.Draft → Prop}
    (hstep : ∀ a ∈ as, ∀ draft stored, P draft → step draft a = .ok stored → P stored)
    {draft stored : Slot.Draft} (hdraft : P draft) (h : as.foldlM step draft = .ok stored) :
    P stored := by
  induction as generalizing draft with
  | nil =>
      cases h
      exact hdraft
  | cons a rest ih =>
      obtain ⟨next, hnext, h⟩ := exists_of_bind_ok h
      exact ih (fun b hb => hstep b (.tail a hb)) (hstep a (.head rest) _ _ hdraft hnext) h

theorem foldlM_keeps {α : Type} {step : Slot.Draft → α → Except Fault Slot.Draft} {as : List α}
    (hstep : ∀ a ∈ as, ∀ draft stored, step draft a = .ok stored →
      Keeps k draft.slots stored.slots)
    {draft stored : Slot.Draft} (h : as.foldlM step draft = .ok stored) :
    Keeps k draft.slots stored.slots :=
  foldlM_invariant (P := fun stored => Keeps k draft.slots stored.slots)
    (fun a ha before after hkept hafter => hkept.trans (hstep a ha before after hafter))
    (keeps_refl k draft.slots) h

end Slots

variable {context : Context} {node : Node} {slots : Slots} {effect : Effect} {k : String}

theorem slots_leave {handle : Option String} {events : List Event}
    (h : leave context node handle slots events = .ok effect) : effect.slots = slots := by
  obtain ⟨_, -, h⟩ := exists_of_bind_ok h
  cases h
  rfl

theorem slots_leaveWith {handle : Option String} {draft : Slot.Draft}
    (h : leaveWith context node handle draft = .ok effect) : effect.slots = draft.slots := by
  obtain ⟨_, -, h⟩ := exists_of_bind_ok h
  obtain ⟨kept, hfinish, h⟩ := exists_of_bind_ok h
  cases h
  unfold Slot.Draft.finish at hfinish
  split at hfinish
  · cases hfinish
  · cases hfinish
    rfl

/-- The name that an entry gives to a slot, null if it gives none. -/
theorem field_named {entry : Value} {field : String} {found : Option Value}
    (h : entry.field field = .ok found) (hnot : entry.field field ≠ .ok (some (.text k))) :
    found.getD .null ≠ .text k := by
  cases found with
  | none => exact nofun
  | some v => exact fun heq => hnot (h.trans (congrArg _ (congrArg _ heq)))

theorem slots_iframe (h : executeIframe context node slots = .ok effect) :
    effect.slots = slots := by
  unfold executeIframe at h
  simp only at h
  split at h
  · cases h
    rfl
  · obtain ⟨marked, -, h⟩ := exists_of_bind_ok h
    cases h
    rfl

theorem slots_branch (h : executeBranch context node slots = .ok effect) :
    effect.slots = slots := by
  unfold executeBranch at h
  split at h
  · exact slots_leave h
  · cases h
    rfl

theorem slots_toast (h : executeToast context node slots = .ok effect) : effect.slots = slots := by
  obtain ⟨_, -, h⟩ := exists_of_bind_ok h
  obtain ⟨_, -, h⟩ := exists_of_bind_ok h
  exact slots_leave h

theorem slots_link (h : executeLink context node slots = .ok effect) : effect.slots = slots := by
  unfold executeLink at h
  simp only at h
  split at h
  · obtain ⟨_, -, h⟩ := exists_of_bind_ok h
    exact slots_leave h
  · exact slots_leave h

theorem assign_keeps {assignment : Value} {draft stored : Slot.Draft}
    (h : assign draft assignment = .ok stored)
    (hnot : assignment.field "key" ≠ .ok (some (.text k))) :
    Keeps k draft.slots stored.slots := by
  obtain ⟨found, hfield, h⟩ := exists_of_bind_ok h
  simp only at h
  split at h
  · cases h
    exact keeps_refl k _
  · obtain ⟨written, -, h⟩ := exists_of_bind_ok h
    split at h <;>
    · obtain ⟨filled, -, h⟩ := exists_of_bind_ok h
      obtain ⟨coerced, -, h⟩ := exists_of_bind_ok h
      exact keeps_store h (field_named hfield hnot)

theorem setSlot_keeps (hkind : node.kind? = some .setSlot) (hnot : ¬ node.Writes k)
    (h : executeSetSlot context node slots = .ok effect) : Keeps k slots effect.slots := by
  unfold executeSetSlot at h
  simp only at h
  split at h
  · obtain ⟨items, hitems, h⟩ := exists_of_bind_ok h
    obtain ⟨draft, hdraft, h⟩ := exists_of_bind_ok h
    rw [slots_leaveWith h]
    refine foldlM_keeps (fun assignment hmem before after hassign => ?_) hdraft
    refine assign_keeps hassign fun hkey => hnot ?_
    rw [Writes, hkind]
    exact ⟨items, hitems, assignment, hmem, hkey⟩
  · obtain ⟨items, hitems, h⟩ := exists_of_bind_ok h
    cases hitems
    obtain ⟨draft, hdraft, h⟩ := exists_of_bind_ok h
    cases hdraft
    rw [slots_leaveWith h]
    exact keeps_refl k slots

section Api

open Prepared

theorem body_keeps {method : String} {raw : Value} {body : Value × Slots}
    (h : Prepared.body method raw slots = .ok body) (hk : k ≠ bodySlot) : Keeps k [] body.2 := by
  unfold Prepared.body at h
  split at h
  · cases h
    exact keeps_refl k []
  · obtain ⟨filled, -, h⟩ := exists_of_bind_ok h
    simp only at h
    split at h <;>
    · obtain ⟨text, -, h⟩ := exists_of_bind_ok h
      cases h
      exact keeps_set hk.symm

theorem ofConfig_keeps {base : String} {config : Value} {prepared : Prepared}
    (h : ofConfig base slots config = .ok prepared) (hk : k ≠ bodySlot) :
    Keeps k [] prepared.written ∧ ∃ fields, config = .object fields ∧
      prepared.mapping = fieldOf fields "responseMapping" := by
  unfold ofConfig at h
  split at h
  · rename_i fields
    obtain ⟨_, -, h⟩ := exists_of_bind_ok h
    obtain ⟨_, -, h⟩ := exists_of_bind_ok h
    obtain ⟨_, -, h⟩ := exists_of_bind_ok h
    obtain ⟨body, hbody, h⟩ := exists_of_bind_ok h
    cases h
    exact ⟨body_keeps hbody hk, fields, rfl, rfl⟩
  · cases h

theorem storePart_keeps {payload entry : Value} {draft stored : Slot.Draft}
    (h : storePart payload draft entry = .ok stored)
    (hnot : entry.field "slot" ≠ .ok (some (.text k))) : Keeps k draft.slots stored.slots := by
  obtain ⟨found, hfield, h⟩ := exists_of_bind_ok h
  simp only at h
  split at h
  · cases h
    exact keeps_refl k _
  · obtain ⟨path, -, h⟩ := exists_of_bind_ok h
    obtain ⟨part, -, h⟩ := exists_of_bind_ok h
    split at h
    · cases h
      exact keeps_refl k _
    · exact keeps_store h (field_named hfield hnot)

theorem receive_keeps {prepared : Prepared} {response : Http.Response} {draft : Slot.Draft}
    (h : prepared.receive response = .ok draft)
    (hnot : ∀ entries, prepared.mapping.elements = .ok entries →
      ∀ entry ∈ entries, entry.field "slot" ≠ .ok (some (.text k))) :
    Keeps k prepared.written draft.slots := by
  unfold receive at h
  cases hok : response.ok with
  | false =>
      simp only [hok, Bool.not_false, ↓reduceIte] at h
      cases h
  | true =>
      simp only [hok, Bool.not_true, Bool.false_eq_true, ↓reduceIte] at h
      split at h
      · cases h
        exact keeps_refl k _
      · obtain ⟨payload, -, h⟩ := exists_of_bind_ok h
        obtain ⟨entries, hentries, h⟩ := exists_of_bind_ok h
        exact foldlM_keeps (fun entry hmem _ _ hstore =>
          storePart_keeps hstore (hnot entries hentries entry hmem)) h

/-- What the request of a configuration brings writes `k` only if the configuration names it. -/
theorem send_keeps (base : String) {config : Value} (hk : k ≠ bodySlot)
    (hnot : ∀ fields entries, config = .object fields →
      (fieldOf fields "responseMapping").elements = .ok entries →
      ∀ entry ∈ entries, entry.field "slot" ≠ .ok (some (.text k))) :
    (Api.send (ofConfig base slots config)).Always fun landing =>
      ∀ draft, landing.outcome = .ok draft → Keeps k [] draft.slots := by
  cases hprepared : ofConfig base slots config with
  | error fault => rintro draft ⟨⟩
  | ok prepared =>
      obtain ⟨hwritten, fields, hconfig, hmapping⟩ := ofConfig_keeps hprepared hk
      intro arrival draft houtcome
      obtain ⟨response, -, hreceive⟩ := exists_of_bind_ok houtcome
      refine hwritten.trans (receive_keeps hreceive fun entries hentries => ?_)
      exact hnot fields entries hconfig (hmapping ▸ hentries)

theorem sendAll_always {P : Api.Landing → Prop} {requests : List (Except Fault Prepared)}
    (h : ∀ request ∈ requests, (Api.send request).Always P) :
    (Api.sendAll requests).Always fun landings => ∀ landing ∈ landings, P landing := by
  induction requests with
  | nil => exact fun _ => nofun
  | cons first rest ih =>
      refine Program.always_bind.2 ((h first (.head rest)).mono fun landing hfirst => ?_)
      refine Program.always_bind.2 ((ih fun request hr => h request (.tail first hr)).mono
        fun landings hrest => ?_)
      exact List.forall_mem_cons.2 ⟨hfirst, hrest⟩

theorem merge_keeps {landings : List Api.Landing}
    (h : ∀ landing ∈ landings, ∀ draft, landing.outcome = .ok draft → Keeps k [] draft.slots) :
    Keeps k [] (Api.merge landings).slots := by
  suffices hfold : ∀ draft : Slot.Draft, Keeps k [] draft.slots → Keeps k []
      (landings.foldl (fun draft landing =>
        draft.update (landing.outcome.toOption.getD (.ofSlots []))) draft).slots from
    hfold _ (keeps_refl k [])
  induction landings with
  | nil => exact fun _ hdraft => hdraft
  | cons landing rest ih =>
      intro draft hdraft
      have hwritten : Keeps k [] (landing.outcome.toOption.getD (.ofSlots [])).slots := by
        cases houtcome : landing.outcome with
        | error fault => exact keeps_refl k []
        | ok written => exact h landing (.head rest) written houtcome
      exact ih (fun other ho => h other (.tail landing ho)) _
        (hdraft.trans (keeps_merge hwritten))

theorem request_keeps (base : String) (hkind : node.kind? = some .api) (hnot : ¬ node.Writes k) :
    Ensures (fun changes => Keeps k [] changes.slots) (Api.request base node slots) := by
  rw [Writes, hkind] at hnot
  refine ensures_bind (ensures_of fun configs hconfigs => ensures_bind (ensures_lift ?_))
  have hsent : (Api.sendAll (configs.map (ofConfig base slots))).Always fun landings =>
      ∀ landing ∈ landings, ∀ draft, landing.outcome = .ok draft → Keeps k [] draft.slots := by
    refine sendAll_always fun request hr => ?_
    obtain ⟨config, hconfig, rfl⟩ := List.mem_map.1 hr
    refine send_keeps base (fun hk => hnot (.inl hk)) ?_
    intro fields entries hfields hentries entry hmem hslot
    exact hnot (.inr (.inr (.inr
      ⟨configs, fields, entries, hconfigs, hfields ▸ hconfig, hentries, entry, hmem, hslot⟩)))
  refine hsent.mono fun landings hlandings => ?_
  unfold Api.conclude
  split
  · exact ensures_bind (ensures_of_forall (fun _ => ensures_throw _) _)
  · have hmerged : Ensures (fun changes => Keeps k [] changes.slots)
        (pure (Api.merge landings)) := ensures_pure (merge_keeps hlandings)
    exact ensures_bind (ensures_of_forall (fun _ => hmerged) _)

theorem api_keeps (context : Context) (slots : Slots) (hkind : node.kind? = some .api)
    (hnot : ¬ node.Writes k) :
    Ensures (fun effect => Keeps k slots effect.slots) (Api.execute context node slots) := by
  have hwrites := hnot
  rw [Writes, hkind] at hwrites
  have herror : "apiError" ≠ k := fun heq => hwrites (.inr (.inl heq.symm))
  have hfailed : "apiFailed" ≠ k := fun heq => hwrites (.inr (.inr (.inl heq.symm)))
  have hbody : bodySlot ≠ k := fun heq => hwrites (.inl heq.symm)
  have hkept : Keeps k slots (Mapping.erase slots bodySlot) := keeps_erase hbody
  refine ensures_caught ((request_keeps context.apiBase hkind hnot).mono fun changes hchanges => ?_)
    fun fault => ?_
  · refine ensures_of fun effect h => ?_
    rw [slots_leaveWith h]
    exact hkept.trans ((keeps_merge hchanges).trans ((keeps_erase herror).trans (keeps_set hfailed)))
  · have htold (reason : String) : Ensures (fun effect => Keeps k slots effect.slots)
        (Attempt.of (Api.fail context node (Mapping.erase slots bodySlot) reason)) := by
      refine ensures_of fun effect h => ?_
      rw [slots_leave h]
      exact hkept.trans ((keeps_set herror).trans (keeps_set hfailed))
    cases fault with
    | apiCall reason => exact htold reason
    | transport reason => exact htold reason
    | _ => exact ensures_throw _

end Api

section Llm

theorem completion?_of_reply? {exchange : Exchange} {output : String}
    (h : reply? exchange = some (.ok output)) : completion? exchange = some output := by
  obtain ⟨call, answer⟩ := exchange
  cases call with
  | complete prompt language => rw [completion?, Option.some.inj h, Except.toOption]
  | stream prompt language =>
      cases answer with
      | error fault => cases h
      | ok chunks =>
          cases h
          rfl
  | _ => cases h

theorem succeed_keeps {heard : List Exchange} {output : String} (hkind : node.kind? = some .llm)
    (hnot : ¬ node.WritesOn heard k) (hheard : output ∈ heard.filterMap completion?)
    (h : Llm.succeed context node slots output = .ok effect) : Keeps k slots effect.slots := by
  rw [WritesOn, hkind] at hnot
  simp only [not_or, not_and, not_exists] at hnot
  obtain ⟨herror, hfailed, houtput, hextract⟩ := hnot
  have hfound : k ∉ Mapping.keys (Llm.read node output).slots := by
    rw [Llm.read]
    split
    · rename_i htruthy
      exact hextract htruthy output hheard
    · exact List.not_mem_nil
  have hkept : Keeps k slots (Mapping.update
      (Mapping.erase (Mapping.erase slots "llmError") "llmFailed") (Llm.read node output).slots) :=
    (keeps_erase (Ne.symm herror)).trans ((keeps_erase (Ne.symm hfailed)).trans (keeps_update hfound))
  unfold Llm.succeed at h
  simp only at h
  split at h
  · obtain ⟨stored, hstored, h⟩ := exists_of_bind_ok h
    rw [slots_leaveWith h]
    exact hkept.trans (keeps_store hstored houtput)
  · rw [slots_leaveWith h]
    exact hkept

theorem fail_keeps {heard : List Exchange} {reason : String} (hkind : node.kind? = some .llm)
    (hnot : ¬ node.WritesOn heard k) (h : Llm.fail context node slots reason = .ok effect) :
    Keeps k slots effect.slots := by
  rw [WritesOn, hkind] at hnot
  simp only [not_or] at hnot
  obtain ⟨herror, hfailed, -⟩ := hnot
  rw [Llm.slots_fail h]
  exact (keeps_set (Ne.symm herror)).trans (keeps_set (Ne.symm hfailed))

theorem llm_keeps (context : Context) (slots : Slots) (hkind : node.kind? = some .llm) :
    (Llm.execute context node slots).run.recorded.Always fun (outcome, heard) =>
      ¬ node.WritesOn heard k → ∀ effect, outcome = .ok effect → Keeps k slots effect.slots := by
  refine (Llm.execute_settles context node slots).mono ?_
  rintro ⟨outcome, heard⟩ hsettles hnot effect heffect
  cases hsettles with
  | unasked fault => cases heffect
  | @asked exchange answer hreplied =>
      cases answer with
      | ok output =>
          have hheard : output ∈ [exchange].filterMap completion? := by
            rw [List.filterMap_cons_some (completion?_of_reply? hreplied)]
            exact .head _
          exact succeed_keeps hkind hnot hheard heffect
      | error fault =>
          cases fault with
          | completion reason => exact fail_keeps hkind hnot heffect
          | _ => cases heffect

end Llm

theorem delay_keeps (context : Context) (node : Node) (slots : Slots) :
    Ensures (fun effect => Keeps k slots effect.slots) (executeDelay context node slots) := by
  have hleave : Ensures (fun effect => Keeps k slots effect.slots)
      (Attempt.of (leave context node none slots [])) := by
    refine ensures_of fun effect h => ?_
    rw [slots_leave h]
    exact keeps_refl k slots
  refine ensures_bind (ensures_of_forall (fun duration => ?_) _)
  split
  · split
    · exact ensures_bind (ensures_of_forall (fun _ => hleave) _)
    · exact hleave
  · exact ensures_bind (ensures_pure hleave)

theorem plain_keeps (context : Context) (slots : Slots) (hkind : node.kind? ≠ some .llm)
    (hnot : ¬ node.Writes k) :
    Ensures (fun effect => Keeps k slots effect.slots) (node.execute context slots) := by
  have hsame {r : Except Fault Effect} (h : ∀ effect, r = .ok effect → effect.slots = slots) :
      Ensures (fun effect => Keeps k slots effect.slots) (Attempt.of r) := by
    refine ensures_of fun effect heffect => ?_
    rw [h effect heffect]
    exact keeps_refl k slots
  have hself : ∀ effect, Except.ok (ε := Fault) (Effect.waitAt node slots) = .ok effect →
      effect.slots = slots := by
    rintro _ ⟨⟩
    rfl
  unfold execute
  cases hfound : node.kind? with
  | none =>
      refine hsame ?_
      rintro _ ⟨⟩
      rfl
  | some kind =>
      cases kind with
      | message => exact hsame hself
      | slotfilling => exact hsame hself
      | form => exact hsame hself
      | iframe => exact hsame fun _ => slots_iframe
      | branch => exact hsame fun _ => slots_branch
      | toast => exact hsame fun _ => slots_toast
      | link => exact hsame fun _ => slots_link
      | setSlot => exact ensures_of fun _ => setSlot_keeps hfound hnot
      | api => exact api_keeps context slots hfound hnot
      | llm => exact absurd hfound hkind
      | delay => exact delay_keeps context node slots

theorem writesOn_of_plain {heard : List Exchange} (hkind : node.kind? ≠ some .llm) :
    node.WritesOn heard k ↔ node.Writes k := by
  unfold WritesOn
  split
  · exact absurd ‹_› hkind
  · rfl

theorem writes_of_writesOn {heard : List Exchange} (h : node.WritesOn heard k) :
    node.Writes k := by
  by_cases hkind : node.kind? = some .llm
  · rw [WritesOn, hkind] at h
    rw [Writes, hkind]
    exact h.imp_right (Or.imp_right (Or.imp_right And.left))
  · exact (writesOn_of_plain hkind).1 h

/-- Executing a node leaves the slots alone that it does not write on what it hears. -/
theorem execute_keeps_heard (context : Context) (node : Node) (slots : Slots) (k : String) :
    (node.execute context slots).run.recorded.Always fun (outcome, heard) =>
      ¬ node.WritesOn heard k → ∀ effect, outcome = .ok effect → Keeps k slots effect.slots := by
  by_cases hkind : node.kind? = some .llm
  · rw [execute, hkind]
    exact llm_keeps context slots hkind
  · simp only [writesOn_of_plain hkind]
    by_cases hwrites : node.Writes k
    · exact Program.always_of_forall (fun _ hnot => absurd hwrites hnot) _
    · exact (Program.Always.recorded (plain_keeps context slots hkind hwrites)).mono
        fun _ hkept _ => hkept

/-- Executing a node leaves the slots alone that it does not write. -/
theorem execute_keeps (context : Context) (slots : Slots) (hnot : ¬ node.Writes k) :
    Ensures (fun effect => Keeps k slots effect.slots) (node.execute context slots) := by
  refine Program.Always.of_recorded ((execute_keeps_heard context node slots k).mono ?_)
  exact fun r hkeeps => hkeeps fun hwrites => hnot (writes_of_writesOn hwrites)

end Node

end Dialogue
