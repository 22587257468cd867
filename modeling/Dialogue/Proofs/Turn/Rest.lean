import Dialogue.Proofs.Node.Ways
import Dialogue.Proofs.Turn.Report
import Dialogue.Turn.Play
/-!
Where runs come to rest: at a node of their scenario, which awaits an answer exactly if it asks for
a slot, with slots that obey whatever law every node and every answer obeys.
-/
namespace Dialogue.Run

open Attempt

def Setting.rule (setting : Setting) : Rule.Setting := ⟨setting.context.language, setting.today⟩

/-- The nodes of the scenario and the answers that are stored keep to the law `L` of slots. -/
structure Lawful (setting : Setting) (L : Slots → Prop) : Prop where
  executed : ∀ node ∈ setting.context.scenario.nodes, ∀ slots, L slots →
    Ensures (fun effect => L effect.slots) (node.execute setting.context slots)
  stored : ∀ node ∈ setting.context.scenario.nodes, node.kind? = some .slotfilling →
    ∀ name text slots, node.get "slot" = .text name →
      Rule.check setting.rule (.text text) (node.get "validation") = .ok .accepted →
      L slots → L (Mapping.set slots name (.text text))

theorem lawful_true (setting : Setting) : Lawful setting fun _ => True where
  executed _ _ _ _ := ensures_of_forall (fun _ => trivial) _
  stored _ _ _ _ _ _ _ _ _ := trivial

/-- The filled form of an input keeps to the law. -/
def Input.Keeps (input : Input) (L : Slots → Prop) : Prop :=
  ∀ slots, L slots → L (Mapping.update slots input.form)

theorem keeps_none (L : Slots → Prop) : Input.none.Keeps L := fun _ h => h

theorem keeps_true (input : Input) : input.Keeps fun _ => True := fun _ _ => trivial

/-- An answer is awaited only where a slot is asked for. -/
def State.Asks (scenario : Scenario) (state : State) : Prop :=
  state.awaiting = true →
    ∀ id ∈ state.node, ∀ current, scenario.node? id = some current →
      current.kind? = some .slotfilling

theorem asks_of_not_awaiting {scenario : Scenario} {state : State} (h : state.awaiting = false) :
    state.Asks scenario := by
  intro hawaits
  cases h.symm.trans hawaits

namespace Result

def Rests (scenario : Scenario) (L : Slots → Prop) : Result → Prop
  | .surfaced shown awaiting slots _ _ => L slots ∧
      ∃ node ∈ scenario.nodes, node.id = shown.id ∧ awaiting = decide (node.kind? = some .slotfilling)
  | .ended _ _ slots _ _ => L slots
  | .refused _ slots _ => L slots

theorem Rests.slots {scenario : Scenario} {L : Slots → Prop} {r : Result} (h : r.Rests scenario L) :
    L r.slots := by
  cases r with
  | surfaced shown awaiting slots events steps => exact h.1
  | ended status message slots events steps => exact h
  | refused shown slots message => exact h

theorem asks_of_surfaced {scenario : Scenario} {L : Slots → Prop} {shown : Node} {awaiting : Bool}
    {slots : Slots} {events : List Event} {steps : Nat} (hs : scenario.defects = [])
    (h : (surfaced shown awaiting slots events steps).Rests scenario L) :
    (surfaced shown awaiting slots events steps).state.Asks scenario := by
  obtain ⟨-, node, hn, hid, rfl⟩ := h
  rintro hawaits _ ⟨⟩ current hcurrent
  have hne : node.id ≠ "" := by
    rintro hempty
    rw [← hid, hempty] at hcurrent
    cases hcurrent
  rw [← hid, Scenario.node?_of_mem hs hn hne] at hcurrent
  cases hcurrent
  exact of_decide_eq_true hawaits

end Result

section Runs

variable {setting : Setting} {L : Slots → Prop} {node : Node} {slots : Slots}
  {events : List Event} {steps : Nat} {r : Result}

theorem rests_finish {context : Node.Context} {scenario : Scenario} (hslots : L slots)
    (h : finish context slots events steps = .ok r) : r.Rests scenario L := by
  obtain ⟨message, _, h⟩ := exists_of_bind_ok h
  cases h
  exact hslots

theorem rests_surface {scenario : Scenario} {waiting : Node} (language : String)
    (hn : node ∈ scenario.nodes) (hid : waiting.id = node.id) (hkind : waiting.kind? = node.kind?)
    (hslots : L slots) : (surface language waiting slots events steps).Rests scenario L := by
  unfold surface
  split
  · rename_i shown hshown
    obtain ⟨_, -, hshown⟩ := exists_of_bind_ok hshown
    obtain ⟨_, -, hshown⟩ := exists_of_bind_ok hshown
    cases hshown
    exact ⟨hslots, node, hn, hid.symm, by rw [hkind]⟩
  · exact hslots

variable (hl : Lawful setting L)
include hl

theorem walk_rests (remaining steps : Nat) {next : Option Node}
    (hn : ∀ node ∈ next, node ∈ setting.context.scenario.nodes) (hslots : L slots)
    (events : List Event) :
    Ensures (Result.Rests setting.context.scenario L)
      (walk setting.context remaining steps next slots events) := by
  induction remaining generalizing steps next slots events with
  | zero =>
      cases next with
      | none => exact ensures_of fun _ => rests_finish hslots
      | some node => exact ensures_pure hslots
  | succ remaining ih =>
      cases next with
      | none => exact ensures_of fun _ => rests_finish hslots
      | some node =>
          have hmem := hn node rfl
          have hexecuted := (Node.execute_leads setting.context node slots).and
            (hl.executed node hmem slots hslots)
          refine ensures_caught (hexecuted.mono fun effect heffect => ?_) fun _ =>
            ensures_pure hslots
          obtain ⟨hleads, hafter⟩ := heffect
          simp only
          split
          · exact ensures_pure hafter
          · split
            · rename_i waiting hwaits hnext
              rw [Node.Effect.Leads, hwaits] at hleads
              obtain ⟨hid, hkind⟩ := hleads waiting hnext
              exact ensures_pure (rests_surface _ hmem hid hkind hafter)
            · rename_i hgoes
              refine ih _ (fun found hfound => ?_) hafter _
              cases hwaits : effect.waits with
              | true => exact absurd hfound (hgoes _ hwaits)
              | false =>
                  rw [Node.Effect.Leads, hwaits] at hleads
                  exact hleads found hfound

theorem proceed_rests (state : State) (input : Input) (hslots : L slots) :
    Ensures (Result.Rests setting.context.scenario L) (proceed setting state input slots) := by
  unfold proceed
  split
  · rename_i next hnext
    exact walk_rests hl _ _ (fun node hnode => Scenario.next_mem (hnext.trans (congrArg _ hnode)))
      hslots _
  · exact ensures_pure hslots

omit hl in
theorem ensures_stumble (Q : Result → Prop) (setting : Setting) (state : State) (input : Input)
    (slots : Slots) : Ensures Q (stumble setting state input slots) := by
  unfold stumble
  split
  · exact ensures_bind (ensures_of_forall (fun _ => ensures_throw _) _)
  · exact ensures_throw _

omit hl in
theorem rests_refuse {scenario : Scenario} {message : Value} (hslots : L slots)
    (h : refuse node slots message = .ok r) : r.Rests scenario L := by
  obtain ⟨shown, _, h⟩ := exists_of_bind_ok h
  split at h
  · cases h
    exact hslots
  · cases h

theorem receive_rests {state : State} {input : Input} (hi : input.Keeps L) (hslots : L state.slots)
    (hn : node ∈ setting.context.scenario.nodes) (hkind : node.kind? = some .slotfilling) :
    Ensures (Result.Rests setting.context.scenario L) (receive setting state input node) := by
  refine ensures_bind (ensures_of fun verdict hverdict => ?_)
  cases verdict with
  | rejected message => exact ensures_of fun _ => rests_refuse hslots
  | accepted =>
      have hmerged : L (Mapping.update state.slots input.form) := hi _ hslots
      have goOn (draft : Slot.Draft) (h : L draft.slots) :
          Ensures (Result.Rests setting.context.scenario L)
            (if draft.misnamed then stumble setting state input draft.slots
              else proceed setting state input draft.slots) := by
        split
        · exact ensures_stumble _ _ _ _ _
        · exact proceed_rests hl _ _ h
      simp only
      split
      · refine ensures_bind (ensures_of fun draft hdraft => goOn draft ?_)
        cases hname : node.get "slot" with
        | text name =>
            rw [hname] at hdraft
            cases hdraft
            exact hl.stored node hn hkind name _ _ hname hverdict hmerged
        | list items =>
            rw [hname] at hdraft
            cases hdraft
        | object fields =>
            rw [hname] at hdraft
            cases hdraft
        | _ =>
            rw [hname] at hdraft
            cases hdraft
            exact hmerged
      · exact ensures_bind (ensures_pure (goOn _ hmerged))

theorem perform_rests {state : State} {input : Input} (ha : state.Asks setting.context.scenario)
    (hi : input.Keeps L) (hslots : L state.slots) :
    Ensures (Result.Rests setting.context.scenario L) (perform setting state input) := by
  unfold perform
  split
  · exact proceed_rests hl _ _ (hi _ hslots)
  · rename_i id hid
    split
    · exact ensures_pure (hi _ hslots)
    · rename_i current hcurrent
      split
      · rename_i hawaits
        have hkind := ha hawaits id (Option.filter_eq_some_iff.1 hid).1 current hcurrent
        exact receive_rests hl hi hslots (Scenario.id_of_node? hcurrent).2 hkind
      · exact proceed_rests hl _ _ (hi _ hslots)

end Runs

end Dialogue.Run

/-!
Where turns come to rest. They go on until the user is needed, so what they show last waits for the
user.
-/

namespace Dialogue.Turn

open Attempt Run

def Report.Rests (scenario : Scenario) (L : Slots → Prop) (report : Report) : Prop :=
  report.last.Rests scenario L ∧
    ∀ shown awaiting slots events steps, report.last = .surfaced shown awaiting slots events steps →
      needsUser scenario shown awaiting = true

variable {setting : Setting} {L : Slots → Prop}

theorem needsUser_iff {scenario : Scenario} (hs : scenario.defects = []) {node shown : Node}
    (hn : node ∈ scenario.nodes) (hne : node.id ≠ "") (hid : node.id = shown.id) :
    needsUser scenario shown (decide (node.kind? = some .slotfilling)) = true ↔
      node.waitsForUser = true := by
  have hfound : scenario.node? shown.id = some node := hid ▸ Scenario.node?_of_mem hs hn hne
  simp only [needsUser, hfound, Option.map_some, Option.getD_some, Bool.or_eq_true,
    decide_eq_true_eq]
  constructor
  · rintro (hkind | hwaits)
    · simp only [Node.waitsForUser, hkind]
    · exact hwaits
  · exact .inr

section Reports

variable (hs : setting.context.scenario.defects = []) (hl : Lawful setting L)
include hs hl

theorem proceed_rests (runs : Nat) (earlier : List Result) {last : Result}
    (hlast : last.Rests setting.context.scenario L) (events : List Event)
    (messages : List Message) :
    Ensures (Report.Rests setting.context.scenario L)
      (proceed setting runs earlier last events messages) := by
  induction runs generalizing earlier last events messages with
  | zero =>
      cases last with
      | refused shown slots message => exact ensures_pure ⟨hlast, by rintro _ _ _ _ _ ⟨⟩⟩
      | ended status message slots all steps => exact ensures_pure ⟨hlast, by rintro _ _ _ _ _ ⟨⟩⟩
      | surfaced shown awaiting slots all steps =>
          simp only [proceed]
          split
          · rename_i hneeds
            refine ensures_pure ⟨hlast, ?_⟩
            rintro _ _ _ _ _ ⟨⟩
            exact hneeds
          · exact ensures_pure ⟨hlast.1, by rintro _ _ _ _ _ ⟨⟩⟩
  | succ runs ih =>
      cases last with
      | refused shown slots message => exact ensures_pure ⟨hlast, by rintro _ _ _ _ _ ⟨⟩⟩
      | ended status message slots all steps => exact ensures_pure ⟨hlast, by rintro _ _ _ _ _ ⟨⟩⟩
      | surfaced shown awaiting slots all steps =>
          simp only [proceed]
          split
          · rename_i hneeds
            refine ensures_pure ⟨hlast, ?_⟩
            rintro _ _ _ _ _ ⟨⟩
            exact hneeds
          · have hnext := perform_rests hl (Result.asks_of_surfaced hs hlast) (keeps_none L) hlast.1
            exact ensures_bind (hnext.mono fun next hrests => ih _ hrests _ _)

theorem play_rests (maxRuns : Nat) {session : Session} {input : Input}
    (ha : State.Asks setting.context.scenario ⟨session.node, session.awaiting, session.slots⟩)
    (hi : input.Keeps L) (hslots : L session.slots) :
    Ensures (Report.Rests setting.context.scenario L) (play setting maxRuns session input) :=
  ensures_bind ((perform_rests hl ha hi hslots).mono fun _ hrests =>
    proceed_rests hs hl _ _ hrests _ _)

end Reports

end Dialogue.Turn
