import Dialogue.Proofs.Node.Writes
import Dialogue.Proofs.Run.Logged
/-!
What a run writes. Every visit of a node writes only slots that the node declares, so a run leaves
all slots alone that no visit declares, the user has not sent and no question has asked for.
-/
namespace Dialogue

/-- A node that has been executed, and what it has heard from the world. -/
structure Visit where
  node : Node
  heard : List Exchange

/-- The visit may give the slot `k` a value. -/
def Visit.Writes (visit : Visit) (k : String) : Prop := visit.node.WritesOn visit.heard k

namespace Run

open Node Turn

/-- The question that the run answers is about the slot `k`. -/
def State.AsksFor (scenario : Scenario) (state : State) (k : String) : Prop :=
  state.awaiting = true ∧ ∃ id current, state.node = some id ∧
    scenario.node? id = some current ∧ current.get "slot" = .text k

abbrev Traced := StateT (List Visit) Program

/-- Executes a node and notes the visit. -/
def executeTraced (context : Node.Context) (node : Node) (slots : Slots) :
    Traced (Except Fault Node.Effect) := do
  let (outcome, heard) ← StateT.lift (node.execute context slots).run.recorded
  modify (· ++ [⟨node, heard⟩])
  return outcome

/-- A run with all its visits. -/
def performTraced (setting : Setting) (state : State) (input : Input) :
    Traced (Except Fault Result) :=
  (performBy (executeTraced setting.context) setting state input).run

theorem executeTraced_run (context : Node.Context) (node : Node) (slots : Slots)
    (visits : List Visit) :
    (executeTraced context node slots).run visits =
      (fun (outcome, heard) => (outcome, visits ++ [⟨node, heard⟩])) <$>
        (node.execute context slots).run.recorded := by
  simp only [executeTraced, StateT.run_bind, StateT.run_lift, map_eq_pure_bind, bind_assoc, pure_bind]
  rfl

/-- The visits are only noted: without them the run is the run. -/
theorem fst_performTraced (setting : Setting) (state : State) (input : Input)
    (visits : List Visit) :
    Prod.fst <$> (performTraced setting state input).run visits =
      (perform setting state input).run := by
  refine mirrors_perform mirrors_fst (fun node slots visits => ?_) state input visits
  rw [executeTraced_run, ← comp_map]
  exact Program.fst_recorded _

section Framed

variable {k : String}

/-- From `slots` and `visits` on the slot `k` has been left alone unless a visit writes it. -/
def Framed (k : String) (slots : Slots) (visits : List Visit)
    (told : Except Fault Result × List Visit) : Prop :=
  visits ⊆ told.2 ∧ ((∀ visit ∈ told.2, ¬ visit.Writes k) →
    ∀ result, told.1 = .ok result → Keeps k slots result.slots)

theorem framed_of_keeps {slots : Slots} {visits : List Visit} {outcome : Except Fault Result}
    (h : ∀ result, outcome = .ok result → Keeps k slots result.slots) :
    Framed k slots visits (outcome, visits) :=
  ⟨List.Subset.refl visits, fun _ => h⟩

theorem framed_end {slots : Slots} {visits : List Visit} {result : Result}
    (h : result.slots = slots) : Framed k slots visits (.ok result, visits) :=
  framed_of_keeps (by rintro _ ⟨⟩; exact congrArg (Mapping.get? · k) h)

theorem framed_fault {slots : Slots} {visits : List Visit} {fault : Fault} :
    Framed k slots visits (.error fault, visits) :=
  framed_of_keeps nofun

theorem Framed.after {slots left : Slots} {visits : List Visit} {visit : Visit}
    {told : Except Fault Result × List Visit} (h : Framed k left (visits ++ [visit]) told)
    (hkeeps : ¬ visit.Writes k → Keeps k slots left) : Framed k slots visits told := by
  obtain ⟨hsub, hleft⟩ := h
  refine ⟨fun v hv => hsub (List.mem_append_left _ hv), fun hnot result hresult => ?_⟩
  have hvisit : visit ∈ told.2 := hsub (by simp)
  exact (hkeeps (hnot visit hvisit)).trans (hleft hnot result hresult)

theorem finish_slots {context : Node.Context} {slots : Slots} {events : List Event} {steps : Nat}
    {result : Result} (h : finish context slots events steps = .ok result) :
    result.slots = slots := by
  obtain ⟨_, -, h⟩ := exists_of_bind_ok h
  cases h
  rfl

theorem surface_slots (language : String) (node : Node) (slots : Slots) (events : List Event)
    (steps : Nat) : (surface language node slots events steps).slots = slots := by
  unfold surface
  split <;> rfl

variable (k)

theorem walk_framed (context : Node.Context) (remaining steps : Nat) (next : Option Node)
    (slots : Slots) (events : List Event) (visits : List Visit) :
    ((walkBy (executeTraced context) context remaining steps next slots events).run.run
      visits).Always (Framed k slots visits) := by
  induction remaining generalizing steps next slots events visits with
  | zero =>
      cases next with
      | none => exact framed_of_keeps fun _ h => congrArg (Mapping.get? · k) (finish_slots h)
      | some node => exact framed_end rfl
  | succ remaining ih =>
      cases next with
      | none => exact framed_of_keeps fun _ h => congrArg (Mapping.get? · k) (finish_slots h)
      | some node =>
          rw [walkBy, ExceptT.run_bind_lift, StateT.run_bind, executeTraced_run]
          refine Program.always_bind.2 (Program.always_map.2 ?_)
          refine (execute_keeps_heard context node slots k).mono ?_
          rintro ⟨outcome, heard⟩ hkeeps
          cases outcome with
          | error fault => exact Framed.after (framed_end rfl) fun _ => keeps_refl k slots
          | ok effect =>
              have hvisit : ¬ (Visit.mk node heard).Writes k → Keeps k slots effect.slots :=
                fun hnot => hkeeps hnot effect rfl
              have hafter {p : Program (Except Fault Result × List Visit)}
                  (h : p.Always (Framed k effect.slots (visits ++ [⟨node, heard⟩]))) :
                  p.Always (Framed k slots visits) :=
                h.mono fun _ htold => htold.after hvisit
              simp only
              split
              · exact hafter (framed_end rfl)
              · split
                · exact hafter (framed_end (surface_slots _ _ _ _ _))
                · exact hafter (ih _ _ _ _ _)

theorem stumble_framed (setting : Setting) (state : State) (input : Input) (slots before : Slots)
    (visits : List Visit) :
    ((stumbleBy (executeTraced setting.context) setting state input slots).run.run visits).Always
      (Framed k before visits) := by
  unfold stumbleBy
  split
  · rw [ExceptT.run_bind_lift, StateT.run_bind, executeTraced_run]
    refine Program.always_bind.2 (Program.always_map.2 (Program.always_of_forall (fun told => ?_) _))
    exact ⟨List.subset_append_left _ _, fun _ => nofun⟩
  · exact framed_fault

theorem proceed_framed (setting : Setting) (state : State) (input : Input) (slots : Slots)
    (visits : List Visit) :
    ((proceedBy (executeTraced setting.context) setting state input slots).run.run visits).Always
      (Framed k slots visits) := by
  unfold proceedBy
  split
  · exact walk_framed k _ _ _ _ _ _ _
  · exact framed_end rfl

end Framed

section Entries

variable {k : String} {setting : Setting} {state : State} {input : Input}

/-- Before its first node a run writes the form and the answer to the question. -/
theorem entry_keeps {draft : Slot.Draft} (hform : k ∉ Mapping.keys input.form)
    (hasked : ¬ state.AsksFor setting.context.scenario k)
    (h : entry setting state input = .ok (.admitted draft)) : Keeps k state.slots draft.slots := by
  have hfilled : Keeps k state.slots (Mapping.update state.slots input.form) := keeps_update hform
  unfold entry at h
  simp only at h
  split at h
  · cases h
    exact hfilled
  · rename_i id hid
    split at h
    · cases h
    · rename_i current hcurrent
      split at h
      · rename_i hawaiting
        obtain ⟨verdict, -, h⟩ := exists_of_bind_ok h
        cases verdict with
        | rejected message =>
            obtain ⟨shown, -, h⟩ := exists_of_bind_ok h
            split at h <;> cases h
        | accepted =>
            simp only at h
            split at h
            · obtain ⟨stored, hstored, h⟩ := exists_of_bind_ok h
              cases h
              refine hfilled.trans (keeps_store hstored fun hslot => hasked ?_)
              exact ⟨hawaiting, id, current, (Option.filter_eq_some_iff.1 hid).1, hcurrent, hslot⟩
            · cases h
              exact hfilled
      · cases h
        exact hfilled

end Entries

/-- The slots after a run that comes to a result are those before it but for those that are sent as
a form, asked for, or declared by a node that the run executes. -/
theorem run_writes_declared_slots (setting : Setting) (state : State) (input : Input) :
    (∀ visits, Prod.fst <$> (performTraced setting state input).run visits =
        (perform setting state input).run) ∧
      ∀ k, k ∉ Mapping.keys input.form → ¬ state.AsksFor setting.context.scenario k →
        ((performTraced setting state input).run []).Always fun (outcome, visits) =>
          (∀ visit ∈ visits, ¬ visit.Writes k) → ∀ result, outcome = .ok result →
            Mapping.get? result.slots k = Mapping.get? state.slots k := by
  refine ⟨fst_performTraced setting state input, fun k hform hasked => ?_⟩
  suffices hframed : ((performTraced setting state input).run []).Always
      (Framed k state.slots []) from hframed.mono fun _ h => h.2
  rw [performTraced, performBy, ExceptT.run_bind]
  cases hentry : entry setting state input with
  | error fault => exact framed_fault
  | ok entry =>
      cases entry with
      | refused shown message => exact framed_end rfl
      | lost => exact framed_of_keeps fun _ h => by cases h; exact keeps_update hform
      | admitted draft =>
          have hgoOn : ((if draft.misnamed then
                stumbleBy (executeTraced setting.context) setting state input draft.slots
              else proceedBy (executeTraced setting.context) setting state input
                draft.slots).run.run []).Always (Framed k state.slots []) := by
            split
            · exact stumble_framed k _ _ _ _ _ _
            · refine (proceed_framed k _ _ _ _ _).mono fun told htold => ?_
              exact ⟨htold.1, fun hnot result hresult =>
                (entry_keeps hform hasked hentry).trans (htold.2 hnot result hresult)⟩
          exact hgoOn

/-- Nothing is asked, and the only node that writes notes the greeting. -/
theorem greeting_leaves_city :
    let state : State := ⟨some "hello", false, [("city", .text "Seoul")]⟩
    "city" ∉ Mapping.keys Input.none.form ∧ ¬ state.AsksFor Sample.greeting "city" ∧
      ∃ result visits,
        (performTraced Sample.lobby state .none).run [] = .done (.ok result, visits) ∧
        (visits.map fun visit => visit.node.id) = ["note", "name"] ∧
        (∀ visit ∈ visits, ¬ visit.Writes "city") ∧
        Mapping.keys result.slots = ["city", "greeted"] ∧
        Mapping.get? result.slots "city" = Mapping.get? state.slots "city" := by
  intro state
  have hform : "city" ∉ Mapping.keys Input.none.form := by decide
  have hasked : ¬ state.AsksFor Sample.greeting "city" := fun h => nomatch h.1
  obtain ⟨result, visits, hrun, hnodes, hkeys, hwrites⟩ : ∃ result visits,
      (performTraced Sample.lobby state .none).run [] = .done (.ok result, visits) ∧
        (visits.map fun visit => visit.node.id) = ["note", "name"] ∧
        Mapping.keys result.slots = ["city", "greeted"] ∧
        ∀ visit ∈ visits, ¬ visit.Writes "city" := by
    refine ⟨_, [⟨Sample.greeting.nodes[2], []⟩, ⟨Sample.greeting.nodes[3], []⟩], rfl, by decide,
      by decide, ?_⟩
    refine List.forall_mem_cons.2 ⟨?_, List.forall_mem_cons.2 ⟨id, nofun⟩⟩
    rintro ⟨assignments, helements, assignment, hassignment, hkey⟩
    cases helements
    cases List.mem_singleton.1 hassignment
    have hsame : "greeted" = "city" := Value.text.inj (Option.some.inj (Except.ok.inj hkey))
    exact absurd hsame (by decide)
  have hkept := (run_writes_declared_slots Sample.lobby state .none).2 "city" hform hasked
  rw [hrun] at hkept
  exact ⟨hform, hasked, result, visits, hrun, hnodes, hwrites, hkeys, hkept hwrites result rfl⟩

end Run

end Dialogue
