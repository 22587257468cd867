import Dialogue.Proofs.Turn.Retold
/-!
Runs over a logbook. A run that reaches its nodes only through a given `execute`, and so executes
none without an entry, is the run itself once the entries are dropped, and enters at most as many
nodes as it has steps.
-/
namespace Dialogue

open Turn

namespace Program

variable {α β σ : Type}

/-- What is kept aside of some work does not change what the work comes to. -/
theorem fst_run_bind {x : StateT σ Program α} {p : Program α} {f : α → StateT σ Program β}
    {g : α → Program β} (hx : ∀ s, Prod.fst <$> x.run s = p)
    (hf : ∀ a s, Prod.fst <$> (f a).run s = g a) (s : σ) :
    Prod.fst <$> (x >>= f).run s = p >>= g := by
  calc Prod.fst <$> (x >>= f).run s
      = x.run s >>= fun r => Prod.fst <$> (f r.1).run r.2 := by rw [StateT.run_bind, map_bind]
    _ = x.run s >>= fun r => g r.1 := bind_congr fun r => hf r.1 r.2
    _ = (Prod.fst <$> x.run s) >>= g := (bind_map_left _ _ _).symm
    _ = p >>= g := by rw [hx s]

end Program

/-- What the runs of a turn came to and the nodes that they executed, in order. -/
structure Logbook where
  runs : List (Except Fault Run.Result)
  executed : List Node

def Logbook.blank : Logbook := ⟨[], []⟩

abbrev Logged := StateT Logbook Program

namespace Logged

variable {α β : Type}

def enter (entry : Logbook → Logbook) : Logged Unit := modify entry

/-- Without its entries `x` is the work `p`. -/
def Erases (x : Logged α) (p : Program α) : Prop := ∀ log, Prod.fst <$> x.run log = p

/-- `Q` holds of all that `x` comes to from the logbook `log`. -/
def Always (Q : α → Logbook → Prop) (x : Logged α) (log : Logbook) : Prop :=
  (x.run log).Always fun (a, later) => Q a later

theorem erases_pure (a : α) : Erases (pure a) (pure a) := fun _ => rfl

theorem erases_lift (p : Program α) : Erases (StateT.lift p) p := by
  intro log
  change Prod.fst <$> (p >>= fun a => pure (a, log)) = p
  rw [map_bind]
  simp only [map_pure, bind_pure]

theorem Erases.bind {x : Logged α} {p : Program α} {f : α → Logged β} {g : α → Program β}
    (hx : Erases x p) (hf : ∀ a, Erases (f a) (g a)) : Erases (x >>= f) (p >>= g) :=
  Program.fst_run_bind hx hf

theorem Erases.entered {x : Logged α} {p : Program α} (hx : Erases x p)
    (entry : Logbook → Logbook) : Erases (enter entry >>= fun _ => x) p := fun log => hx (entry log)

theorem always_bind {Q : β → Logbook → Prop} {x : Logged α} {f : α → Logged β} {log : Logbook} :
    Always Q (x >>= f) log ↔ Always (fun a later => Always Q (f a) later) x log := by
  simp only [Always, StateT.run_bind]
  exact Program.always_bind

theorem always_enter {Q : Unit → Logbook → Prop} {entry : Logbook → Logbook} {log : Logbook} :
    Always Q (enter entry) log ↔ Q () (entry log) := Iff.rfl

theorem always_lift {Q : α → Logbook → Prop} {p : Program α} {log : Logbook}
    (h : p.Always fun a => Q a log) : Always Q (StateT.lift p) log :=
  Program.always_bind.2 h

theorem Always.mono {P Q : α → Logbook → Prop} {x : Logged α} {log : Logbook}
    (hx : Always P x log) (h : ∀ a later, P a later → Q a later) : Always Q x log :=
  Program.Always.mono hx fun r => h r.1 r.2

/-- The same runs, and at most `steps` more nodes. -/
def Within (steps : Nat) (log later : Logbook) : Prop :=
  later.runs = log.runs ∧ later.executed.length ≤ log.executed.length + steps

theorem within_refl (steps : Nat) (log : Logbook) : Within steps log log :=
  ⟨rfl, Nat.le_add_right _ _⟩

theorem Within.mono {log later : Logbook} {steps more : Nat} (h : Within steps log later)
    (hle : steps ≤ more) : Within more log later :=
  ⟨h.1, Nat.le_trans h.2 (Nat.add_le_add_left hle _)⟩

theorem Within.trans {log mid later : Logbook} {steps more : Nat} (h : Within steps log mid)
    (hlater : Within more mid later) : Within (steps + more) log later := by
  obtain ⟨hruns, hexecuted⟩ := h
  obtain ⟨hlaterRuns, hlaterExecuted⟩ := hlater
  refine ⟨hlaterRuns.trans hruns, ?_⟩
  omega

end Logged

namespace Run

section Generic

variable {m : Type → Type} [Monad m]
  (execute : Node → Slots → m (Except Fault Node.Effect))

/-- A walk that executes its nodes by `execute`. -/
def walkBy (context : Node.Context) :
    (remaining steps : Nat) → Option Node → Slots → List Event → ExceptT Fault m Result
  | _, steps, none, slots, events => ExceptT.mk (pure (finish context slots events steps))
  | 0, steps, some _, slots, events =>
      return failed context.language .unexpected slots events steps
  | remaining + 1, steps, some node, slots, events => do
      match ← ExceptT.lift (execute node slots) with
      | .error _ => return failed context.language .unexpected slots events (steps + 1)
      | .ok effect =>
          let all := events ++ effect.events
          if (effect.error.getD "") ≠ "" then
            return failed context.language (failureNotice node) effect.slots all (steps + 1)
          else
            match effect.waits, effect.next with
            | true, some waiting =>
                return surface context.language waiting effect.slots all (steps + 1)
            | _, next => walkBy context remaining (steps + 1) next effect.slots all

def stumbleBy (setting : Setting) (state : State) (input : Input) (slots : Slots) :
    ExceptT Fault m Result := do
  match setting.maxSteps, setting.context.scenario.next state.node input.handle slots with
  | _ + 1, .ok (some node) =>
      let _ ← ExceptT.lift (execute node slots)
      throw .invalidRecord
  | _, _ => throw .invalidRecord

def proceedBy (setting : Setting) (state : State) (input : Input) (slots : Slots) :
    ExceptT Fault m Result :=
  match setting.context.scenario.next state.node input.handle slots with
  | .ok node => walkBy execute setting.context setting.maxSteps 0 node slots []
  | .error _ => return failed setting.context.language .unexpected slots [] 0

/-- A run that executes its nodes by `execute`. -/
def performBy (setting : Setting) (state : State) (input : Input) : ExceptT Fault m Result := do
  match ← ExceptT.mk (pure (entry setting state input)) with
  | .refused shown message => return .refused shown state.slots message
  | .lost =>
      let slots := Mapping.update state.slots input.form
      return failed setting.context.language .unexpected slots [] 0
  | .admitted draft =>
      if draft.misnamed then stumbleBy execute setting state input draft.slots
      else proceedBy execute setting state input draft.slots

end Generic

/-- Executes a node and enters it. -/
def executeLogged (context : Node.Context) (node : Node) (slots : Slots) :
    Logged (Except Fault Node.Effect) := do
  Logged.enter fun log => { log with executed := log.executed ++ [node] }
  StateT.lift (node.execute context slots).run

/-- Carries out a run and enters what it comes to. -/
def performLogged (setting : Setting) (state : State) (input : Input) :
    Logged (Except Fault Result) := do
  let result ← (performBy (executeLogged setting.context) setting state input).run
  Logged.enter fun log => { log with runs := log.runs ++ [result] }
  return result

section Erasure

variable {m : Type → Type} [Monad m]

/-- A relation between computations and the programs that they carry out. -/
structure Mirrors (R : {α : Type} → m α → Program α → Prop) : Prop where
  pure {α : Type} (a : α) : R (pure a) (pure a)
  bind {α β : Type} {x : m α} {p : Program α} {f : α → m β} {g : α → Program β} :
    R x p → (∀ a, R (f a) (g a)) → R (x >>= f) (p >>= g)

/-- What is kept aside of some work does not matter. -/
theorem mirrors_fst {σ : Type} :
    Mirrors (m := StateT σ Program) fun x p => ∀ s, Prod.fst <$> x.run s = p :=
  ⟨fun _ _ => rfl, Program.fst_run_bind⟩

variable [LawfulMonad m] {R : {α : Type} → m α → Program α → Prop} (hR : Mirrors R)
  {setting : Setting} {execute : Node → Slots → m (Except Fault Node.Effect)}
  (hexecute : ∀ node slots, R (execute node slots) (node.execute setting.context slots).run)
include hR hexecute

theorem mirrors_walk (remaining steps : Nat) (next : Option Node) (slots : Slots)
    (events : List Event) :
    R (walkBy execute setting.context remaining steps next slots events).run
      (walk setting.context remaining steps next slots events).run := by
  induction remaining generalizing steps next slots events with
  | zero => cases next <;> exact hR.pure _
  | succ remaining ih =>
      cases next with
      | none => exact hR.pure _
      | some node =>
          rw [walkBy, walk]
          simp only [ExceptT.run_bind_lift]
          refine hR.bind (hexecute node slots) fun outcome => ?_
          cases outcome with
          | error fault => exact hR.pure _
          | ok effect =>
              obtain ⟨next, waits, after, told, error⟩ := effect
              by_cases herror : error.getD "" ≠ ""
              · simp only [if_pos herror]
                exact hR.pure _
              · simp only [if_neg herror]
                cases waits with
                | false => exact ih _ _ _ _
                | true =>
                    cases next with
                    | none => exact ih _ _ _ _
                    | some waiting => exact hR.pure _

theorem mirrors_stumble (state : State) (input : Input) (slots : Slots) :
    R (stumbleBy execute setting state input slots).run (stumble setting state input slots).run := by
  unfold stumbleBy stumble
  cases setting.maxSteps with
  | zero => exact hR.pure _
  | succ steps =>
      cases setting.context.scenario.next state.node input.handle slots with
      | error fault => exact hR.pure _
      | ok next =>
          cases next with
          | none => exact hR.pure _
          | some node =>
              simp only [ExceptT.run_bind_lift]
              exact hR.bind (hexecute _ _) fun _ => hR.pure _

theorem mirrors_proceed (state : State) (input : Input) (slots : Slots) :
    R (proceedBy execute setting state input slots).run (proceed setting state input slots).run := by
  unfold proceedBy proceed
  cases setting.context.scenario.next state.node input.handle slots with
  | error fault => exact hR.pure _
  | ok next => exact mirrors_walk hR hexecute _ _ _ _ _

/-- A run whose nodes are executed as by `node.execute` is the run. -/
theorem mirrors_perform (state : State) (input : Input) :
    R (performBy execute setting state input).run (perform setting state input).run := by
  rw [perform_entry, performBy, ExceptT.run_bind, ExceptT.run_bind]
  refine hR.bind (hR.pure _) fun outcome => ?_
  cases outcome with
  | error fault => exact hR.pure _
  | ok entry =>
      cases entry with
      | refused shown message => exact hR.pure _
      | lost => exact hR.pure _
      | admitted draft =>
          simp only [Entry.run]
          split
          · exact mirrors_stumble hR hexecute _ _ _
          · exact mirrors_proceed hR hexecute _ _ _

end Erasure

section Logged

open Logged

theorem erases_execute (context : Node.Context) (node : Node) (slots : Slots) :
    Erases (executeLogged context node slots) (node.execute context slots).run :=
  (erases_lift _).entered _

theorem erases_perform (setting : Setting) (state : State) (input : Input) :
    Erases (performLogged setting state input) (perform setting state input).run := by
  have hperform : Erases (performBy (executeLogged setting.context) setting state input).run
      (perform setting state input).run :=
    mirrors_perform mirrors_fst (erases_execute setting.context) state input
  rw [← bind_pure (perform setting state input).run]
  exact hperform.bind fun result => (erases_pure result).entered _

end Logged

section Counts

open Logged

theorem within_execute (context : Node.Context) (node : Node) (slots : Slots) (log : Logbook) :
    Always (fun _ => Within 1 log) (executeLogged context node slots) log := by
  refine always_bind.2 (always_enter.2 (always_lift (Program.always_of_forall (fun _ => ?_) _)))
  exact ⟨rfl, by simp⟩

theorem within_walk (context : Node.Context) (remaining steps : Nat) (next : Option Node)
    (slots : Slots) (events : List Event) (log : Logbook) :
    Always (fun _ => Within remaining log)
      (walkBy (executeLogged context) context remaining steps next slots events).run log := by
  induction remaining generalizing steps next slots events log with
  | zero => cases next <;> exact within_refl 0 log
  | succ remaining ih =>
      cases next with
      | none => exact within_refl _ log
      | some node =>
          rw [walkBy, ExceptT.run_bind_lift]
          refine always_bind.2 ((within_execute context node slots log).mono ?_)
          intro outcome mid hmid
          have hstop (result : Except Fault Result) :
              Always (fun _ => Within (remaining + 1) log) (pure result) mid :=
            hmid.mono (Nat.succ_le_succ (Nat.zero_le _))
          have hgoOn (next : Option Node) (slots : Slots) (events : List Event) :
              Always (fun _ => Within (remaining + 1) log)
                (walkBy (executeLogged context) context remaining (steps + 1) next slots events).run
                mid :=
            (ih (steps + 1) next slots events mid).mono fun _ later hlater => by
              have := hmid.trans hlater
              rwa [Nat.add_comm] at this
          cases outcome with
          | error fault => exact hstop _
          | ok effect =>
              simp only
              split
              · exact hstop _
              · split
                · exact hstop _
                · exact hgoOn _ _ _

theorem within_stumble (setting : Setting) (state : State) (input : Input) (slots : Slots)
    (log : Logbook) :
    Always (fun _ => Within setting.maxSteps log)
      (stumbleBy (executeLogged setting.context) setting state input slots).run log := by
  unfold stumbleBy
  split
  · rename_i steps node hsteps hnext
    rw [ExceptT.run_bind_lift, hsteps]
    refine always_bind.2 ((within_execute _ node slots log).mono fun _ mid hmid => ?_)
    exact hmid.mono (Nat.succ_le_succ (Nat.zero_le _))
  · exact within_refl _ log

theorem within_proceed (setting : Setting) (state : State) (input : Input) (slots : Slots)
    (log : Logbook) :
    Always (fun _ => Within setting.maxSteps log)
      (proceedBy (executeLogged setting.context) setting state input slots).run log := by
  unfold proceedBy
  split
  · exact within_walk _ _ _ _ _ _ log
  · exact within_refl _ log

theorem within_perform (setting : Setting) (state : State) (input : Input) (log : Logbook) :
    Always (fun _ => Within setting.maxSteps log)
      (performBy (executeLogged setting.context) setting state input).run log := by
  unfold performBy
  rw [ExceptT.run_bind]
  refine always_bind.2 ?_
  cases entry setting state input with
  | error fault => exact within_refl _ log
  | ok entry =>
      cases entry with
      | refused shown message => exact within_refl _ log
      | lost => exact within_refl _ log
      | admitted draft =>
          have hgoOn : Always (fun _ => Within setting.maxSteps log)
              (if draft.misnamed then stumbleBy (executeLogged setting.context) setting state input
                  draft.slots
                else proceedBy (executeLogged setting.context) setting state input draft.slots).run
              log := by
            split
            · exact within_stumble setting state input _ log
            · exact within_proceed setting state input _ log
          exact hgoOn

/-- A run is entered once, with what it comes to, and executes at most as many nodes as it has
steps. -/
theorem entered_perform (setting : Setting) (state : State) (input : Input) (log : Logbook) :
    Always (fun result later => later.runs = log.runs ++ [result] ∧
        later.executed.length ≤ log.executed.length + setting.maxSteps)
      (performLogged setting state input) log := by
  refine always_bind.2 ((within_perform setting state input log).mono ?_)
  rintro result mid ⟨hruns, hexecuted⟩
  refine always_bind.2 (always_enter.2 ?_)
  exact ⟨congrArg (· ++ [result]) hruns, hexecuted⟩

end Counts

end Run

end Dialogue
