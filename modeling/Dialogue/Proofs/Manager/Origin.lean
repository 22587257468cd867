import Dialogue.Proofs.Manager.Revision
import Dialogue.Proofs.Turn.Rest
/-!
Where turns and records come from: a pending turn is what the world has left of a play of its
session, and a record begins as a session that has not entered its scenario.
-/
namespace Dialogue

open Turn Attempt

namespace Turn.Pending

/-- The turn plays its session in a scenario of the house: what all such plays ensure, its work
ensures too. -/
def Stems (house : House) (turn : Pending) : Prop :=
  ∃ scenario, house.registry.require turn.marked.scenario = .ok scenario ∧
    ∀ P : Report → Prop,
      (∀ setting : Run.Setting, setting.context.scenario = scenario →
        Ensures P (play setting house.maxRuns turn.marked turn.input)) →
      turn.work.Always fun r => ∀ report, r = .ok report → P report

variable {house : House} {turn : Pending}

theorem Stems.answered (h : turn.Stems house) (world : (call : Call) → call.Answer) :
    (turn.answered world).Stems house := by
  unfold Pending.answered
  split
  · rename_i call next hwork
    obtain ⟨scenario, known, hplay⟩ := h
    refine ⟨scenario, known, fun P hP => ?_⟩
    have hw := hplay P hP
    rw [hwork] at hw
    exact hw (world call)
  · exact h

theorem Stems.step (h : turn.Stems house) (move : Move) : (turn.step move).Stems house := by
  unfold Pending.step
  split
  · split
    · exact h.answered _
    · exact h
  · exact h

theorem Stems.report {report : Report} (h : turn.Stems house)
    (hwork : turn.work = .done (.ok report)) :
    ∃ scenario, house.registry.require turn.marked.scenario = .ok scenario ∧
      ∀ P : Report → Prop,
        (∀ setting : Run.Setting, setting.context.scenario = scenario →
          Ensures P (play setting house.maxRuns turn.marked turn.input)) → P report := by
  obtain ⟨scenario, known, hplay⟩ := h
  refine ⟨scenario, known, fun P hP => ?_⟩
  have hw := hplay P hP
  rw [hwork] at hw
  exact hw report rfl

end Turn.Pending

namespace Manager

variable {m : Manager} {house : House} {id : String} {s : Session} {turn : Pending}

theorem stems_turnOn {scenario : Scenario} (house : House) (m : Manager) (id : String)
    (known : house.registry.require s.scenario = .ok scenario) (input : Run.Input)
    (language : Value) : (turnOn house m id s scenario input language).Stems house := by
  refine ⟨scenario, known, fun P hP => ?_⟩
  simp only [turnOn, work]
  split
  · exact hP _ rfl
  · rintro report ⟨⟩

/-- A record of the next manager that was not one of this is of a session that has not entered its
scenario. -/
theorem record?_create {conversation scenario slots language : Value}
    (hs : (m.create conversation scenario slots language).2.record? id = some s) :
    m.record? id = some s ∨ (s.node = none ∧ s.awaiting = false ∧ s.status = .active) := by
  rcases Store.create_start conversation scenario slots language with
    ⟨conv, scen, lang, fields, -, -, hmade⟩ | ⟨fault, hmade⟩
  · simp only [create, hmade] at hs
    have hs := (Store.record?_put _ _ id).symm.trans hs
    split at hs
    · cases hs
      exact .inr ⟨rfl, rfl, rfl⟩
    · exact .inl hs
  · simp only [create, hmade] at hs
    exact .inl hs

section Sources

variable (h : m.Sound)
include h

theorem begin_turnOn {other : String} {request : Request}
    (ht : turn ∈ (begin house m other request).2.pending) :
    turn ∈ m.pending ∨
      (turn.marked.id = other ∧ request.input = .ok turn.input ∧
        ∃ s scenario language, house.registry.require s.scenario = .ok scenario ∧
          turn = turnOn house m other s scenario turn.input language) := by
  have hb := began h.orderly house other request
  generalize begin house m other request = made at hb ht
  cases hb with
  | busy held => exact .inl ht
  | refused free fault locks others => exact .inl ht
  | accepted free r scenario input stored going known read new made =>
      rcases List.mem_append.1 ht with ht | ht
      · exact .inl ht
      · rw [List.mem_singleton.1 ht, made]
        exact .inr ⟨(h.orderly.of_record stored).1, read, r, scenario, _, known, rfl⟩

/-- A turn that is pending after a move was pending before it, or the move has begun it. -/
theorem pending_turnOn {move : Move} (ht : turn ∈ (m.step house move).pending) :
    (∃ old ∈ m.pending, turn = old.step move) ∨
      ∃ request : Request, request.input = .ok turn.input ∧
        (move = .begin turn.marked.id request ∨ ¬ m.store.Issued turn.marked.id) ∧
        ∃ (n : Manager) (s : Session) (scenario : Scenario) (language : Value),
          house.registry.require s.scenario = .ok scenario ∧
            turn = turnOn house n turn.marked.id s scenario turn.input language := by
  have ha := h.acted house move
  generalize m.step house move = n at ha ht
  have kept (hmove : ∀ id world, move ≠ .answer id world) (hmem : turn ∈ m.pending) :
      ∃ old ∈ m.pending, turn = old.step move := by
    have hsame : [turn].map (·.step move) = [turn] := map_step hmove
    exact ⟨turn, hmem, by simpa using hsame.symm⟩
  cases ha with
  | idle _ same => exact .inl ⟨turn, ht, (same turn ht).symm⟩
  | elsewhere _ sink now same => exact .inl ⟨turn, ht, (same turn ht).symm⟩
  | created conversation scenario slots language => exact .inl (kept nofun ht)
  | unlaunched conversation scenario slots language spoken => exact .inl (kept nofun ht)
  | launched conversation scenario slots language spoken new made =>
      rcases begin_turnOn (h.create conversation (.text scenario) slots spoken) ht with
        hmem | ⟨rfl, read, started⟩
      · exact .inl (kept nofun hmem)
      · exact .inr ⟨_, read, .inr (create_fresh made), _, started⟩
  | begun other request =>
      rcases begin_turnOn h ht with hmem | ⟨rfl, read, started⟩
      · exact .inl (kept nofun hmem)
      · exact .inr ⟨request, read, .inl rfl, _, started⟩
  | answered other world =>
      obtain ⟨old, hold, rfl⟩ := List.mem_map.1 ht
      exact .inl ⟨old, hold, rfl⟩
  | closed _ other mem c fits ends =>
      obtain ⟨sink, locks, hm, -⟩ := close_eq h.orderly house other c
      rw [hm] at ht
      refine .inl (kept (fun _ _ heq => ?_) (List.mem_filter.1 ht).1)
      rw [heq] at ends
      exact ends
  | canceled other r next done =>
      rcases cancel_cases h.orderly done with rfl | ⟨r, locks, -, -, rfl, -⟩
      · exact .inl (kept nofun ht)
      · exact .inl (kept nofun ht)
  | selected other node value r next done =>
      obtain ⟨r, selected, -, -, rfl⟩ := select_cases h.orderly done
      exact .inl (kept nofun ht)
  | deleted other => exact .inl (kept nofun ht)

theorem begin_pending {other : String} {request : Request}
    (ht : turn ∈ (begin house m other request).2.pending) :
    turn ∈ m.pending ∨
      (turn.marked.id = other ∧ turn.Stems house ∧ request.input = .ok turn.input) := by
  rcases begin_turnOn h ht with hold | ⟨hid, read, s, scenario, language, known, started⟩
  · exact .inl hold
  · refine .inr ⟨hid, ?_, read⟩
    rw [started]
    exact stems_turnOn house m other known _ language

theorem pending_step {move : Move} (ht : turn ∈ (m.step house move).pending) :
    (∃ old ∈ m.pending, turn = old.step move) ∨
      (turn.Stems house ∧ ∃ request : Request, request.input = .ok turn.input ∧
        (move = .begin turn.marked.id request ∨ ¬ m.store.Issued turn.marked.id)) := by
  rcases pending_turnOn h ht with
    hold | ⟨request, read, hbegun, n, s, scenario, language, known, started⟩
  · exact .inl hold
  · refine .inr ⟨?_, request, read, hbegun⟩
    rw [started]
    exact stems_turnOn house n _ known _ language

theorem stems_step (hstems : ∀ turn ∈ m.pending, turn.Stems house) (move : Move) :
    ∀ turn ∈ (m.step house move).pending, turn.Stems house := by
  intro turn ht
  rcases pending_step h ht with ⟨old, hold, rfl⟩ | ⟨stems, -⟩
  · exact (hstems old hold).step move
  · exact stems

theorem begin_record {other : String} {request : Request}
    (hs : (begin house m other request).2.record? id = some s) :
    m.record? id = some s ∨ ∃ r now, m.record? id = some r ∧
      s = r.revise now { status := some .generating } := by
  rcases begin_cases h house other request id with
    ⟨hrecord, -⟩ | ⟨-, -, r, turn, stored, -, marked, hrecord, -⟩
  · exact .inl (hrecord.symm.trans hs)
  · rw [hrecord, Option.some.injEq] at hs
    exact .inr ⟨r, _, stored, hs.symm.trans marked⟩

theorem written_record {change : Session.Change}
    (hs : (m.written turn change).record? id = some s) : ∃ r, m.record? id = some r := by
  by_cases hid : turn.marked.id = id
  · subst hid
    cases hr : m.record? turn.marked.id with
    | none =>
        rw [written_of_gone hr, hr] at hs
        cases hs
    | some r => exact ⟨r, rfl⟩
  · rw [record?_written_other h turn change hid] at hs
    exact ⟨s, hs⟩

/-- A session whose id has not been given out before has not entered its scenario. -/
theorem fresh_record {move : Move} (fresh : ¬ m.store.Issued id)
    (hs : (m.step house move).record? id = some s) :
    s.node = none ∧ s.awaiting = false ∧ s.isTerminal = false := by
  have ha := h.acted house move
  generalize m.step house move = n at ha hs
  have known {r : Session} (hr : m.record? id = some r) : False := fresh (h.issued id r hr)
  have created {conversation scenario slots language : Value} {r : Session}
      (hr : (m.create conversation scenario slots language).2.record? id = some r) :
      r.node = none ∧ r.awaiting = false ∧ r.isTerminal = false := by
    rcases record?_create hr with hr | ⟨hnode, hawaiting, hactive⟩
    · exact (known hr).elim
    · exact ⟨hnode, hawaiting, by rw [Session.isTerminal, hactive]; rfl⟩
  have revised {other : String} {r : Session} {change : Session.Change}
      (hr : m.record? other = some r)
      (hn : (m.put (r.revise m.now change)).record? id = some s) : False := by
    rw [record?_put] at hn
    split at hn
    · rename_i hid
      have hother : other = id := (h.orderly.of_record hr).1.symm.trans hid
      exact known (hother ▸ hr)
    · exact known hn
  cases ha with
  | idle => exact (known hs).elim
  | elsewhere => exact (known hs).elim
  | answered => exact (known hs).elim
  | created conversation scenario slots language => exact created hs
  | unlaunched conversation scenario slots language spoken => exact created hs
  | launched conversation scenario slots language spoken new made =>
      rcases begin_record (h.create conversation (.text scenario) slots spoken) hs with
        hs | ⟨r, now, hr, rfl⟩
      · exact created hs
      · obtain ⟨hnode, hawaiting, -⟩ := created hr
        exact ⟨hnode, hawaiting, rfl⟩
  | begun other request =>
      rcases begin_record h hs with hs | ⟨r, now, hr, -⟩
      · exact (known hs).elim
      · exact (known hr).elim
  | closed _ turn mem c fits ends =>
      obtain ⟨sink, locks, hm, -⟩ := close_eq h.orderly house turn c
      rw [hm] at hs
      have hs : (m.written turn (turn.change c)).record? id = some s := hs
      obtain ⟨r, hr⟩ := written_record h hs
      exact (known hr).elim
  | canceled other t next done =>
      rcases cancel_cases h.orderly done with rfl | ⟨r, locks, hr, -, rfl, -⟩
      · exact (known hs).elim
      · exact (revised hr hs).elim
  | selected other node value t next done =>
      obtain ⟨r, selected, hr, -, rfl⟩ := select_cases h.orderly done
      exact (revised hr hs).elim
  | deleted other =>
      have hs := (Store.record?_delete m.store other id).symm.trans hs
      split at hs
      · cases hs
      · exact (known hs).elim

end Sources

end Manager

end Dialogue
