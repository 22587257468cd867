import Dialogue.Proofs.Manager.Rest
/-!
What a manager hands to its sink: each turn tells its events when it ends, once, and only if what it
came to is written; all other turns tell nothing.
-/
namespace Dialogue

open Turn Attempt

/-- What is done to a sink. -/
inductive Sink.Act where
  | publish (session : String) (events : List Event)
  | discard (session : String)
  | drain (session : String)

namespace Sink

def act (sink : Sink) : Act → Sink
  | .publish session events => sink.publish session events
  | .discard session => sink.discard session
  | .drain session => (sink.drain session).2

/-- The events of a session that are handed to a sink. -/
def Act.handed (session : String) : Act → List Event
  | .publish other events => if other = session then events else []
  | _ => []

end Sink

namespace Turn

/-- A turn that has ended: how, and whether its last write went through. -/
structure Ended where
  turn : Pending
  close : Close
  written : Bool

/-- What a turn tells at its end. -/
def Ended.told (ended : Ended) : List Event :=
  if ended.written then
    match ended.close with
    | .settled (.ok report) => report.tidings ended.turn.marked.id
    | .settled (.error _) => []
    | .expired => [Manager.timeoutToast ended.turn]
  else []

namespace Pending

/-- The events that the turn reports are those of its runs. -/
def Truthful (turn : Pending) : Prop :=
  turn.work.Always fun r => ∀ report, r = .ok report →
    report.events = report.tidings turn.marked.id

theorem Truthful.answered {turn : Pending} (h : turn.Truthful)
    (world : (call : Call) → call.Answer) : (turn.answered world).Truthful := by
  unfold Pending.answered
  split
  · rename_i call next hwork
    have hw : turn.work.Always _ := h
    rw [hwork] at hw
    exact hw (world call)
  · exact h

theorem Truthful.step {turn : Pending} (h : turn.Truthful) (move : Move) :
    (turn.step move).Truthful := by
  unfold Pending.step
  split
  · split
    · exact h.answered _
    · exact h
  · exact h

theorem Truthful.report {turn : Pending} {report : Report} (h : turn.Truthful)
    (hwork : turn.work = .done (.ok report)) : report.events = report.tidings turn.marked.id := by
  have hw : turn.work.Always _ := h
  rw [hwork] at hw
  exact hw report rfl

end Pending

end Turn

namespace Manager

variable {house : House} {m : Manager} {turn : Pending} {s : Session}

theorem truthful_turnOn (house : House) (m : Manager) (id : String) (s : Session)
    (scenario : Scenario) (input : Run.Input) (language : Value) :
    (turnOn house m id s scenario input language).Truthful := by
  simp only [Pending.Truthful, turnOn, work]
  split
  · exact play_events (setting house scenario _ _) house.maxRuns _ input
  · rintro report ⟨⟩

theorem truthful_step (h : m.Sound) (htruthful : ∀ turn ∈ m.pending, turn.Truthful) (move : Move) :
    ∀ turn ∈ (m.step house move).pending, turn.Truthful := by
  intro turn ht
  rcases pending_turnOn h ht with ⟨old, hold, rfl⟩ | ⟨-, -, -, n, s, scenario, language, -, started⟩
  · exact (htruthful old hold).step move
  · rw [started]
    exact truthful_turnOn house n _ s scenario _ language

/-- The turn that a move ends, if any. -/
def ended? (m : Manager) (move : Move) : Option Ended :=
  let ending : Option (Pending × Close) := match move with
    | .settle id => (m.turn? id).bind fun turn =>
        turn.work.result?.map fun result => (turn, .settled result)
    | .expire id => (m.turn? id).map fun turn => (turn, .expired)
    | _ => none
  ending.map fun (turn, c) =>
    ⟨turn, c, (m.write turn.marked.id (some turn.marked.version) (turn.change c)).toOption.isSome⟩

/-- What a move does to the sink. -/
def acts (m : Manager) : Move → List Sink.Act
  | .delete id => [.discard id]
  | .drain id => [.drain id]
  | move => (m.ended? move).toList.map fun ended => .publish ended.turn.marked.id ended.told

/-- The turns that end in the course of some moves, in the order in which they end. -/
def endings (house : House) : Manager → List Move → List Ended
  | _, [] => []
  | m, move :: rest => (m.ended? move).toList ++ endings house (m.step house move) rest

def actsAfter (house : House) : Manager → List Move → List Sink.Act
  | _, [] => []
  | m, move :: rest => m.acts move ++ actsAfter house (m.step house move) rest

section Sinks

variable (h : m.store.Orderly)
include h

theorem fail_sink (turn : Pending) (fault : Fault) : (m.fail turn fault).2.sink = m.sink := by
  obtain ⟨store, now, hw⟩ := written_eq m turn turn.failure
  rw [fail_manager h, hw]

theorem commit_sink (turn : Pending) (report : Report) : (m.commit turn report).2.sink
    = if (m.write turn.marked.id (some turn.marked.version) report.change).toOption.isSome
      then m.sink.publish turn.marked.id report.events else m.sink := by
  cases hs : m.record? turn.marked.id with
  | none =>
      simp only [commit, write_of_gone h hs]
      exact fail_sink h turn _
  | some s =>
      by_cases hv : turn.marked.version = s.version
      · simp only [commit, write_of_current h hs hv, publish]
        split
        · rename_i told hp
          obtain ⟨-, rfl⟩ := Prod.mk.inj hp
          rfl
        · rename_i fault told hp
          obtain ⟨-, rfl⟩ := Prod.mk.inj hp
          exact fail_sink (h.put _) turn fault
      · simp only [commit, write_of_stale h hs hv]
        rcases Store.conflict_cases turn.marked.id turn.marked.version s.version with
          ⟨e, f, hc⟩ | hc
        · simp only [hc]
          rfl
        · simp only [hc]
          exact fail_sink h turn _

omit h in
theorem finish_sink (m : Manager) (turn : Pending) : (m.finish turn).sink = m.sink := by
  obtain ⟨locks, hl, -⟩ := release_eq (m.remove turn) turn.marked.id turn.lock
  unfold finish
  rw [hl]
  rfl

theorem expire_sink (house : House) (turn : Pending) : (m.expire house turn).2.sink
    = if (m.write turn.marked.id (some turn.marked.version)
        { status := some .active }).toOption.isSome
      then m.sink.publish turn.marked.id [timeoutToast turn] else m.sink := by
  cases hs : m.record? turn.marked.id with
  | none =>
      simp only [expire, conclude_of_gone h hs, write_of_gone h hs]
      exact finish_sink m turn
  | some s =>
      by_cases hv : turn.marked.version = s.version
      · have hgoing : (s.revise m.now { status := some .active }).isTerminal = false := rfl
        simp only [expire, conclude_of_current h hs hv, write_of_current h hs hv, hgoing, publish,
          Bool.false_eq_true, ↓reduceIte]
        exact finish_sink _ turn
      · simp only [expire, write_of_stale h hs hv]
        rcases conclude_of_stale h hs hv { status := some .active } with ⟨hover, hc⟩ | hc
        · simp only [hc, hover, ↓reduceIte]
          exact finish_sink m turn
        · simp only [hc]
          exact finish_sink m turn

/-- However a turn ends, what it tells is published, and nothing else. -/
theorem close_sink (house : House) (htruthful : turn.Truthful) {c : Close} (fits : c.Fits turn) :
    (m.close house turn c).2.sink = m.sink.publish turn.marked.id (Ended.told ⟨turn, c,
      (m.write turn.marked.id (some turn.marked.version) (turn.change c)).toOption.isSome⟩) := by
  have hwhen (written : Bool) (events : List Event) :
      (if written = true then m.sink.publish turn.marked.id events else m.sink)
        = m.sink.publish turn.marked.id (if written then events else []) := by
    cases written with
    | true => rfl
    | false => exact (Sink.publish_nil _ _).symm
  cases c with
  | expired =>
      simp only [close, expire_sink h, hwhen]
      rfl
  | settled result =>
      cases result with
      | error fault =>
          simp only [close, settle, finish_sink, fail_sink h, Ended.told, ite_self,
            Sink.publish_nil]
      | ok report =>
          simp only [close, settle, finish_sink, commit_sink h, hwhen, htruthful.report fits]
          rfl

end Sinks

theorem begin_sink (h : m.store.Orderly) (house : House) (id : String) (request : Request) :
    (begin house m id request).2.sink = m.sink := by
  have hb := began h house id request
  generalize begin house m id request = made at hb
  cases hb with
  | busy held => rfl
  | refused free fault locks others => rfl
  | accepted free s scenario input stored going known read turn made => rfl

theorem launch_sink (h : m.Sound) (house : House) (conversation : Value) (scenario : String)
    (slots language : Value) :
    (m.launch house conversation scenario slots language).2.sink = m.sink := by
  rw [launch_eq]
  split
  · rfl
  · simp only
    generalize language.orElse (.text house.language) = spoken
    have hmade := h.create conversation (.text scenario) slots spoken
    generalize hm : m.create conversation (.text scenario) slots spoken = made at hmade ⊢
    have hsink : made.2.sink = m.sink := by
      rw [← hm]
      rfl
    obtain ⟨outcome, next⟩ := made
    cases outcome with
    | ok id => exact (begin_sink hmade.orderly house id _).trans hsink
    | error fault => exact hsink

theorem sink_step (h : m.Sound) (htruthful : ∀ turn ∈ m.pending, turn.Truthful) (house : House)
    (move : Move) : (m.step house move).sink = (m.acts move).foldl Sink.act m.sink := by
  cases move with
  | create conversation scenario slots language => rfl
  | launch conversation scenario slots language => exact launch_sink h house _ _ _ _
  | begin id request => exact begin_sink h.orderly house id request
  | answer id world =>
      simp only [step]
      cases m.turn? id with
      | none => rfl
      | some turn =>
          simp only [Option.elim, resume]
          split
          · rfl
          · rfl
  | settle id =>
      simp only [step, acts, ended?]
      cases ht : m.turn? id with
      | none => rfl
      | some turn =>
          obtain ⟨hmem, -⟩ := turn?_mem ht
          simp only [Option.elim, Option.bind_some]
          cases hwork : turn.work with
          | ask call next => rfl
          | done result =>
              exact close_sink h.orderly house (htruthful turn hmem) (c := .settled result) hwork
  | expire id =>
      simp only [step, acts, ended?]
      cases ht : m.turn? id with
      | none => rfl
      | some turn =>
          obtain ⟨hmem, -⟩ := turn?_mem ht
          exact close_sink h.orderly house (htruthful turn hmem) (c := .expired) trivial
  | cancel id =>
      simp only [step]
      split
      · rename_i s next hc
        rcases cancel_cases h.orderly hc with rfl | ⟨r, locks, -, -, rfl, -⟩
        · rfl
        · rfl
      · rfl
  | select id node value =>
      simp only [step]
      split
      · rename_i s next hc
        obtain ⟨r, selected, -, -, rfl⟩ := select_cases h.orderly hc
        rfl
      · rfl
  | delete id => rfl
  | drain id => rfl
  | wait now => rfl

theorem sink_after (h : m.Sound) (htruthful : ∀ turn ∈ m.pending, turn.Truthful) (house : House)
    (moves : List Move) :
    (m.after house moves).sink = (m.actsAfter house moves).foldl Sink.act m.sink := by
  induction moves generalizing m with
  | nil => rfl
  | cons move rest ih =>
      rw [actsAfter, List.foldl_append, ← sink_step h htruthful house move]
      exact ih (h.step house move) (truthful_step h htruthful move)

theorem acts_handed (m : Manager) (move : Move) (id : String) :
    (m.acts move).flatMap (Sink.Act.handed id)
      = ((m.ended? move).toList.filter (·.turn.marked.id = id)).flatMap Ended.told := by
  have hnone (act : Sink.Act) (hact : act.handed id = []) (hended : m.ended? move = none) :
      [act].flatMap (Sink.Act.handed id)
        = ((m.ended? move).toList.filter (·.turn.marked.id = id)).flatMap Ended.told := by
    simp [hact, hended]
  unfold acts
  split
  · exact hnone _ rfl rfl
  · exact hnone _ rfl rfl
  · cases m.ended? move with
    | none => rfl
    | some ended =>
        by_cases hid : ended.turn.marked.id = id
        · simp [Sink.Act.handed, hid]
        · simp [Sink.Act.handed, hid]

theorem handed_after (house : House) (m : Manager) (moves : List Move) (id : String) :
    (m.actsAfter house moves).flatMap (Sink.Act.handed id)
      = ((m.endings house moves).filter (·.turn.marked.id = id)).flatMap Ended.told := by
  induction moves generalizing m with
  | nil => rfl
  | cons move rest ih =>
      simp only [actsAfter, endings, List.flatMap_append, List.filter_append, acts_handed, ih]

/-- However moves are interleaved, the sink is what publishing at the ends of turns, discarding at
deletions and draining make of it, and what is published of a session is what its turns tell, each
at its end. -/
theorem events_told_once (house : House) (sink : Sink) (now : Moment) (moves : List Move) :
    ((empty sink now).after house moves).sink
        = ((empty sink now).actsAfter house moves).foldl Sink.act sink ∧
      ∀ id, ((empty sink now).actsAfter house moves).flatMap (Sink.Act.handed id)
        = (((empty sink now).endings house moves).filter
            (·.turn.marked.id = id)).flatMap Ended.told := by
  refine ⟨sink_after (sound_empty sink now) ?_ house moves, handed_after house _ moves⟩
  rintro turn ⟨⟩

/-- An answer that is refused, and a turn that takes too long. -/
example :
    let refused := { Turn.Request.bare .null with text := .text "Ann" }
    let moves := [.launch (.text "c") "survey" .null .null, .settle 1, .begin "s1" refused,
      .settle 3, .begin "s1" (.bare .null), .expire 5]
    (((empty (.log []) Sample.start.now).endings Sample.office moves).map fun ended =>
      ended.told.map Event.message) = [[], ["Please enter a valid email address."],
        ["The request timed out. Please try again."]] := by
  decide +kernel

end Manager

end Dialogue
