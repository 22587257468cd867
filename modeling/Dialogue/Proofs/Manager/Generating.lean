import Dialogue.Proofs.Manager.Revision
/-!
When a session is left marked although no turn of it is in flight: a choice that is recorded during
a turn makes a new version of the session, and the turn then cannot write what it came to.
-/
namespace Dialogue.Manager

open Turn

variable {m : Manager} {id : String}

/-- The move records a choice on the session while a turn of it is in flight. -/
def Strikes (m : Manager) (id : String) : Move → Prop
  | .select other node value =>
      other = id ∧ m.InFlight id ∧ ∃ s next, m.select id node value = .ok (s, next)
  | _ => False

/-- The move begins a turn of the session. -/
def Begins (house : House) (m : Manager) (id : String) (move : Move) : Prop :=
  ¬ m.InFlight id ∧ (m.step house move).InFlight id

/-- Whether the latest turn of the session has been struck by a choice, after some more moves. -/
def Struck (house : House) (id : String) (m : Manager) (before : Prop) : List Move → Prop
  | [] => before
  | move :: rest =>
      (m.step house move).Struck house id
        (m.Strikes id move ∨ (before ∧ ¬ m.Begins house id move)) rest

/-- What a session looks like that has been watched for choices during its latest turn. -/
structure Watched (m : Manager) (id : String) (struck : Prop) : Prop where
  fresh : struck → m.store.Issued id
  idle : ∀ s, m.record? id = some s → m.turnsOf id = [] →
    (s.status = .generating → struck) ∧ (struck → s.status = .generating ∨ s.isTerminal = true)
  flying : ∀ turn ∈ m.turnsOf id, ∀ s, m.record? id = some s →
    (struck → turn.marked.version ≠ s.version) ∧ (¬ struck → s = turn.marked ∨ s.isTerminal = true)

theorem status_change_ne {turn : Pending} (h : turn.Proper) {c : Close} (fits : c.Fits turn) :
    ∃ status, (turn.change c).status = some status ∧ status ≠ .generating := by
  cases c with
  | expired => exact ⟨.active, rfl, by decide⟩
  | settled result =>
      cases result with
      | error fault => exact ⟨.failed, rfl, by decide⟩
      | ok report =>
          simp only [Pending.change, Report.change]
          rcases h.extends fits with ⟨hrefused, -⟩ | ⟨hwalked, -⟩
          · cases hlast : report.last with
            | refused shown slots message => exact ⟨.active, rfl, by decide⟩
            | surfaced shown awaiting slots events steps => exact ⟨.active, rfl, by decide⟩
            | ended status message slots events steps =>
                rw [hlast] at hrefused
                exact hrefused.elim
          · cases hlast : report.last with
            | refused shown slots message => exact ⟨.active, rfl, by decide⟩
            | surfaced shown awaiting slots events steps => exact ⟨.active, rfl, by decide⟩
            | ended status message slots events steps =>
                rw [hlast] at hwalked
                rcases hwalked with rfl | rfl
                · exact ⟨.completed, rfl, by decide⟩
                · exact ⟨.failed, rfl, by decide⟩

section Steps

variable (h : m.Sound) (house : House)
include h

theorem strikes_step {move : Move} (hstrike : m.Strikes id move) :
    ∃ s selected, m.record? id = some s ∧
      (m.step house move).record? id = some (s.revise m.now { selected := some selected }) ∧
      (m.step house move).turnsOf id = m.turnsOf id := by
  cases move with
  | select other node value =>
      obtain ⟨rfl, -, s, next, hok⟩ := hstrike
      have hstep : m.step house (.select other node value) = next := by
        simp only [step, hok]
      obtain ⟨r, selected, hs, -, rfl⟩ := select_cases h.orderly hok
      rw [hstep]
      refine ⟨r, selected, hs, ?_, rfl⟩
      rw [record?_revise h hs { selected := some selected } rfl rfl, if_pos rfl]
  | _ => exact hstrike.elim

theorem issued_step {move : Move} (hi : m.store.Issued id) :
    (m.step house move).store.Issued id :=
  hi.mono (given_le_step h house move)

variable {struck : Prop} (hw : m.Watched id struck)
include hw

theorem watched_strike {move : Move} (hstrike : m.Strikes id move) :
    (m.step house move).Watched id True := by
  obtain ⟨s, selected, hs, hrecord, hturns⟩ := strikes_step h house hstrike
  have hflight : m.InFlight id := by
    cases move with
    | select other node value => exact hstrike.2.1
    | _ => exact hstrike.elim
  refine ⟨fun _ => issued_step h house (h.issued id s hs), ?_, ?_⟩
  · intro r hr hidle
    rw [hturns] at hidle
    exact absurd hidle (inFlight_iff.1 hflight)
  · intro turn ht r hr
    rw [hturns] at ht
    rw [hrecord, Option.some.injEq] at hr
    obtain ⟨hmem, rfl⟩ := mem_turnsOf.1 ht
    have hlater := (h.follows turn hmem s hs).later
    refine ⟨fun _ => ?_, fun hn => absurd trivial hn⟩
    rw [← hr]
    simp only [Session.revise]
    omega

/-- After the end of a turn its session is marked only if the turn was struck and could not be
written. -/
theorem watched_closed {n : Manager} {turn : Pending} (ht : turn ∈ m.turnsOf id) {c : Close}
    (fits : c.Fits turn) (hissued : m.store.Issued id → n.store.Issued id)
    (record : n.record? id = (m.written turn (turn.change c)).record? id)
    (turns : n.turnsOf id = (m.turnsOf id).filter (·.id ≠ turn.id)) : n.Watched id struck := by
  obtain ⟨hmem, rfl⟩ := mem_turnsOf.1 ht
  refine ⟨fun hstruck => hissued (hw.fresh hstruck), ?_, ?_⟩
  · intro r hr _
    rw [record] at hr
    cases hs : m.record? turn.marked.id with
    | none =>
        rw [written_of_gone hs, hs] at hr
        cases hr
    | some s =>
        have hf := h.follows turn hmem s hs
        obtain ⟨hyes, hno⟩ := hw.flying turn ht s hs
        by_cases hv : turn.marked.version = s.version
        · have hunstruck : ¬ struck := fun hstruck => hyes hstruck hv
          obtain ⟨status, hstatus, hne⟩ := status_change_ne (h.proper turn hmem) fits
          rw [record?_written_current h hs hv, Option.some.injEq] at hr
          have hrstatus : r.status = status := by
            rw [← hr]
            simp [Session.storable, Session.revise, Session.Change.apply, hstatus]
          exact ⟨fun hgen => absurd (hrstatus.symm.trans hgen) hne,
            fun hstruck => absurd hstruck hunstruck⟩
        · rw [written_of_stale hs hv, hs, Option.some.injEq] at hr
          subst hr
          refine ⟨fun hgen => ?_, fun _ => hf.marked⟩
          refine Classical.byContradiction fun hunstruck => ?_
          rcases hno hunstruck with rfl | hover
          · exact hv rfl
          · rw [Session.isTerminal, hgen] at hover
            cases hover
  · intro other ho r hr
    rw [turns, List.mem_filter] at ho
    obtain ⟨hother, hne⟩ := ho
    obtain ⟨hpending, hid⟩ := mem_turnsOf.1 hother
    rw [record] at hr
    cases hs : m.record? turn.marked.id with
    | none =>
        rw [written_of_gone hs, hs] at hr
        cases hr
    | some s =>
        rw [h.single turn hmem other hpending s hs hid.symm] at hne
        simp at hne

theorem watched_step (move : Move) :
    (m.step house move).Watched id (m.Strikes id move ∨ (struck ∧ ¬ m.Begins house id move)) := by
  by_cases hstrike : m.Strikes id move
  · simpa only [hstrike, true_or] using watched_strike h house hw hstrike
  · simp only [hstrike, false_or]
    have hissued : m.store.Issued id → (m.step house move).store.Issued id :=
      issued_step h house
    have hseen := seen h house move id
    have hbegins : m.Begins house id move
        ↔ m.turnsOf id = [] ∧ (m.step house move).turnsOf id ≠ [] := by
      simp only [Begins, inFlight_iff, ne_eq, Classical.not_not]
    generalize m.step house move = n at hissued hseen hbegins ⊢
    -- unless a turn begins, the session is struck as before
    have hsame (hturns : m.turnsOf id = [] → n.turnsOf id = []) :
        (struck ∧ ¬ m.Begins house id move) = struck := by
      refine propext ⟨And.left, fun hstruck => ⟨hstruck, fun hb => ?_⟩⟩
      obtain ⟨hnone, hsome⟩ := hbegins.1 hb
      exact hsome (hturns hnone)
    cases hseen with
    | kept _ _ record turns =>
        rw [hsame fun hnone => by rw [turns, hnone, List.map_nil]]
        refine ⟨fun hstruck => hissued (hw.fresh hstruck), ?_, ?_⟩
        · intro s hs hidle
          rw [turns, List.map_eq_nil_iff] at hidle
          exact hw.idle s (record.symm.trans hs) hidle
        · intro turn ht s hs
          rw [turns] at ht
          obtain ⟨old, ho, rfl⟩ := List.mem_map.1 ht
          rw [old.marked_step]
          exact hw.flying old ho s (record.symm.trans hs)
    | created _ _ s fresh record active turns =>
        have hunstruck : ¬ struck := fun hstruck => fresh (hw.fresh hstruck)
        refine ⟨fun hstruck => absurd hstruck.1 hunstruck, ?_, ?_⟩
        · intro r hr _
          rw [record, Option.some.injEq] at hr
          rw [← hr, active]
          exact ⟨fun hgen => (by cases hgen), fun hstruck => absurd hstruck.1 hunstruck⟩
        · intro turn ht
          rw [turns] at ht
          cases ht
    | launched _ _ turn fresh record turns =>
        have hunstruck : ¬ struck := fun hstruck => fresh (hw.fresh hstruck)
        refine ⟨fun hstruck => absurd hstruck.1 hunstruck, ?_, ?_⟩
        · intro r hr hidle
          rw [turns] at hidle
          cases hidle
        · intro other ho r hr
          rw [turns, List.mem_singleton] at ho
          rw [record, Option.some.injEq] at hr
          exact ⟨fun hstruck => absurd hstruck.1 hunstruck, fun _ => .inl (ho ▸ hr.symm)⟩
    | begun request _ s turn stored going free marked record turns =>
        have hb : m.Begins house id (.begin id request) := hbegins.2 ⟨free, by simp [turns]⟩
        refine ⟨fun hstruck => absurd hb hstruck.2, ?_, ?_⟩
        · intro r hr hidle
          rw [turns] at hidle
          cases hidle
        · intro other ho r hr
          rw [turns, List.mem_singleton] at ho
          rw [record, Option.some.injEq] at hr
          exact ⟨fun hstruck => absurd hb hstruck.2, fun _ => .inl (ho ▸ hr.symm)⟩
    | closed _ _ turn mem ends c fits record turns =>
        rw [hsame fun hnone => by rw [turns, hnone, List.filter_nil]]
        exact watched_closed h hw mem fits hissued record turns
    | canceled _ s stored going record turns =>
        rw [hsame turns.trans]
        refine ⟨fun hstruck => hissued (hw.fresh hstruck), ?_, ?_⟩
        · intro r hr _
          rw [record, Option.some.injEq] at hr
          rw [← hr]
          exact ⟨fun hgen => (by cases hgen), fun _ => .inr rfl⟩
        · intro turn ht r hr
          rw [turns] at ht
          rw [record, Option.some.injEq] at hr
          obtain ⟨hmem, rfl⟩ := mem_turnsOf.1 ht
          have hlater := (h.follows turn hmem s stored).later
          rw [← hr]
          refine ⟨fun _ => ?_, fun _ => .inr rfl⟩
          simp only [Session.revise]
          omega
    | selected node value _ s selected stored accepted record turns =>
        have hnone : m.turnsOf id = [] := by
          refine Classical.byContradiction fun hsome => hstrike ⟨rfl, inFlight_iff.2 hsome, ?_⟩
          simp only [select_eq h.orderly, stored, accepted, Except.map]
          exact ⟨_, _, rfl⟩
        rw [hsame turns.trans]
        refine ⟨fun hstruck => hissued (hw.fresh hstruck), ?_, ?_⟩
        · intro r hr _
          rw [record, Option.some.injEq] at hr
          rw [← hr]
          exact hw.idle s stored hnone
        · intro turn ht
          rw [turns, hnone] at ht
          cases ht
    | deleted _ record turns =>
        rw [hsame turns.trans]
        refine ⟨fun hstruck => hissued (hw.fresh hstruck), ?_, ?_⟩
        · intro r hr
          cases record.symm.trans hr
        · intro turn _ r hr
          cases record.symm.trans hr

theorem watched_after (moves : List Move) :
    (m.after house moves).Watched id (m.Struck house id struck moves) := by
  induction moves generalizing m struck with
  | nil => exact hw
  | cons move rest ih => exact ih (h.step house move) (watched_step h house hw move)

end Steps

theorem watched_empty (sink : Sink) (now : Moment) (id : String) :
    (empty sink now).Watched id False := by
  refine ⟨False.elim, ?_, ?_⟩
  · rintro s ⟨⟩
  · rintro turn ⟨⟩

/-- A session without a turn in flight is marked exactly if its latest turn was struck by a choice
and nobody has canceled the session since. -/
theorem generating_iff_struck (house : House) (sink : Sink) (now : Moment) (moves : List Move)
    (id : String) (s : Session)
    (hs : ((empty sink now).after house moves).session? id = .ok (some s))
    (hidle : ¬ ((empty sink now).after house moves).InFlight id) :
    s.status = .generating ↔
      (empty sink now).Struck house id False moves ∧ s.isTerminal = false := by
  have h := sound_empty sink now
  have hw := watched_after h house (watched_empty sink now id) moves
  rw [session?_eq (h.after house moves).orderly, Except.ok.injEq] at hs
  rw [inFlight_iff, ne_eq, Classical.not_not] at hidle
  obtain ⟨hstruck, hmarked⟩ := hw.idle s hs hidle
  refine ⟨fun hgen => ⟨hstruck hgen, ?_⟩, fun ⟨hyes, hgoing⟩ => ?_⟩
  · rw [Session.isTerminal, hgen]
    rfl
  · rcases hmarked hyes with hgen | hover
    · exact hgen
    · rw [hgoing] at hover
      cases hover

theorem sample_struck :
    let moves := [Sample.launch, .select "s1" (.text "reply") (.text "yes"), .expire 1]
    ∃ s, (Sample.start.after Sample.house moves).session? "s1" = .ok (some s) ∧
      Sample.start.Struck Sample.house "s1" False moves ∧ s.isTerminal = false := by
  intro moves
  obtain ⟨s, hs, hgen⟩ : ∃ s, (Sample.start.after Sample.house moves).session? "s1"
      = .ok (some s) ∧ decide (s.status = .generating) = true := exists_of_shows (by decide +kernel)
  have hidle := not_inFlight_of_isEmpty (m := Sample.start.after Sample.house moves)
    (by decide +kernel) "s1"
  exact ⟨s, hs, (generating_iff_struck Sample.house _ _ moves "s1" s hs hidle).1
    (of_decide_eq_true hgen)⟩

theorem idle_session_generating :
    ∃ house sink now moves id s,
      ((empty sink now).after house moves).session? id = .ok (some s) ∧
        ¬ ((empty sink now).after house moves).InFlight id ∧ s.status = .generating := by
  let moves := [Sample.launch, .select "s1" (.text "reply") (.text "yes"), .answer 1 Sample.world,
    .settle 1]
  obtain ⟨s, hs, hgen⟩ : ∃ s, (Sample.start.after Sample.house moves).session? "s1"
      = .ok (some s) ∧ decide (s.status = .generating) = true := exists_of_shows (by decide +kernel)
  have hidle := not_inFlight_of_isEmpty (m := Sample.start.after Sample.house moves)
    (by decide +kernel) "s1"
  exact ⟨Sample.house, _, _, moves, "s1", s, hs, hidle, of_decide_eq_true hgen⟩

end Dialogue.Manager
