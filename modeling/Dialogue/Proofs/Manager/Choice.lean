import Dialogue.Proofs.Manager.Generating
import Dialogue.Proofs.Manager.Outcome
/-!
A choice that is recorded during a turn, compared with the same choice after the turn.
-/
namespace Dialogue

open Turn

namespace Move

/-- The move leaves the session of the turn to the turn. -/
def Spares (turn : Pending) (move : Move) : Prop :=
  move.Passes turn ∧ ¬ move.Cancels turn.marked.id

end Move

namespace Manager

variable {m : Manager} {turn : Pending} {s : Session} {node value : Value}

theorem chosen_error {fault : Fault} (h : chosen s node value = .error fault) (t : Session) :
    chosen t node value = .error fault := by
  unfold chosen at h ⊢
  cases hn : Store.expectText node with
  | error fault =>
      rw [hn] at h
      exact h
  | ok n =>
      cases hv : Store.expectText value with
      | error fault =>
          rw [hn, hv] at h
          exact h
      | ok v =>
          rw [hn, hv] at h
          cases h

theorem select_refused_iff (h : m.Sound) {id : String} (hs : m.record? id = some s) :
    (∀ t next, m.select id node value ≠ .ok (t, next)) ↔
      ∃ fault, chosen s node value = .error fault := by
  rw [select_eq h.orderly, hs]
  simp only
  cases hc : chosen s node value with
  | error fault =>
      refine ⟨fun _ => ⟨fault, rfl⟩, fun _ t next hok => ?_⟩
      simp only [Except.map] at hok
      cases hok
  | ok selected =>
      simp only [Except.map]
      refine ⟨fun hno => absurd rfl (hno _ _), ?_⟩
      rintro ⟨fault, ⟨⟩⟩

theorem step_of_refused (h : m.Sound) (house : House) {id : String}
    (hs : m.record? id = some s) {fault : Fault} (hc : chosen s node value = .error fault) :
    m.step house (.select id node value) = m := by
  simp only [step, select_eq h.orderly, hs, hc, Except.map]

theorem step_of_chosen (h : m.Sound) (house : House) {id : String}
    (hs : m.record? id = some s) {selected : Mapping String}
    (hc : chosen s node value = .ok selected) :
    (m.step house (.select id node value)).record? id
      = some (s.revise m.now { selected := some selected }) := by
  simp only [step, select_eq h.orderly, hs, hc, Except.map]
  rw [record?_revise h hs { selected := some selected } rfl rfl, if_pos rfl]

theorem spared_after (h : m.Sound) (house : House) (ht : turn ∈ m.pending)
    (hs : m.record? turn.marked.id = some s) {moves : List Move}
    (hq : ∀ move ∈ moves, move.Spares turn) :
    (m.after house moves).Sound ∧ turn.after moves ∈ (m.after house moves).pending ∧
      (m.after house moves).record? turn.marked.id = some s :=
  ⟨h.after house moves, after_mem h house ht fun move hm => (hq move hm).1.1,
    untouched_passing h house ht hs (fun move hm => (hq move hm).1) fun move hm => (hq move hm).2⟩

theorem close_record_ne (h : m.Sound) (house : House) (ht : turn ∈ m.pending)
    (hs : m.record? turn.marked.id = some turn.marked) {c : Close} (fits : c.Fits turn) :
    ∃ s, (m.close house turn c).2.record? turn.marked.id = some s ∧ s.status ≠ .generating := by
  refine ⟨_, record?_close_current h hs house c, ?_⟩
  obtain ⟨status, hstatus, hne⟩ := status_change_ne (h.proper turn ht) fits
  simpa [Session.storable, Session.revise, Session.Change.apply, hstatus] using hne

section Runs

variable (h : m.Sound) (house : House) (ht : turn ∈ m.pending)
  (hs : m.record? turn.marked.id = some turn.marked)
include h ht hs

theorem close_after_chosen {selected : Mapping String}
    (hc : chosen turn.marked node value = .ok selected) {moves : List Move}
    (hq : ∀ move ∈ moves, move.Spares turn) (c : Close) :
    let during := (m.step house (.select turn.marked.id node value)).after house moves
    let revised := turn.marked.revise m.now { selected := some selected }
    (during.close house (turn.after moves) c).2.Sound ∧
      (during.close house (turn.after moves) c).1
        = .error (Store.conflict turn.marked.id turn.marked.version (turn.marked.version + 1)) ∧
      (during.close house (turn.after moves) c).2.record? turn.marked.id = some revised := by
  intro during revised
  have hstep := step_of_chosen h house hs hc
  have hmem : turn ∈ (m.step house (.select turn.marked.id node value)).pending :=
    step_mem h house ht id
  obtain ⟨hduring, hpending, hrecord⟩ := spared_after (h.step house _) house hmem hstep hq
  have hsame := turn.marked_after moves
  have hrecord : during.record? (turn.after moves).marked.id = some revised := by
    rw [hsame]
    exact hrecord
  have hv : (turn.after moves).marked.version ≠ revised.version := by
    rw [hsame]
    simp only [revised, Session.revise]
    omega
  have hgoing : revised.isTerminal = false := by
    rw [Session.isTerminal, show revised.status = turn.marked.status from rfl,
      (h.proper turn ht).generating]
    rfl
  have hclose := close_of_stale hduring.orderly house hrecord hv hgoing c
  have hkept : (during.close house (turn.after moves) c).2.record? (turn.after moves).marked.id
      = some revised := by
    rw [record?_close hduring.orderly, written_of_stale hrecord hv, hrecord]
  rw [hsame] at hclose hkept
  exact ⟨hduring.close house hpending c, hclose, hkept⟩

theorem close_after_spared {moves : List Move} (hq : ∀ move ∈ moves, move.Spares turn) {c : Close}
    (fits : c.Fits (turn.after moves)) :
    let apart := m.after house moves
    (apart.close house (turn.after moves) c).2.Sound ∧
      ∃ s, (apart.close house (turn.after moves) c).2.record? turn.marked.id = some s ∧
        s.status ≠ .generating := by
  intro apart
  obtain ⟨hapart, hmem, hrecord⟩ := spared_after h house ht hs hq
  have hsame := turn.marked_after moves
  have hrecord : apart.record? (turn.after moves).marked.id = some (turn.after moves).marked := by
    rw [hsame]
    exact hrecord
  refine ⟨hapart.close house hmem c, ?_⟩
  have hclosed := close_record_ne hapart house hmem hrecord fits
  rw [hsame] at hclosed
  exact hclosed

theorem close_of_refused {fault : Fault} (hc : chosen turn.marked node value = .error fault)
    {moves : List Move} (hq : ∀ move ∈ moves, move.Spares turn) {c : Close}
    (fits : c.Fits (turn.after moves)) :
    let choice := Move.select turn.marked.id node value
    let during := ((m.step house choice).after house moves).close house (turn.after moves) c
    let apart := (m.after house moves).close house (turn.after moves) c
    during = apart ∧ apart.2.step house choice = apart.2 ∧
      ∃ s, apart.2.session? turn.marked.id = .ok (some s) := by
  intro choice during apart
  obtain ⟨hclosed, s, hrecord, -⟩ := close_after_spared h house ht hs hq fits
  have hidle : m.step house choice = m := step_of_refused h house hs hc
  refine ⟨?_, step_of_refused hclosed house hrecord (chosen_error hc s), s, ?_⟩
  · simp only [during, apart, hidle]
  · rw [session?_eq hclosed.orderly, hrecord]

theorem close_of_chosen {selected : Mapping String}
    (hc : chosen turn.marked node value = .ok selected) {moves : List Move}
    (hq : ∀ move ∈ moves, move.Spares turn) {c : Close} (fits : c.Fits (turn.after moves)) :
    let choice := Move.select turn.marked.id node value
    let during := ((m.step house choice).after house moves).close house (turn.after moves) c
    let apart := (m.after house moves).close house (turn.after moves) c
    during.1 = .error
        (Store.conflict turn.marked.id turn.marked.version (turn.marked.version + 1)) ∧
      (∃ s, during.2.session? turn.marked.id = .ok (some s) ∧ s.status = .generating) ∧
      ∀ t, (apart.2.step house choice).session? turn.marked.id = .ok (some t) →
        t.status ≠ .generating := by
  intro choice during apart
  obtain ⟨hduring, hfails, hkept⟩ := close_after_chosen h house ht hs hc hq c
  obtain ⟨hclosed, s, hrecord, hne⟩ := close_after_spared h house ht hs hq fits
  refine ⟨hfails, ⟨turn.marked.revise m.now { selected := some selected }, ?_, ?_⟩, ?_⟩
  · exact (session?_eq hduring.orderly _).trans (congrArg _ hkept)
  · exact (h.proper turn ht).generating
  · intro t hread
    rw [session?_eq (hclosed.step house choice).orderly, Except.ok.injEq] at hread
    cases hagain : chosen s node value with
    | error fault =>
        have hidle : apart.2.step house choice = apart.2 :=
          step_of_refused hclosed house hrecord hagain
        rw [hidle] at hread
        cases hrecord.symm.trans hread
        exact hne
    | ok again =>
        cases (step_of_chosen hclosed house hrecord hagain).symm.trans hread
        exact hne

theorem close_iff_refused {moves : List Move} (hq : ∀ move ∈ moves, move.Spares turn)
    (node value : Value) {c : Close} (fits : c.Fits (turn.after moves)) :
    let choice := Move.select turn.marked.id node value
    let during := ((m.step house choice).after house moves).close house (turn.after moves) c
    let apart := (m.after house moves).close house (turn.after moves) c
    let refused := ∀ s after, m.select turn.marked.id node value ≠ .ok (s, after)
    ((during.1 = apart.1 ∧ ∃ s t, during.2.session? turn.marked.id = .ok (some s) ∧
        (apart.2.step house choice).session? turn.marked.id = .ok (some t) ∧
          s = t.inVersionOf s) ↔ refused) ∧
      (¬ refused → during.1 = .error
          (Store.conflict turn.marked.id turn.marked.version (turn.marked.version + 1)) ∧
        ∃ s, during.2.session? turn.marked.id = .ok (some s) ∧ s.status = .generating) := by
  intro choice during apart refused
  have hrefused : refused ↔ ∃ fault, chosen turn.marked node value = .error fault :=
    select_refused_iff h hs
  cases hc : chosen turn.marked node value with
  | error fault =>
      have hyes : refused := hrefused.2 ⟨fault, hc⟩
      obtain ⟨heq, hidle, r, hr⟩ := close_of_refused h house ht hs hc hq fits
      have heq : during = apart := heq
      have hidle : apart.2.step house choice = apart.2 := hidle
      refine ⟨⟨fun _ => hyes, fun _ => ⟨congrArg Prod.fst heq, r, r, ?_, ?_, rfl⟩⟩,
        fun hno => absurd hyes hno⟩
      · rw [heq]
        exact hr
      · rw [hidle]
        exact hr
  | ok selected =>
      have hno : ¬ refused := by
        rw [hrefused, hc]
        rintro ⟨fault, ⟨⟩⟩
      obtain ⟨hfails, ⟨r, hr, hgen⟩, hne⟩ := close_of_chosen h house ht hs hc hq fits
      refine ⟨⟨?_, fun hyes => absurd hyes hno⟩, fun _ => ⟨hfails, r, hr, hgen⟩⟩
      rintro ⟨-, s, t, hkept, ht, heq⟩
      rw [hr, Except.ok.injEq, Option.some.injEq] at hkept
      subst hkept
      refine absurd ?_ (hne t ht)
      rw [← hgen, heq]
      rfl

end Runs

/-- A choice during a turn comes to the same as the choice after the turn exactly if it is refused.
A choice that is recorded costs the turn, which fails and leaves its session marked. -/
theorem choice_harmless_iff_refused {house : House} {m next : Manager} {id : String}
    {request : Request} {turn : Pending} (hm : Reachable house m)
    (hb : begin house m id request = (.ok turn, next)) {earlier later : List Move}
    (hp : ∀ move ∈ earlier ++ later, move.Spares turn) (node value : Value) (c : Close)
    (fits : c.Fits (turn.after (earlier ++ later))) :
    let choice := Move.select id node value
    let ended := turn.after (earlier ++ later)
    let during := (next.after house (earlier ++ choice :: later)).close house ended c
    let apart := (next.after house (earlier ++ later)).close house ended c
    let refused := ∀ s after, (next.after house earlier).select id node value ≠ .ok (s, after)
    ((during.1 = apart.1 ∧ ∃ s t, during.2.session? id = .ok (some s) ∧
        (apart.2.step house choice).session? id = .ok (some t) ∧ s = t.inVersionOf s) ↔ refused) ∧
      (¬ refused → during.1
          = .error (Store.conflict id turn.marked.version (turn.marked.version + 1)) ∧
        ∃ s, during.2.session? id = .ok (some s) ∧ s.status = .generating) := by
  intro choice ended during apart refused
  have h := hm.sound
  obtain ⟨hnext, hmem, rfl, hrecord, -⟩ := begun_of_ok h hb
  have hsame := turn.marked_after earlier
  have hended : ended = (turn.after earlier).after later := List.foldl_append
  obtain ⟨hmid, hpending, hmidrecord⟩ := spared_after hnext house hmem hrecord
    fun move hmove => hp move (List.mem_append_left later hmove)
  rw [← hsame] at hmidrecord
  have hlater : ∀ move ∈ later, move.Spares (turn.after earlier) := by
    intro move hmove
    have hspares := hp move (List.mem_append_right earlier hmove)
    simpa [Move.Spares, Move.Passes] using hspares
  have hiff := close_iff_refused hmid house hpending hmidrecord hlater node value
    (c := c) (hended ▸ fits)
  have hduring : during = (((next.after house earlier).step house choice).after house later).close
      house ((turn.after earlier).after later) c := by
    simp only [during, hended, after_append]
    rfl
  have hapart : apart = ((next.after house earlier).after house later).close
      house ((turn.after earlier).after later) c := by
    simp only [apart, hended, after_append]
  simp only [hsame] at hiff
  rw [hduring, hapart]
  exact hiff

theorem sample_choice_harmless_iff_refused :
    let m := Sample.start.after Sample.house [.create (.text "c") (.text "chat") .null (.text "en")]
    let later := [Move.answer 1 Sample.world]
    let choice := Move.select "s1" (.text "reply") (.text "yes")
    ∃ turn next result, begin Sample.house m "s1" (.bare .null) = (.ok turn, next) ∧
      (turn.after later).work = .done result ∧
      let during := (next.after Sample.house (choice :: later)).close Sample.house
        (turn.after later) (.settled result)
      let apart := (next.after Sample.house later).close Sample.house (turn.after later)
        (.settled result)
      let refused := ∀ s after, next.select "s1" (.text "reply") (.text "yes") ≠ .ok (s, after)
      ((during.1 = apart.1 ∧ ∃ s t, during.2.session? "s1" = .ok (some s) ∧
        (apart.2.step Sample.house choice).session? "s1" = .ok (some t) ∧ s = t.inVersionOf s) ↔
          refused) := by
  intro m later choice
  obtain ⟨turn, next, hb, hdone⟩ : ∃ turn next,
      begin Sample.house m "s1" (.bare .null) = (.ok turn, next) ∧
        (turn.after later).isDone = true :=
    exists_of_accepts (p := fun turn => (turn.after later).isDone) (by decide +kernel)
  obtain ⟨result, hwork⟩ := Pending.exists_of_isDone hdone
  have hm : Reachable Sample.house m := ⟨_, _, _, rfl⟩
  have hp : ∀ move ∈ [] ++ later, move.Spares turn := by
    simp [later, Move.Spares, Move.Passes, Move.Ends, Move.Selects, Move.Deletes, Move.Cancels]
  exact ⟨turn, next, result, hb, hwork, (choice_harmless_iff_refused hm hb hp (.text "reply")
    (.text "yes") (.settled result) hwork).1⟩

theorem exists_choice_not_harmless :
    let rest := [.answer 1 Sample.world, .settle 1]
    let choice := .select "s1" (.text "reply") (.text "yes")
    ∃ s t, (Sample.start.after Sample.house (Sample.launch :: choice :: rest)).session? "s1"
        = .ok (some s) ∧
      (Sample.start.after Sample.house (Sample.launch :: rest ++ [choice])).session? "s1"
        = .ok (some t) ∧ s ≠ t.inVersionOf s := by
  intro rest choice
  obtain ⟨s, hs, hgen⟩ : ∃ s, (Sample.start.after Sample.house
      (Sample.launch :: choice :: rest)).session? "s1" = .ok (some s) ∧
        decide (s.status = .generating) = true := exists_of_shows (by decide +kernel)
  obtain ⟨t, ht, hdone⟩ : ∃ t, (Sample.start.after Sample.house
      (Sample.launch :: rest ++ [choice])).session? "s1" = .ok (some t) ∧
        decide (t.status = .completed) = true := exists_of_shows (by decide +kernel)
  refine ⟨s, t, hs, ht, fun heq => ?_⟩
  have hstatus := congrArg Session.status heq
  rw [of_decide_eq_true hgen] at hstatus
  cases hstatus.trans (of_decide_eq_true hdone)

end Manager

end Dialogue
