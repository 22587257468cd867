import Dialogue.Proofs.Manager.Tidy
/-!
Turns of one session exclude each other, and no lock outlives the need for it: a session has a lock
only while a turn of it is in flight or it is there and not over.
-/
namespace Dialogue.Manager

open Turn

variable {m n : Manager} {id : String}

/-- The session is there and not over. -/
def Going (m : Manager) (id : String) : Prop :=
  ∃ s, m.record? id = some s ∧ s.isTerminal = false

/-- A turn of the session is in flight, or one can still begin. -/
def Live (m : Manager) (id : String) : Prop := m.turnsOf id ≠ [] ∨ m.Going id

/-- Only live sessions have locks. -/
def Frugal (m : Manager) : Prop :=
  ∀ id lock, Mapping.get? m.locks id = some lock → m.Live id

theorem Going.congr (h : m.Going id) (record : n.record? id = m.record? id) : n.Going id := by
  obtain ⟨s, hs, hgoing⟩ := h
  exact ⟨s, record.trans hs, hgoing⟩

theorem Live.congr (h : m.Live id) (record : n.record? id = m.record? id)
    (turns : n.turnsOf id = m.turnsOf id) : n.Live id := by
  rcases h with hturns | hgoing
  · exact .inl (turns ▸ hturns)
  · exact .inr (hgoing.congr record)

theorem frugal_empty (sink : Sink) (now : Moment) : (empty sink now).Frugal := by
  rintro id lock ⟨⟩

/-- A session that has a lock after one was asked back goes on, or had another lock, or the lock is
held. -/
theorem release_keeps (h : m.store.Orderly) {lock held : Nat}
    (hl : Mapping.get? (m.release id lock).locks id = some held) :
    m.Going id ∨ Mapping.get? m.locks id ≠ some lock ∨ m.isHeld lock = true := by
  refine Classical.byContradiction fun hno => ?_
  obtain ⟨hover, hno⟩ := not_or.1 hno
  obtain ⟨hget, hfree⟩ := not_or.1 hno
  have hget : Mapping.get? m.locks id = some lock := Classical.not_not.1 hget
  have hreleased : m.release id lock = { m with locks := Mapping.erase m.locks id } := by
    unfold release
    rw [session?_eq h]
    cases hs : m.record? id with
    | none => simp [hget, hfree]
    | some s =>
        have hterminal : s.isTerminal = true :=
          Bool.not_eq_false _ ▸ fun hgoing => hover ⟨s, hs, hgoing⟩
        simp [hterminal, hget, hfree]
  rw [hreleased, Mapping.get?_erase, if_pos rfl] at hl
  cases hl

theorem unlock_keeps {held : Nat} (hl : Mapping.get? (m.unlock id).locks id = some held) :
    m.isHeld held = true := by
  unfold unlock at hl
  split at hl
  · rename_i lock hget
    split at hl
    · rename_i hheld
      rw [hget] at hl
      cases hl
      exact hheld
    · rw [Mapping.get?_erase, if_pos rfl] at hl
      cases hl
  · rename_i hnone
    cases hnone.symm.trans hl

/-- The lock of a session is held by turns of the session. -/
theorem turnsOf_of_isHeld (h : m.Tidy) {lock : Nat} (hl : Mapping.get? m.locks id = some lock)
    (hheld : m.isHeld lock = true) : m.turnsOf id ≠ [] := by
  obtain ⟨turn, ht, rfl⟩ := isHeld_iff.1 hheld
  exact List.ne_nil_of_mem (mem_turnsOf.2 ⟨ht, h.owned id turn ht hl⟩)

namespace Frugal

theorem create (h : m.Frugal) (hsound : m.Sound) (conversation scenario slots language : Value) :
    (m.create conversation scenario slots language).2.Frugal := by
  intro id lock hl
  rcases create_cases hsound conversation scenario slots language id with
    ⟨hrecord, hturns⟩ | ⟨-, -, s, hrecord, hactive⟩
  · exact (h id lock hl).congr hrecord hturns
  · refine .inr ⟨s, hrecord, ?_⟩
    rw [Session.isTerminal, hactive]
    rfl

/-- Asking back the lock of a session is enough if only that session might have one for nothing. -/
theorem release (horderly : m.store.Orderly) {lock : Nat}
    (others : ∀ other held, id ≠ other → Mapping.get? m.locks other = some held → m.Live other)
    (own : ∀ held, Mapping.get? m.locks id = some held → held = lock)
    (holders : Mapping.get? m.locks id = some lock → m.isHeld lock = true → m.turnsOf id ≠ []) :
    (m.release id lock).Frugal := by
  intro other held hl
  obtain ⟨locks, hreleased, hlocks⟩ := release_locks m id lock
  have hlive : m.Live other := by
    have hold : Mapping.get? m.locks other = some held := by
      rw [hreleased] at hl
      exact hlocks other held hl
    by_cases heq : id = other
    · subst heq
      have hlock := own held hold
      subst hlock
      rcases release_keeps horderly hl with hgoing | hno | hheld
      · exact .inr hgoing
      · exact absurd hold hno
      · exact .inl (holders hold hheld)
    · exact others other held heq hold
  rw [hreleased]
  exact hlive.congr rfl rfl

theorem refused (h : m.Frugal) (hsound : m.Sound) (htidy : m.Tidy) (free : ¬ m.IsBusy id) :
    ((m.lock id).release id (m.lockOf id)).Frugal := by
  have hget (other : String) : Mapping.get? (m.lock id).locks other
      = if id = other then some (m.lockOf id) else Mapping.get? m.locks other :=
    Mapping.get?_set _ _ _ _
  have horderly : (m.lock id).store.Orderly := hsound.orderly
  refine release horderly ?_ ?_ ?_
  · intro other held hne hl
    rw [hget, if_neg hne] at hl
    exact (h other held hl).congr rfl rfl
  · intro held hl
    rw [hget, if_pos rfl] at hl
    exact (Option.some.inj hl).symm
  · intro _ hheld
    obtain ⟨turn, ht, hlock⟩ := isHeld_iff.1 hheld
    exact absurd hlock (free_lock htidy free turn ht)

theorem enlist (h : m.Frugal) {turn : Pending} (hid : turn.marked.id = id) :
    (m.enlist id turn).Frugal := by
  intro other lock hl
  have hturns := turnsOf_enlist m turn other id
  rw [hid] at hturns
  by_cases heq : id = other
  · rw [if_pos heq] at hturns
    exact .inl (hturns ▸ List.append_ne_nil_of_right_ne_nil _ (List.cons_ne_nil turn []))
  · rw [if_neg heq] at hturns
    have hold : Mapping.get? m.locks other = some lock :=
      ((Mapping.get?_set _ _ _ _).trans (if_neg heq)).symm.trans hl
    have hrecord := (record?_put m turn.marked other).trans (if_neg (hid.symm ▸ heq))
    exact (h other lock hold).congr hrecord hturns

theorem begin (h : m.Frugal) (hsound : m.Sound) (htidy : m.Tidy) (house : House) (id : String)
    (request : Request) : (begin house m id request).2.Frugal := by
  by_cases hb : m.IsBusy id
  · rw [begin_busy house request hb]
    exact h
  · rw [begin_free hsound.orderly house request hb]
    cases hgrant : grant house id (m.record? id) request with
    | error fault => exact h.refused hsound htidy hb
    | ok granted =>
        have hs := grant_ok hgrant
        exact h.enlist (hsound.orderly.of_record hs).1

theorem close (h : m.Frugal) (hsound : m.Sound) (htidy : m.Tidy) (house : House) {turn : Pending}
    (ht : turn ∈ m.pending) (c : Close) : (m.close house turn c).2.Frugal := by
  obtain ⟨events, hm⟩ := close_manager hsound.orderly house turn c
  obtain ⟨store, now, hw⟩ := written_eq m turn (turn.change c)
  have hclosed := (hsound.close house ht c).orderly
  have hrecord {other : String} (hne : turn.marked.id ≠ other) :=
    record?_written_other hsound turn (turn.change c) hne
  rw [hw] at hm hrecord
  rw [hm] at hclosed ⊢
  have horderly : store.Orderly := by
    obtain ⟨locks, hreleased, -⟩ := release_eq _ turn.marked.id turn.lock
    rw [finish, hreleased] at hclosed
    exact hclosed
  refine release horderly ?_ ?_ ?_
  · intro other held hne hl
    exact (h other held hl).congr (hrecord hne) (turnsOf_remove_other hsound ht hne)
  · intro held hl
    -- a session with a lock has a record, so the lock is still that of its turn
    obtain ⟨s, hs⟩ := htidy.alive _ held hl
    have hlocked := (hsound.follows turn ht s hs).locked
    exact Option.some.inj (hl.symm.trans hlocked)
  · intro hl hheld
    -- the turn itself is out by now, so it is another one that holds the lock
    obtain ⟨other, hmem, hlock⟩ := isHeld_iff.1 hheld
    have hpending : other ∈ m.pending := (List.mem_filter.1 hmem).1
    refine List.ne_nil_of_mem (mem_turnsOf.2 ⟨hmem, ?_⟩)
    exact htidy.owned _ other hpending (hlock ▸ hl)

theorem put (h : m.Frugal) {s : Session} (hs : m.Going s.id → s.isTerminal = false) :
    (m.put s).Frugal := by
  intro other lock hl
  have hrecord := record?_put m s other
  rcases h other lock hl with hturns | hgoing
  · exact .inl hturns
  · by_cases heq : s.id = other
    · rw [if_pos heq] at hrecord
      exact .inr ⟨s.storable, hrecord, hs (heq ▸ hgoing)⟩
    · rw [if_neg heq] at hrecord
      exact .inr (hgoing.congr hrecord)

theorem select (h : m.Frugal) (hsound : m.Sound) {node value : Value} {s : Session}
    (hc : m.select id node value = .ok (s, n)) : n.Frugal := by
  obtain ⟨r, selected, hr, -, rfl⟩ := select_cases hsound.orderly hc
  refine h.put ?_
  rintro ⟨t, ht, hgoing⟩
  have hid : (r.revise m.now { selected := some selected }).id = id :=
    (hsound.orderly.of_record hr).1
  rw [hid] at ht
  cases hr.symm.trans ht
  exact hgoing

theorem cancel (h : m.Frugal) (hsound : m.Sound) (htidy : m.Tidy) {s : Session}
    (hc : m.cancel id = .ok (s, n)) : n.Frugal := by
  rw [cancel_eq hsound.orderly] at hc
  cases hs : m.record? id with
  | none =>
      rw [hs] at hc
      cases hc
  | some r =>
      simp only [hs] at hc
      split at hc
      · cases hc
        exact h
      · cases hc
        generalize hcanceled : r.revise m.now { status := some .canceled, awaiting := some false }
          = canceled
        have hid : canceled.id = id := by
          rw [← hcanceled]
          exact (hsound.orderly.of_record hs).1
        obtain ⟨locks, hm, hlocks⟩ := unlock_locks (m.put canceled) id
        intro other lock hl
        have hkept : Mapping.get? ((m.put canceled).unlock id).locks id = some lock →
            m.isHeld lock = true := unlock_keeps
        rw [hm] at hl hkept ⊢
        have hold := hlocks other lock hl
        by_cases heq : id = other
        · subst heq
          have hturns : m.turnsOf id ≠ [] := turnsOf_of_isHeld htidy hold (hkept hl)
          exact .inl hturns
        · have hrecord := (record?_put m canceled other).trans (if_neg (hid.symm ▸ heq))
          exact (h other lock hold).congr hrecord rfl

theorem delete (h : m.Frugal) (id : String) : (m.delete id).2.Frugal := by
  intro other lock hl
  have hl : Mapping.get? (Mapping.erase m.locks id) other = some lock := hl
  rw [Mapping.get?_erase] at hl
  split at hl
  · cases hl
  · rename_i hne
    exact (h other lock hl).congr ((Store.record?_delete m.store id other).trans (if_neg hne)) rfl

theorem advance (h : m.Frugal) (move : Move) :
    ({ m with pending := m.pending.map (·.step move) } : Manager).Frugal := by
  intro id lock hl
  rcases h id lock hl with hturns | hgoing
  · refine .inl ?_
    rw [turnsOf_advance]
    exact mt List.map_eq_nil_iff.1 hturns
  · exact .inr (hgoing.congr rfl)

theorem step (h : m.Frugal) (hsound : m.Sound) (htidy : m.Tidy) (house : House) (move : Move) :
    (m.step house move).Frugal := by
  have ha := hsound.acted house move
  generalize m.step house move = n at ha
  cases ha with
  | idle => exact h
  | elsewhere _ sink now => exact h
  | created conversation scenario slots language => exact h.create hsound _ _ _ _
  | unlaunched conversation scenario slots language spoken => exact h.create hsound _ _ _ _
  | launched conversation scenario slots language spoken id made =>
      have hcreated := h.create hsound conversation (.text scenario) slots spoken
      exact hcreated.begin (hsound.create _ _ _ _) (htidy.create _ _ _ _) house id _
  | begun id request => exact h.begin hsound htidy house id request
  | answered turn world => exact h.advance _
  | closed _ turn mem c => exact h.close hsound htidy house mem c
  | canceled id s next done => exact h.cancel hsound htidy done
  | selected id node value s next done => exact h.select hsound done
  | deleted id => exact h.delete id

theorem after (h : m.Frugal) (hsound : m.Sound) (htidy : m.Tidy) (house : House)
    (moves : List Move) : (m.after house moves).Frugal := by
  induction moves generalizing m with
  | nil => exact h
  | cons move rest ih =>
      exact ih (h.step hsound htidy house move) (hsound.step house move)
        (htidy.step hsound house move)

end Frugal

/-- A turn is in flight whose session is gone. -/
def Stray (m : Manager) (id : String) : Prop := m.turnsOf id ≠ [] ∧ m.record? id = none

theorem record?_of_written_none (h : m.Sound) {turn : Pending} (change : Session.Change)
    (hn : (m.written turn change).record? turn.marked.id = none) :
    m.record? turn.marked.id = none := by
  cases hs : m.record? turn.marked.id with
  | none => rfl
  | some s =>
      by_cases hv : turn.marked.version = s.version
      · cases (record?_written_current h hs hv change).symm.trans hn
      · rw [written_of_stale hs hv, hs] at hn
        cases hn

theorem stray_step (h : m.Sound) (house : House) {move : Move}
    (hstray : (m.step house move).Stray id) : m.Stray id ∨ move = .delete id := by
  have hseen := seen h house move id
  generalize m.step house move = n at hseen hstray
  obtain ⟨hturns, hn⟩ := hstray
  cases hseen with
  | kept _ _ record turns =>
      rw [turns] at hturns
      exact .inl ⟨mt List.map_eq_nil_iff.2 hturns, record.symm.trans hn⟩
  | created _ _ s fresh record => cases record.symm.trans hn
  | launched _ _ turn fresh record => cases record.symm.trans hn
  | begun request _ s turn stored going free marked record => cases record.symm.trans hn
  | closed _ _ turn mem ends c fits record turns =>
      obtain ⟨-, rfl⟩ := mem_turnsOf.1 mem
      exact .inl ⟨List.ne_nil_of_mem mem, record?_of_written_none h _ (record.symm.trans hn)⟩
  | canceled _ s stored going record => cases record.symm.trans hn
  | selected node value _ s selected stored accepted record => cases record.symm.trans hn
  | deleted => exact .inr rfl

theorem stray_after (h : m.Sound) (house : House) {moves : List Move}
    (hstray : (m.after house moves).Stray id) : m.Stray id ∨ .delete id ∈ moves := by
  induction moves generalizing m with
  | nil => exact .inl hstray
  | cons move rest ih =>
      rcases ih (h.step house move) hstray with hstray | hrest
      · rcases stray_step h house hstray with hstray | rfl
        · exact .inl hstray
        · exact .inr List.mem_cons_self
      · exact .inr (List.mem_cons_of_mem _ hrest)

/-- However moves are interleaved, a session has at most one turn in flight; while it has one and
has not been deleted, another is refused and nothing changes; and it has a lock only while it has a
turn in flight or is there and not over. -/
theorem turns_exclude_each_other (house : House) (sink : Sink) (now : Moment) (moves : List Move)
    (id : String) :
    let m := (empty sink now).after house moves
    (∀ turn ∈ m.pending, ∀ other ∈ m.pending,
      turn.marked.id = id → other.marked.id = id → turn = other) ∧
    (m.InFlight id → (∃ s, m.session? id = .ok (some s)) ∨ .delete id ∈ moves) ∧
    (m.InFlight id → (∃ s, m.session? id = .ok (some s)) → ∀ request,
      begin house m id request = (.error (.turnInProgress id), m)) ∧
    ∀ lock, Mapping.get? m.locks id = some lock →
      m.InFlight id ∨ ∃ s, m.session? id = .ok (some s) ∧ s.isTerminal = false := by
  intro m
  have hempty := sound_empty sink now
  have hsound : m.Sound := hempty.after house moves
  have htidy : m.Tidy := (tidy_empty sink now).after hempty house moves
  have hfrugal : m.Frugal := (frugal_empty sink now).after hempty (tidy_empty sink now) house moves
  refine ⟨?_, ?_, ?_, ?_⟩
  · intro turn ht other ho hturn hother
    have hmem := mem_turnsOf.2 ⟨ht, hturn⟩
    have hmemOther := mem_turnsOf.2 ⟨ho, hother⟩
    rcases htidy.turnsOf_cases id with hnone | ⟨one, hone⟩
    · rw [hnone] at hmem
      cases hmem
    · rw [hone, List.mem_singleton] at hmem hmemOther
      exact hmem.trans hmemOther.symm
  · intro hflight
    cases hs : m.record? id with
    | some s => exact .inl ⟨s, by rw [session?_eq hsound.orderly, hs]⟩
    | none =>
        rcases stray_after hempty house (m := empty sink now) ⟨inFlight_iff.1 hflight, hs⟩ with
          ⟨hturns, -⟩ | hdeleted
        · exact absurd rfl hturns
        · exact .inr hdeleted
  · rintro hflight ⟨s, hs⟩ request
    rw [session?_eq hsound.orderly, Except.ok.injEq] at hs
    exact begin_busy house request (hsound.busy hs hflight)
  · intro lock hl
    rcases hfrugal id lock hl with hturns | ⟨s, hs, hgoing⟩
    · exact .inl (inFlight_iff.2 hturns)
    · exact .inr ⟨s, by rw [session?_eq hsound.orderly, hs], hgoing⟩

theorem second_turn_is_refused :
    let m := Sample.start.after Sample.house [Sample.launch]
    m.InFlight "s1" ∧ (∃ s, m.session? "s1" = .ok (some s)) ∧
      begin Sample.house m "s1" (.bare .null) = (.error (.turnInProgress "s1"), m) := by
  intro m
  have hturns : (m.turnsOf "s1").length = 1 := by decide +kernel
  have hflight : m.InFlight "s1" := inFlight_iff.2 (List.ne_nil_of_length_eq_add_one hturns)
  obtain ⟨s, hs, -⟩ : ∃ s, m.session? "s1" = .ok (some s) ∧ true = true :=
    exists_of_shows (by decide +kernel)
  obtain ⟨-, -, hrefused, -⟩ := turns_exclude_each_other Sample.house _ _ [Sample.launch] "s1"
  exact ⟨hflight, ⟨s, hs⟩, hrefused hflight ⟨s, hs⟩ (.bare .null)⟩

end Dialogue.Manager
