import Dialogue.Proofs.Manager.Revision
/-!
The locks of a manager. Each belongs to one session with a record, and only turns of that session
hold it; so a session is busy exactly if it has a record and a turn in flight.
-/
namespace Dialogue.Manager

open Turn

variable {m n : Manager} {id : String}

/-- Gives the session its lock before a turn of it may begin. -/
def lock (m : Manager) (id : String) : Manager :=
  { m with locks := Mapping.set m.locks id (m.lockOf id), given := m.given + 1 }

section Beginning

/-- The session, its scenario and the input of a turn, unless something stands against it. -/
def grant (house : House) (id : String) (record : Option Session) (request : Request) :
    Except Fault (Session × Scenario × Run.Input) :=
  match record with
  | none => .error (.sessionNotFound id)
  | some s =>
      if s.isTerminal then .error (.sessionTerminated id s.status)
      else do return (s, ← house.registry.require s.scenario, ← request.input)

theorem grant_ok {house : House} {record : Option Session} {request : Request} {s : Session}
    {scenario : Scenario} {input : Run.Input}
    (h : grant house id record request = .ok (s, scenario, input)) : record = some s := by
  unfold grant at h
  cases record with
  | none => cases h
  | some r =>
      simp only at h
      split at h
      · cases h
      · obtain ⟨_, -, h⟩ := exists_of_bind_ok h
        obtain ⟨_, -, h⟩ := exists_of_bind_ok h
        cases h
        rfl

theorem enter_eq (h : m.store.Orderly) (house : House) (id : String) (lock : Nat)
    (request : Request) :
    enter house m id lock request = (grant house id (m.record? id) request).map
      fun (s, scenario, input) =>
        let language := request.language.orElse (.text s.language)
        let marked := s.revise m.now { status := some .generating }
        let turn : Pending := ⟨m.given, lock, marked, input, language.text?.getD "",
          work house scenario marked input language⟩
        (turn, { m.put marked with pending := m.pending ++ [turn], given := m.given + 1 }) := by
  simp only [enter, require_eq h, grant]
  cases hs : m.record? id with
  | none => rfl
  | some s =>
      simp only [bind, Except.bind]
      cases s.isTerminal with
      | true => rfl
      | false =>
          simp only [Bool.false_eq_true, ↓reduceIte]
          cases house.registry.require s.scenario with
          | error fault => rfl
          | ok scenario =>
              cases request.input with
              | error fault => rfl
              | ok input =>
                  simp only [write_eq h, hs, Store.Admits, Option.mem_def, Option.some.injEq,
                    forall_eq', ↓reduceIte]
                  rfl

theorem begin_busy (house : House) (request : Request) (hb : m.IsBusy id) :
    begin house m id request = (.error (.turnInProgress id), m) := by
  have hbusy : (Mapping.has m.locks id && m.isHeld (m.lockOf id)) = true := by
    simpa [IsBusy] using hb
  simp only [begin, hbusy, ↓reduceIte]

theorem begin_free (h : m.store.Orderly) (house : House) (request : Request)
    (hf : ¬ m.IsBusy id) :
    begin house m id request = match grant house id (m.record? id) request with
      | .error fault => (.error fault, (m.lock id).release id (m.lockOf id))
      | .ok (s, scenario, input) =>
          let turn := turnOn house m id s scenario input
            (request.language.orElse (.text s.language))
          (.ok turn, m.enlist id turn) := by
  have hfree : (Mapping.has m.locks id && m.isHeld (m.lockOf id)) = false := by
    simpa [IsBusy] using hf
  have horderly : (m.lock id).store.Orderly := h
  have henter := enter_eq horderly house id (m.lockOf id) request
  simp only [begin, hfree, Bool.false_eq_true, ↓reduceIte]
  rw [show ({ m with locks := Mapping.set m.locks id (m.lockOf id), given := m.given + 1 } : Manager)
    = m.lock id from rfl, henter]
  rw [show (m.lock id).record? id = m.record? id from rfl]
  cases grant house id (m.record? id) request with
  | error fault => rfl
  | ok granted => rfl

end Beginning

/-- Letting go of locks makes no new ones. -/
theorem release_locks (m : Manager) (id : String) (lock : Nat) :
    ∃ locks, m.release id lock = { m with locks := locks } ∧
      ∀ other held, Mapping.get? locks other = some held →
        Mapping.get? m.locks other = some held := by
  have either (live : Bool) : ∃ locks,
      (if !live && Mapping.get? m.locks id = some lock && !m.isHeld lock then
        { m with locks := Mapping.erase m.locks id } else m) = { m with locks := locks } ∧
        ∀ other held, Mapping.get? locks other = some held →
          Mapping.get? m.locks other = some held := by
    split
    · refine ⟨_, rfl, fun other held hl => ?_⟩
      rw [Mapping.get?_erase] at hl
      split at hl
      · cases hl
      · exact hl
    · exact ⟨m.locks, rfl, fun _ _ hl => hl⟩
  exact either _

theorem unlock_locks (m : Manager) (id : String) :
    ∃ locks, m.unlock id = { m with locks := locks } ∧
      ∀ other held, Mapping.get? locks other = some held →
        Mapping.get? m.locks other = some held := by
  unfold unlock
  split
  · split
    · exact ⟨m.locks, rfl, fun _ _ hl => hl⟩
    · refine ⟨_, rfl, fun other held hl => ?_⟩
      rw [Mapping.get?_erase] at hl
      split at hl
      · cases hl
      · exact hl
  · exact ⟨m.locks, rfl, fun _ _ hl => hl⟩

structure Tidy (m : Manager) : Prop where
  given : ∀ id lock, Mapping.get? m.locks id = some lock → lock < m.given
  held : ∀ turn ∈ m.pending, turn.lock < m.given
  injective : ∀ id other lock, Mapping.get? m.locks id = some lock →
    Mapping.get? m.locks other = some lock → id = other
  owned : ∀ id, ∀ turn ∈ m.pending, Mapping.get? m.locks id = some turn.lock → turn.marked.id = id
  alive : ∀ id lock, Mapping.get? m.locks id = some lock → ∃ s, m.record? id = some s
  alone : ∀ id, (m.turnsOf id).length ≤ 1

theorem tidy_empty (sink : Sink) (now : Moment) : (empty sink now).Tidy where
  given := by rintro id lock ⟨⟩
  held := by rintro turn ⟨⟩
  injective := by rintro id other lock ⟨⟩
  owned := by rintro id turn ⟨⟩
  alive := by rintro id lock ⟨⟩
  alone _ := Nat.zero_le 1

/-- The lock of a session that is not busy is held by no turn. -/
theorem free_lock (h : m.Tidy) (hf : ¬ m.IsBusy id) : ∀ turn ∈ m.pending, turn.lock ≠ m.lockOf id := by
  intro turn ht heq
  unfold lockOf at heq
  cases hl : Mapping.get? m.locks id with
  | none =>
      rw [hl, Option.getD_none] at heq
      have := h.held turn ht
      omega
  | some lock =>
      rw [hl, Option.getD_some] at heq
      refine hf ⟨by simp [Mapping.has, hl], ?_⟩
      rw [lockOf, hl, Option.getD_some]
      exact isHeld_iff.2 ⟨turn, ht, heq⟩

theorem busy_iff (h : m.Sound) (ht : m.Tidy) :
    m.IsBusy id ↔ (∃ s, m.record? id = some s) ∧ m.turnsOf id ≠ [] := by
  constructor
  · rintro ⟨hhas, hheld⟩
    obtain ⟨lock, hl⟩ := Option.isSome_iff_exists.1 hhas
    refine ⟨ht.alive id lock hl, ?_⟩
    rw [lockOf, hl, Option.getD_some] at hheld
    obtain ⟨turn, hmem, rfl⟩ := isHeld_iff.1 hheld
    exact List.ne_nil_of_mem (mem_turnsOf.2 ⟨hmem, ht.owned id turn hmem hl⟩)
  · rintro ⟨⟨s, hs⟩, hturns⟩
    exact h.busy hs (inFlight_iff.2 hturns)

namespace Tidy

theorem of_kept (h : m.Tidy) (numbers : m.given ≤ n.given)
    (pending : n.pending.Sublist m.pending)
    (locks : ∀ id lock, Mapping.get? n.locks id = some lock → Mapping.get? m.locks id = some lock)
    (alive : ∀ id lock, Mapping.get? n.locks id = some lock → ∃ s, n.record? id = some s) :
    n.Tidy where
  given id lock hl := Nat.lt_of_lt_of_le (h.given id lock (locks id lock hl)) numbers
  held turn ht := Nat.lt_of_lt_of_le (h.held turn (pending.subset ht)) numbers
  injective id other lock hl ho := h.injective id other lock (locks id lock hl) (locks other lock ho)
  owned id turn ht hl := h.owned id turn (pending.subset ht) (locks id _ hl)
  alive := alive
  alone id := Nat.le_trans (pending.filter _).length_le (h.alone id)

theorem release (h : m.Tidy) (id : String) (lock : Nat) : (m.release id lock).Tidy := by
  obtain ⟨locks, hm, hlocks⟩ := release_locks m id lock
  rw [hm]
  exact h.of_kept (Nat.le_refl _) (.refl _) hlocks
    fun other held hl => h.alive other held (hlocks other held hl)

theorem lock (h : m.Tidy) (hf : ¬ m.IsBusy id) {s : Session} (hs : m.record? id = some s) :
    (m.lock id).Tidy := by
  have hget (other : String) : Mapping.get? (m.lock id).locks other
      = if id = other then some (m.lockOf id) else Mapping.get? m.locks other :=
    Mapping.get?_set _ _ _ _
  have hnew (other : String) (hl : Mapping.get? m.locks other = some (m.lockOf id)) :
      id = other := by
    unfold lockOf at hl
    cases hown : Mapping.get? m.locks id with
    | none =>
        rw [hown, Option.getD_none] at hl
        exact absurd (h.given other _ hl) (Nat.lt_irrefl _)
    | some lock =>
        rw [hown, Option.getD_some] at hl
        exact h.injective id other lock hown hl
  have hle : m.lockOf id ≤ m.given := by
    unfold lockOf
    cases hown : Mapping.get? m.locks id with
    | none => exact Nat.le_refl _
    | some lock => exact Nat.le_of_lt (h.given id lock hown)
  refine ⟨?_, ?_, ?_, ?_, ?_, h.alone⟩
  · intro other lock hl
    rw [hget] at hl
    split at hl
    · cases hl
      exact Nat.lt_succ_of_le hle
    · exact Nat.lt_succ_of_lt (h.given other lock hl)
  · exact fun turn ht => Nat.lt_succ_of_lt (h.held turn ht)
  · intro one other lock hone hother
    rw [hget] at hone hother
    split at hone <;> split at hother
    · rename_i hi hj
      exact hi.symm.trans hj
    · rename_i hi hj
      cases hone
      exact absurd (hnew other hother) hj
    · rename_i hi hj
      cases hother
      exact absurd (hnew one hone) hi
    · exact h.injective one other lock hone hother
  · intro other turn ht hl
    rw [hget] at hl
    split at hl
    · exact absurd (Option.some.inj hl).symm (free_lock h hf turn ht)
    · exact h.owned other turn ht hl
  · intro other lock hl
    rw [hget] at hl
    split at hl
    · rename_i heq
      exact ⟨s, heq ▸ hs⟩
    · exact h.alive other lock hl

theorem enlist (h : m.Tidy) (hsound : m.Sound) (hf : ¬ m.IsBusy id) {turn : Pending}
    (hid : turn.marked.id = id) (hlock : turn.lock = m.lockOf id) {s : Session}
    (hs : m.record? id = some s) : (m.enlist id turn).Tidy := by
  have hl := h.lock hf hs
  have hlocks : (m.enlist id turn).locks = (m.lock id).locks := by
    rw [Manager.enlist, hlock]
    rfl
  have hown : Mapping.get? (m.lock id).locks id = some turn.lock := by
    rw [hlock]
    exact (Mapping.get?_set _ _ _ _).trans (if_pos rfl)
  have hpending (other : Pending) (ho : other ∈ (m.enlist id turn).pending) :
      other ∈ m.pending ∨ other = turn := by
    simpa [Manager.enlist] using ho
  refine ⟨?_, ?_, ?_, ?_, ?_, ?_⟩
  · intro other lock hget
    exact Nat.lt_succ_of_lt (hl.given other lock (hlocks ▸ hget))
  · intro other ho
    rcases hpending other ho with ho | rfl
    · exact Nat.lt_succ_of_lt (hl.held other ho)
    · exact Nat.lt_succ_of_lt (hl.given id _ hown)
  · rw [hlocks]
    exact hl.injective
  · intro other one hone hget
    rw [hlocks] at hget
    rcases hpending one hone with hone | rfl
    · exact hl.owned other one hone hget
    · exact hid.trans (hl.injective id other _ hown hget)
  · intro other lock hget
    obtain ⟨r, hr⟩ := hl.alive other lock (hlocks ▸ hget)
    have hrecord := record?_put m turn.marked other
    split at hrecord
    · exact ⟨_, hrecord⟩
    · exact ⟨r, hrecord.trans hr⟩
  · intro other
    rw [turnsOf_enlist]
    split
    · rename_i heq
      have hnone : m.turnsOf other = [] := by
        refine Classical.byContradiction fun hsome => hf ?_
        exact hsound.busy hs (hid.symm.trans heq ▸ inFlight_iff.2 hsome)
      rw [hnone]
      exact Nat.le_refl 1
    · exact h.alone other

theorem begin (h : m.Tidy) (hsound : m.Sound) (house : House) (id : String) (request : Request) :
    (begin house m id request).2.Tidy := by
  by_cases hb : m.IsBusy id
  · rw [begin_busy house request hb]
    exact h
  · rw [begin_free hsound.orderly house request hb]
    cases hs : m.record? id with
    | none =>
        -- without a record the new lock is let go again
        have hgone : (m.lock id).release id (m.lockOf id)
            = { m.lock id with locks := Mapping.erase (m.lock id).locks id } := by
          have hsession : (m.lock id).session? id = .ok none :=
            (session?_eq (m := m.lock id) hsound.orderly id).trans (congrArg _ hs)
          have hget : Mapping.get? (m.lock id).locks id = some (m.lockOf id) :=
            (Mapping.get?_set _ _ _ _).trans (if_pos rfl)
          have hheld : ¬ (m.lock id).isHeld (m.lockOf id) = true := by
            rw [isHeld_iff]
            rintro ⟨turn, ht, hlock⟩
            exact free_lock h hb turn ht hlock
          simp [Manager.release, hsession, hget, hheld]
        have hshrunk (other : String) (lock : Nat)
            (hl : Mapping.get? (Mapping.erase (m.lock id).locks id) other = some lock) :
            Mapping.get? m.locks other = some lock := by
          rw [Mapping.get?_erase] at hl
          split at hl
          · cases hl
          · rename_i hne
            exact ((Mapping.get?_set _ _ _ _).trans (if_neg hne)).symm.trans hl
        simp only [grant, hgone]
        exact h.of_kept (Nat.le_succ _) (.refl _) hshrunk
          fun other lock hl => h.alive other lock (hshrunk other lock hl)
    | some s =>
        cases hgrant : grant house id (some s) request with
        | error fault =>
            exact (h.lock hb hs).release id (m.lockOf id)
        | ok granted =>
            cases grant_ok hgrant
            exact h.enlist hsound hb (hsound.orderly.of_record hs).1 rfl hs

theorem revised (h : m.Tidy) {s : Session} {locks : Mapping Nat}
    (hlocks : ∀ other lock, Mapping.get? locks other = some lock →
      Mapping.get? m.locks other = some lock) :
    ({ m.put s with locks := locks } : Manager).Tidy := by
  refine h.of_kept (Nat.le_refl _) (.refl _) hlocks fun other lock hl => ?_
  have hrecord := record?_put m s other
  split at hrecord
  · exact ⟨_, hrecord⟩
  · obtain ⟨r, hr⟩ := h.alive other lock (hlocks other lock hl)
    exact ⟨r, hrecord.trans hr⟩

theorem written (h : m.Tidy) (turn : Pending) (change : Session.Change) :
    (m.written turn change).Tidy := by
  unfold Manager.written
  split
  · rename_i s hs
    split
    · exact h.revised fun _ _ hl => hl
    · exact h
  · exact h

theorem close (h : m.Tidy) (hsound : m.Sound) (house : House) (turn : Pending) (c : Close) :
    (m.close house turn c).2.Tidy := by
  obtain ⟨events, hm⟩ := close_manager hsound.orderly house turn c
  obtain ⟨store, now, hw⟩ := written_eq m turn (turn.change c)
  rw [hm]
  have hwritten := h.written turn (turn.change c)
  rw [hw] at hwritten ⊢
  refine Tidy.release ?_ _ _
  exact hwritten.of_kept (Nat.le_refl _) List.filter_sublist (fun _ _ hl => hl)
    hwritten.alive

theorem create (h : m.Tidy) (conversation scenario slots language : Value) :
    (m.create conversation scenario slots language).2.Tidy := by
  rcases Store.create_store m.store m.now conversation scenario slots language with
    ⟨s, -, -, hmade⟩ | ⟨fault, hmade⟩
  · simp only [Manager.create, hmade]
    refine h.of_kept (Nat.le_refl _) (.refl _) (fun _ _ hl => hl) fun other lock hl => ?_
    have hrecord := Store.record?_put { m.store with given := m.store.given + 1 } s other
    split at hrecord
    · exact ⟨_, hrecord⟩
    · obtain ⟨r, hr⟩ := h.alive other lock hl
      exact ⟨r, hrecord.trans hr⟩
  · simp only [Manager.create, hmade]
    exact h.of_kept (Nat.le_refl _) (.refl _) (fun _ _ hl => hl) h.alive

theorem cancel (h : m.Tidy) (horderly : m.store.Orderly) {s : Session} {next : Manager}
    (hc : m.cancel id = .ok (s, next)) : next.Tidy := by
  rw [cancel_eq horderly] at hc
  cases hs : m.record? id with
  | none =>
      rw [hs] at hc
      cases hc
  | some r =>
      simp only [hs] at hc
      split at hc
      · cases hc
        exact h
      · cases hc
        obtain ⟨locks, hm, hlocks⟩ := unlock_locks
          (m.put (r.revise m.now { status := some .canceled, awaiting := some false })) id
        rw [hm]
        exact h.revised hlocks

theorem select (h : m.Tidy) (horderly : m.store.Orderly) {node value : Value} {s : Session}
    {next : Manager} (hc : m.select id node value = .ok (s, next)) : next.Tidy := by
  obtain ⟨r, selected, -, -, rfl⟩ := select_cases horderly hc
  exact h.revised fun _ _ hl => hl

theorem delete (h : m.Tidy) (id : String) : (m.delete id).2.Tidy := by
  have hlocks (other : String) (lock : Nat)
      (hl : Mapping.get? (Mapping.erase m.locks id) other = some lock) :
      id ≠ other ∧ Mapping.get? m.locks other = some lock := by
    rw [Mapping.get?_erase] at hl
    split at hl
    · cases hl
    · exact ⟨‹_›, hl⟩
  refine h.of_kept (Nat.le_refl _) (.refl _) (fun other lock hl => (hlocks other lock hl).2)
    fun other lock hl => ?_
  obtain ⟨hne, hl⟩ := hlocks other lock hl
  obtain ⟨s, hs⟩ := h.alive other lock hl
  exact ⟨s, (Store.record?_delete m.store id other).trans ((if_neg hne).trans hs)⟩

theorem advance (h : m.Tidy) (move : Move) :
    ({ m with pending := m.pending.map (·.step move) } : Manager).Tidy := by
  refine ⟨h.given, ?_, h.injective, ?_, h.alive, ?_⟩
  · intro turn ht
    obtain ⟨old, ho, rfl⟩ := List.mem_map.1 ht
    rw [old.lock_step]
    exact h.held old ho
  · intro id turn ht hl
    obtain ⟨old, ho, rfl⟩ := List.mem_map.1 ht
    rw [old.lock_step] at hl
    rw [old.marked_step]
    exact h.owned id old ho hl
  · intro id
    rw [turnsOf_advance, List.length_map]
    exact h.alone id

theorem step (h : m.Tidy) (hsound : m.Sound) (house : House) (move : Move) :
    (m.step house move).Tidy := by
  have ha := hsound.acted house move
  generalize m.step house move = n at ha
  cases ha with
  | idle => exact h
  | elsewhere _ sink now => exact ⟨h.given, h.held, h.injective, h.owned, h.alive, h.alone⟩
  | created conversation scenario slots language => exact h.create _ _ _ _
  | unlaunched conversation scenario slots language spoken => exact h.create _ _ _ _
  | launched conversation scenario slots language spoken id made =>
      exact (h.create _ _ _ _).begin (hsound.create _ _ _ _) house id _
  | begun id request => exact h.begin hsound house id request
  | answered turn world => exact h.advance _
  | closed _ turn mem c => exact h.close hsound house turn c
  | canceled id s next done => exact h.cancel hsound.orderly done
  | selected id node value s next done => exact h.select hsound.orderly done
  | deleted id => exact h.delete id

theorem after (h : m.Tidy) (hsound : m.Sound) (house : House) (moves : List Move) :
    (m.after house moves).Tidy := by
  induction moves generalizing m with
  | nil => exact h
  | cons move rest ih => exact ih (h.step hsound house move) (hsound.step house move)

/-- At most one turn of a session is pending. -/
theorem turnsOf_cases (h : m.Tidy) (id : String) :
    m.turnsOf id = [] ∨ ∃ turn, m.turnsOf id = [turn] := by
  have hlength := h.alone id
  match hturns : m.turnsOf id with
  | [] => exact .inl rfl
  | [turn] => exact .inr ⟨turn, rfl⟩
  | turn :: other :: rest =>
      rw [hturns] at hlength
      simp at hlength

end Tidy

end Dialogue.Manager
