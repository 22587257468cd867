import Dialogue.Proofs.Manager.Sound
/-!
What one move does to one session: to its record and to the turns of it that are pending.
-/
namespace Dialogue.Manager

open Turn

variable {m n : Manager} {id : String}

def turnsOf (m : Manager) (id : String) : List Pending :=
  m.pending.filter fun turn => turn.marked.id = id

theorem mem_turnsOf {turn : Pending} :
    turn ∈ m.turnsOf id ↔ turn ∈ m.pending ∧ turn.marked.id = id := by
  simp [turnsOf]

theorem inFlight_iff : m.InFlight id ↔ m.turnsOf id ≠ [] := by
  rw [InFlight, Ne, List.eq_nil_iff_forall_not_mem, Classical.not_forall]
  simp only [Classical.not_not, mem_turnsOf]

theorem turnsOf_enlist (m : Manager) (turn : Pending) (id other : String) :
    (m.enlist other turn).turnsOf id
      = if turn.marked.id = id then m.turnsOf id ++ [turn] else m.turnsOf id := by
  simp only [turnsOf, enlist, List.filter_append, List.filter_cons, List.filter_nil,
    decide_eq_true_eq]
  split
  · rfl
  · exact List.append_nil _

theorem turnsOf_remove (m : Manager) (turn : Pending) (id : String) :
    (m.remove turn).turnsOf id = (m.turnsOf id).filter (·.id ≠ turn.id) := by
  simp only [turnsOf, remove, List.filter_filter]
  exact List.filter_congr fun other _ => Bool.and_comm _ _

theorem turnsOf_advance (m : Manager) (move : Move) (id : String) :
    ({ m with pending := m.pending.map (·.step move) } : Manager).turnsOf id
      = (m.turnsOf id).map (·.step move) := by
  simp only [turnsOf, List.filter_map, Function.comp_def, Pending.marked_step]

theorem map_step {turns : List Pending} {move : Move} (h : ∀ id world, move ≠ .answer id world) :
    turns.map (·.step move) = turns := by
  have hs : ∀ turn ∈ turns, turn.step move = turn := by
    intro turn _
    unfold Pending.step
    split
    · exact absurd rfl (h _ _)
    · rfl
  rw [List.map_congr_left hs, List.map_id']

/-- What a move makes of the session `id`. -/
inductive Seen (m : Manager) (id : String) : Move → Manager → Prop
  | kept (move : Move) (n : Manager) (record : n.record? id = m.record? id)
      (turns : n.turnsOf id = (m.turnsOf id).map (·.step move)) : Seen m id move n
  | created (move : Move) (n : Manager) (s : Session) (fresh : ¬ m.store.Issued id)
      (record : n.record? id = some s) (active : s.status = .active)
      (turns : n.turnsOf id = []) : Seen m id move n
  | launched (move : Move) (n : Manager) (turn : Pending) (fresh : ¬ m.store.Issued id)
      (record : n.record? id = some turn.marked) (turns : n.turnsOf id = [turn]) :
      Seen m id move n
  | begun (request : Request) (n : Manager) (s : Session) (turn : Pending)
      (stored : m.record? id = some s) (going : s.isTerminal = false) (free : m.turnsOf id = [])
      (marked : turn.marked = s.revise m.now { status := some .generating })
      (record : n.record? id = some turn.marked) (turns : n.turnsOf id = [turn]) :
      Seen m id (.begin id request) n
  | closed (move : Move) (n : Manager) (turn : Pending) (mem : turn ∈ m.turnsOf id)
      (ends : move.Ends turn.id) (c : Close) (fits : c.Fits turn)
      (record : n.record? id = (m.written turn (turn.change c)).record? id)
      (turns : n.turnsOf id = (m.turnsOf id).filter (·.id ≠ turn.id)) : Seen m id move n
  | canceled (n : Manager) (s : Session) (stored : m.record? id = some s)
      (going : s.isTerminal = false)
      (record : n.record? id
        = some (s.revise m.now { status := some .canceled, awaiting := some false }))
      (turns : n.turnsOf id = m.turnsOf id) : Seen m id (.cancel id) n
  | selected (node value : Value) (n : Manager) (s : Session) (selected : Mapping String)
      (stored : m.record? id = some s) (accepted : chosen s node value = .ok selected)
      (record : n.record? id = some (s.revise m.now { selected := some selected }))
      (turns : n.turnsOf id = m.turnsOf id) : Seen m id (.select id node value) n
  | deleted (n : Manager) (record : n.record? id = none)
      (turns : n.turnsOf id = m.turnsOf id) : Seen m id (.delete id) n

theorem seen_same {move : Move} (hmove : ∀ id world, move ≠ .answer id world)
    (record : n.record? id = m.record? id) (turns : n.turnsOf id = m.turnsOf id) :
    Seen m id move n :=
  .kept _ _ record (turns.trans (map_step hmove).symm)

theorem given_create (m : Manager) (conversation scenario slots language : Value) :
    (m.create conversation scenario slots language).2.store.given = m.store.given + 1 := by
  rcases Store.create_store m.store m.now conversation scenario slots language with
    ⟨s, -, -, hmade⟩ | ⟨fault, hmade⟩
  · simp only [create, hmade, Store.given_put]
  · simp only [create, hmade]

theorem create_made {conversation scenario slots language : Value} {id : String}
    (h : (m.create conversation scenario slots language).1 = .ok id) : id = m.store.freshId := by
  rcases Store.create_start conversation scenario slots language with
    ⟨conv, scen, lang, fields, -, -, hmade⟩ | ⟨fault, hmade⟩
  · simp only [create, hmade] at h
    exact (Except.ok.inj h).symm
  · simp only [create, hmade] at h
    cases h

theorem create_fresh {conversation scenario slots language : Value} {new : String}
    (hmade : (m.create conversation scenario slots language).1 = .ok new) :
    ¬ m.store.Issued new := by
  rw [create_made hmade]
  exact m.store.not_issued_freshId

theorem seen_delete (other id : String) : Seen m id (.delete other) (m.delete other).2 := by
  have hrecord := Store.record?_delete m.store other id
  by_cases heq : other = id
  · subst heq
    rw [if_pos rfl] at hrecord
    exact .deleted _ hrecord rfl
  · rw [if_neg heq] at hrecord
    exact seen_same nofun hrecord rfl

section Moves

variable (h : m.Sound)
include h

theorem record?_revise {other : String} {s : Session} (hs : m.record? other = some s)
    (change : Session.Change) (hslots : change.slots = none) (hmessages : change.messages = none)
    (id : String) : (m.put (s.revise m.now change)).record? id
      = if other = id then some (s.revise m.now change) else m.record? id := by
  obtain ⟨hid, hstored⟩ := h.orderly.of_record hs
  have hrecord := record?_put m (s.revise m.now change) id
  rw [hstored.revise _ hslots hmessages] at hrecord
  rw [hrecord, show (s.revise m.now change).id = other from hid]

theorem create_cases (conversation scenario slots language : Value) (id : String) :
    let next := (m.create conversation scenario slots language).2
    (next.record? id = m.record? id ∧ next.turnsOf id = m.turnsOf id) ∨
      (¬ m.store.Issued id ∧ next.turnsOf id = [] ∧
        ∃ s, next.record? id = some s ∧ s.status = .active) := by
  rcases Store.create_store m.store m.now conversation scenario slots language with
    ⟨s, hid, hactive, hmade⟩ | ⟨fault, hmade⟩
  · simp only [create, hmade]
    have hrecord := Store.record?_put { m.store with given := m.store.given + 1 } s id
    by_cases heq : s.id = id
    · rw [if_pos heq] at hrecord
      have fresh : ¬ m.store.Issued id := by
        rw [← heq, hid]
        exact m.store.not_issued_freshId
      refine .inr ⟨fresh, ?_, s.storable, hrecord, hactive⟩
      refine List.filter_eq_nil_iff.2 fun turn ht => ?_
      simp only [decide_eq_true_eq]
      exact fun hturn => fresh (hturn ▸ (h.began turn ht).1)
    · rw [if_neg heq] at hrecord
      exact .inl ⟨hrecord, rfl⟩
  · simp only [create, hmade]
    exact .inl ⟨rfl, rfl⟩

theorem begin_cases (house : House) (other : String) (request : Request) (id : String) :
    let next := (begin house m other request).2
    (next.record? id = m.record? id ∧ next.turnsOf id = m.turnsOf id) ∨
      (other = id ∧ m.turnsOf id = [] ∧ ∃ s turn, m.record? id = some s ∧ s.isTerminal = false ∧
        turn.marked = s.revise m.now { status := some .generating } ∧
        next.record? id = some turn.marked ∧ next.turnsOf id = [turn]) := by
  have hb := began h.orderly house other request
  generalize begin house m other request = made at hb
  cases hb with
  | busy held => exact .inl ⟨rfl, rfl⟩
  | refused free fault locks others => exact .inl ⟨rfl, rfl⟩
  | accepted free s scenario input stored going known read turn made =>
      have hid : turn.marked.id = other := by
        rw [made]
        exact (h.orderly.of_record stored).1
      have hproper : turn.Proper := made ▸ h.proper_turnOn house stored scenario input _
      have hrecord := record?_put m turn.marked id
      have hturns := turnsOf_enlist m turn id other
      rw [hid] at hrecord hturns
      by_cases heq : other = id
      · subst heq
        rw [if_pos rfl, hproper.stored] at hrecord
        have hfree : m.turnsOf other = [] :=
          Classical.byContradiction fun hne => free (h.busy stored (inFlight_iff.2 hne))
        rw [if_pos rfl, hfree] at hturns
        exact .inr ⟨rfl, hfree, s, turn, stored, going, by rw [made]; rfl, hrecord, hturns⟩
      · rw [if_neg heq] at hrecord hturns
        exact .inl ⟨hrecord, hturns⟩

theorem seen_created {conversation scenario slots language : Value} {move : Move}
    (hmove : ∀ id world, move ≠ .answer id world) :
    Seen m id move (m.create conversation scenario slots language).2 := by
  rcases create_cases h conversation scenario slots language id with
    ⟨hrecord, hturns⟩ | ⟨fresh, hturns, s, hrecord, hactive⟩
  · exact seen_same hmove hrecord hturns
  · exact .created _ _ s fresh hrecord hactive hturns

theorem seen_begin (house : House) (other : String) (request : Request) (id : String) :
    Seen m id (.begin other request) (begin house m other request).2 := by
  rcases begin_cases h house other request id with
    ⟨hrecord, hturns⟩ | ⟨rfl, free, s, turn, stored, going, marked, hrecord, hturns⟩
  · exact seen_same nofun hrecord hturns
  · exact .begun request _ s turn stored going free marked hrecord hturns

theorem seen_launched (house : House) {conversation scenario slots language : Value} {new : String}
    (hmade : (m.create conversation scenario slots language).1 = .ok new) (request : Request)
    {move : Move} (hmove : ∀ id world, move ≠ .answer id world) :
    Seen m id move
      (begin house (m.create conversation scenario slots language).2 new request).2 := by
  have hs := h.create conversation scenario slots language
  have hc := create_cases h conversation scenario slots language id
  rcases begin_cases hs house new request id with
    ⟨hrecord, hturns⟩ | ⟨rfl, free, s, turn, stored, going, marked, hrecord, hturns⟩
  · rcases hc with ⟨hr, ht⟩ | ⟨fresh, ht, s, hr, hactive⟩
    · exact seen_same hmove (hrecord.trans hr) (hturns.trans ht)
    · exact .created _ _ s fresh (hrecord.trans hr) hactive (hturns.trans ht)
  · rcases hc with ⟨hr, ht⟩ | ⟨fresh, ht, s, hr, hactive⟩
    · exact absurd (h.issued _ s (hr.symm.trans stored)) (create_fresh hmade)
    · exact .launched _ _ turn fresh hrecord hturns

theorem ne_of_turnsOf {turn one : Pending} (ht : turn ∈ m.pending) (hne : turn.marked.id ≠ id)
    (hone : one ∈ m.turnsOf id) : one.id ≠ turn.id := by
  obtain ⟨hmem, hid⟩ := mem_turnsOf.1 hone
  intro heq
  rw [h.distinct one hmem turn ht heq] at hid
  exact hne hid

theorem turnsOf_remove_other {turn : Pending} (ht : turn ∈ m.pending)
    (hne : turn.marked.id ≠ id) : (m.remove turn).turnsOf id = m.turnsOf id := by
  rw [turnsOf_remove, List.filter_eq_self]
  exact fun one hone => by simpa using ne_of_turnsOf h ht hne hone

theorem record?_written_other (turn : Pending) (change : Session.Change)
    (hid : turn.marked.id ≠ id) : (m.written turn change).record? id = m.record? id := by
  cases hs : m.record? turn.marked.id with
  | none => rw [written_of_gone hs]
  | some s =>
      by_cases hv : turn.marked.version = s.version
      · rw [written_of_current hs hv, record?_put, if_neg]
        rw [← (h.orderly.of_record hs).1] at hid
        exact hid
      · rw [written_of_stale hs hv]

theorem record?_written_current {turn : Pending} {s : Session}
    (hs : m.record? turn.marked.id = some s) (hv : turn.marked.version = s.version)
    (change : Session.Change) : (m.written turn change).record? turn.marked.id
      = some (s.revise m.now change).storable := by
  rw [written_of_current hs hv, record?_put]
  exact if_pos (h.orderly.of_record hs).1

theorem seen_close (house : House) {turn : Pending} (ht : turn ∈ m.pending) (c : Close)
    (fits : c.Fits turn) (id : String) (move : Move) (ends : move.Ends turn.id) :
    Seen m id move (m.close house turn c).2 := by
  have hmove : ∀ id world, move ≠ .answer id world := by
    rintro _ _ rfl
    exact ends
  obtain ⟨sink, locks, hm, -⟩ := close_eq h.orderly house turn c
  rw [hm]
  by_cases heq : turn.marked.id = id
  · exact .closed _ _ turn (mem_turnsOf.2 ⟨ht, heq⟩) ends c fits rfl (turnsOf_remove m turn id)
  · exact seen_same hmove (record?_written_other h turn _ heq) (turnsOf_remove_other h ht heq)

theorem seen_cancel {other : String} {s : Session} {next : Manager}
    (hc : m.cancel other = .ok (s, next)) (id : String) : Seen m id (.cancel other) next := by
  rcases cancel_cases h.orderly hc with rfl | ⟨r, locks, hs, hgoing, rfl, -⟩
  · exact seen_same nofun rfl rfl
  · have hrecord := record?_revise h hs { status := some .canceled, awaiting := some false } rfl rfl
      id
    by_cases heq : other = id
    · subst heq
      rw [if_pos rfl] at hrecord
      exact .canceled _ r hs hgoing hrecord rfl
    · rw [if_neg heq] at hrecord
      exact seen_same nofun hrecord rfl

theorem seen_select {other : String} {node value : Value} {s : Session} {next : Manager}
    (hc : m.select other node value = .ok (s, next)) (id : String) :
    Seen m id (.select other node value) next := by
  obtain ⟨r, selected, hs, hchosen, rfl⟩ := select_cases h.orderly hc
  have hrecord := record?_revise h hs { selected := some selected } rfl rfl id
  by_cases heq : other = id
  · subst heq
    rw [if_pos rfl] at hrecord
    exact .selected node value _ r selected hs hchosen hrecord rfl
  · rw [if_neg heq] at hrecord
    exact seen_same nofun hrecord rfl

theorem seen (house : House) (move : Move) (id : String) :
    Seen m id move (m.step house move) := by
  have ha := h.acted house move
  generalize m.step house move = n at ha
  have unmoved (turns : ∀ turn ∈ m.pending, turn.step move = turn) :
      m.turnsOf id = (m.turnsOf id).map (·.step move) := by
    have hsame : ∀ turn ∈ m.turnsOf id, turn.step move = turn :=
      fun turn ht => turns turn (mem_turnsOf.1 ht).1
    rw [List.map_congr_left hsame, List.map_id']
  cases ha with
  | idle _ same => exact .kept _ _ rfl (unmoved same)
  | elsewhere _ sink now same => exact .kept _ _ rfl (unmoved same)
  | created conversation scenario slots language => exact seen_created h nofun
  | unlaunched conversation scenario slots language spoken => exact seen_created h nofun
  | launched conversation scenario slots language spoken new made =>
      exact seen_launched h house made _ nofun
  | begun other request => exact seen_begin h house other request id
  | answered turn world => exact .kept _ _ rfl (turnsOf_advance m _ id)
  | closed _ turn mem c fits ends => exact seen_close h house mem c fits id move ends
  | canceled other s next done => exact seen_cancel h done id
  | selected other node value s next done => exact seen_select h done id
  | deleted other => exact seen_delete other id

theorem given_begin (house : House) (other : String) (request : Request) :
    (begin house m other request).2.store.given = m.store.given := by
  have hb := began h.orderly house other request
  generalize begin house m other request = made at hb
  cases hb <;> rfl

theorem given_close (house : House) (turn : Pending) (c : Close) :
    (m.close house turn c).2.store.given = m.store.given := by
  obtain ⟨sink, locks, hm, -⟩ := close_eq h.orderly house turn c
  rw [hm]
  unfold written
  split
  · split <;> rfl
  · rfl

theorem given_cancel {other : String} {s : Session} (hc : m.cancel other = .ok (s, n)) :
    n.store.given = m.store.given := by
  rcases cancel_cases h.orderly hc with rfl | ⟨r, locks, -, -, rfl, -⟩
  · rfl
  · rfl

theorem given_select {other : String} {node value : Value} {s : Session}
    (hc : m.select other node value = .ok (s, n)) : n.store.given = m.store.given := by
  obtain ⟨r, selected, -, -, rfl⟩ := select_cases h.orderly hc
  rfl

theorem given_le_step (house : House) (move : Move) :
    m.store.given ≤ (m.step house move).store.given := by
  have ha := h.acted house move
  generalize m.step house move = n at ha
  cases ha with
  | idle | elsewhere | answered => exact Nat.le_refl _
  | created | unlaunched =>
      rw [given_create]
      exact Nat.le_succ _
  | launched conversation scenario slots language spoken new made =>
      rw [given_begin (h.create _ _ _ _), given_create]
      exact Nat.le_succ _
  | begun other request => exact Nat.le_of_eq (given_begin h house other request).symm
  | closed _ turn mem c => exact Nat.le_of_eq (given_close h house turn c).symm
  | canceled other s next done => exact Nat.le_of_eq (given_cancel h done).symm
  | selected other node value s next done => exact Nat.le_of_eq (given_select h done).symm
  | deleted other => exact Nat.le_of_eq (Store.given_delete m.store other).symm

theorem step_mem (house : House) {turn : Pending} (ht : turn ∈ m.pending) {move : Move}
    (hgoes : ¬ move.Ends turn.id) : turn.step move ∈ (m.step house move).pending := by
  have hmem : turn ∈ m.turnsOf turn.marked.id := mem_turnsOf.2 ⟨ht, rfl⟩
  have hissued := (h.began turn ht).1
  have hs := seen h house move turn.marked.id
  suffices hn : turn.step move ∈ (m.step house move).turnsOf turn.marked.id from
    (mem_turnsOf.1 hn).1
  generalize m.step house move = n at hs ⊢
  cases hs with
  | kept _ _ record turns =>
      rw [turns]
      exact List.mem_map_of_mem hmem
  | created _ _ s fresh => exact absurd hissued fresh
  | launched _ _ other fresh => exact absurd hissued fresh
  | begun request _ s other stored going free =>
      rw [free] at hmem
      cases hmem
  | closed _ _ other mem ends c fits record turns =>
      have hstep : turn.step move = turn := by
        have hmap : [turn].map (·.step move) = [turn] := map_step (by rintro _ _ rfl; exact ends)
        simpa using hmap
      rw [turns, hstep, List.mem_filter]
      refine ⟨hmem, ?_⟩
      simp only [ne_eq, decide_not, Bool.not_eq_true', decide_eq_false_iff_not]
      intro hid
      exact hgoes (hid ▸ ends)
  | canceled _ s stored going record turns => exact turns ▸ hmem
  | selected node value _ s selected stored accepted record turns => exact turns ▸ hmem
  | deleted _ record turns => exact turns ▸ hmem

theorem after_mem (house : House) {turn : Pending} (ht : turn ∈ m.pending) {moves : List Move}
    (hgoes : ∀ move ∈ moves, ¬ move.Ends turn.id) :
    turn.after moves ∈ (m.after house moves).pending := by
  induction moves generalizing m turn with
  | nil => exact ht
  | cons move rest ih =>
      obtain ⟨hfirst, hrest⟩ := List.forall_mem_cons.1 hgoes
      exact ih (h.step house move) (step_mem h house ht hfirst) (by simpa using hrest)

end Moves

end Dialogue.Manager
