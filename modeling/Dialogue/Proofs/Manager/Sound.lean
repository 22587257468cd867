import Dialogue.Proofs.Manager.Move
import Dialogue.Proofs.Turn.Report
/-!
What stays true of a manager that began without sessions: a pending turn holds the lock of its
session, and the record of the session is the one the turn began with, a later version of it that
is still marked, or over.
-/
namespace Dialogue

open Turn

namespace Turn.Pending

/-- What is true of a turn from its beginning to its end. -/
structure Proper (turn : Pending) : Prop where
  generating : turn.marked.status = .generating
  stored : turn.marked.IsStored
  work : turn.work.Always fun r =>
    ∀ report, r = .ok report → report.Extends (turn.marked.messages ++ said turn.input)

/-- What is true of the record of a session while the turn is pending. -/
structure Follows (turn : Pending) (locks : Mapping Nat) (s : Session) : Prop where
  later : turn.marked.version ≤ s.version
  same : turn.marked.version = s.version → s = turn.marked
  marked : s.status = .generating ∨ s.isTerminal = true
  locked : Mapping.get? locks turn.marked.id = some turn.lock

theorem Proper.answered {turn : Pending} (h : turn.Proper)
    (world : (call : Call) → call.Answer) : (turn.answered world).Proper := by
  unfold Pending.answered
  split
  · rename_i call next hwork
    refine ⟨h.generating, h.stored, ?_⟩
    have hw := h.work
    rw [hwork] at hw
    exact hw (world call)
  · exact h

theorem Proper.step {turn : Pending} (h : turn.Proper) (move : Move) :
    (turn.step move).Proper := by
  unfold Pending.step
  split
  · split
    · exact h.answered _
    · exact h
  · exact h

theorem Proper.extends {turn : Pending} {report : Report} (h : turn.Proper)
    (hwork : turn.work = .done (.ok report)) :
    report.Extends (turn.marked.messages ++ said turn.input) := by
  have hw := h.work
  rw [hwork] at hw
  exact hw report rfl

end Turn.Pending

namespace Manager

structure Sound (m : Manager) : Prop where
  orderly : m.store.Orderly
  issued : ∀ id s, m.record? id = some s → m.store.Issued id
  began : ∀ turn ∈ m.pending, m.store.Issued turn.marked.id ∧ turn.id < m.given
  proper : ∀ turn ∈ m.pending, turn.Proper
  follows : ∀ turn ∈ m.pending, ∀ s, m.record? turn.marked.id = some s → turn.Follows m.locks s
  distinct : ∀ turn ∈ m.pending, ∀ other ∈ m.pending, turn.id = other.id → turn = other
  single : ∀ turn ∈ m.pending, ∀ other ∈ m.pending, ∀ s, m.record? turn.marked.id = some s →
    turn.marked.id = other.marked.id → turn = other

variable {m n : Manager}

theorem sound_empty (sink : Sink) (now : Moment) : (empty sink now).Sound where
  orderly := Store.orderly_empty
  issued := by rintro id s ⟨⟩
  began := by rintro turn ⟨⟩
  proper := by rintro turn ⟨⟩
  follows := by rintro turn ⟨⟩
  distinct := by rintro turn ⟨⟩
  single := by rintro turn ⟨⟩

namespace Sound

theorem of_kept (h : m.Sound) (orderly : n.store.Orderly)
    (given : m.store.given ≤ n.store.given) (numbers : m.given ≤ n.given)
    (pending : ∀ turn ∈ n.pending, turn ∈ m.pending)
    (issued : ∀ id s, n.record? id = some s → n.store.Issued id)
    (records : ∀ turn ∈ n.pending, ∀ s, n.record? turn.marked.id = some s →
      (∃ r, m.record? turn.marked.id = some r) ∧ turn.Follows n.locks s) : n.Sound where
  orderly := orderly
  issued := issued
  began turn ht :=
    have hb := h.began turn (pending turn ht)
    ⟨hb.1.mono given, by omega⟩
  proper turn ht := h.proper turn (pending turn ht)
  follows turn ht s hs := (records turn ht s hs).2
  distinct turn ht other ho := h.distinct turn (pending turn ht) other (pending other ho)
  single turn ht other ho s hs hid :=
    have ⟨r, hr⟩ := (records turn ht s hs).1
    h.single turn (pending turn ht) other (pending other ho) r hr hid

theorem elsewhere (h : m.Sound) (sink : Sink) (now : Moment) :
    ({ m with sink := sink, now := now } : Manager).Sound :=
  ⟨h.orderly, h.issued, h.began, h.proper, h.follows, h.distinct, h.single⟩

theorem put (h : m.Sound) {s : Session} (hs : m.record? s.id = some s) (change : Session.Change)
    (hm : ∀ turn ∈ m.pending, turn.marked.id = s.id →
      (s.revise m.now change).status = .generating ∨ (s.revise m.now change).isTerminal = true) :
    (m.put (s.revise m.now change)).Sound := by
  have hid : (s.revise m.now change).id = s.id := rfl
  refine of_kept h (h.orderly.put _) (Nat.le_refl _) (Nat.le_refl _) (fun _ ht => ht) ?_ ?_
  · intro id r hr
    rw [record?_put] at hr
    split at hr
    · rename_i heq
      exact heq ▸ hid ▸ h.issued _ _ hs
    · exact h.issued id r hr
  · intro turn ht r hr
    rw [record?_put] at hr
    split at hr
    · rename_i heq
      cases hr
      have heq : turn.marked.id = s.id := heq.symm
      have hf := h.follows turn ht s (by rw [heq]; exact hs)
      refine ⟨⟨s, by rw [heq]; exact hs⟩, ?_, ?_, hm turn ht heq, hf.locked⟩
      · have hv : (s.revise m.now change).storable.version = s.version + 1 := rfl
        have := hf.later
        omega
      · intro hv
        have hv : turn.marked.version = s.version + 1 := hv
        have := hf.later
        omega
    · exact ⟨⟨r, hr⟩, h.follows turn ht r hr⟩

theorem relock (h : m.Sound) (locks : Mapping Nat)
    (hl : ∀ turn ∈ m.pending, (∃ s, m.record? turn.marked.id = some s) →
      Mapping.get? locks turn.marked.id = Mapping.get? m.locks turn.marked.id) :
    ({ m with locks := locks } : Manager).Sound := by
  refine of_kept h h.orderly (Nat.le_refl _) (Nat.le_refl _) (fun _ ht => ht) h.issued ?_
  intro turn ht s hs
  have hf := h.follows turn ht s hs
  exact ⟨⟨s, hs⟩, hf.later, hf.same, hf.marked, (hl turn ht ⟨s, hs⟩).trans hf.locked⟩

theorem remove (h : m.Sound) (turn : Pending) : (m.remove turn).Sound :=
  of_kept h h.orderly (Nat.le_refl _) (Nat.le_refl _) (fun _ ho => (List.mem_filter.1 ho).1)
    h.issued fun other ho s hs => ⟨⟨s, hs⟩, h.follows other (List.mem_filter.1 ho).1 s hs⟩

theorem alone (h : m.Sound) {turn other : Pending} (ht : turn ∈ m.pending)
    (ho : other ∈ (m.remove turn).pending) {s : Session}
    (hs : m.record? turn.marked.id = some s) : other.marked.id ≠ turn.marked.id := by
  obtain ⟨hmem, hne⟩ : other ∈ m.pending ∧ other.id ≠ turn.id := by
    simpa [Manager.remove] using ho
  intro hid
  rw [h.single turn ht other hmem s hs hid.symm] at hne
  exact hne rfl

theorem written (h : m.Sound) (turn : Pending) (change : Session.Change)
    (free : ∀ other ∈ m.pending, other.marked.id ≠ turn.marked.id) :
    (m.written turn change).Sound := by
  cases hs : m.record? turn.marked.id with
  | none =>
      rw [written_of_gone hs]
      exact h
  | some s =>
      by_cases hv : turn.marked.version = s.version
      · have hid : s.id = turn.marked.id := (h.orderly.of_record hs).1
        rw [written_of_current hs hv]
        exact h.put (hid ▸ hs) change fun other ho heq => absurd (heq.trans hid) (free other ho)
      · rw [written_of_stale hs hv]
        exact h

theorem close (h : m.Sound) (house : House) {turn : Pending} (ht : turn ∈ m.pending) (c : Close) :
    (m.close house turn c).2.Sound := by
  obtain ⟨sink, locks, hm, hothers⟩ := close_eq h.orderly house turn c
  rw [hm]
  cases hs : m.record? turn.marked.id with
  | none =>
      rw [written_of_gone hs]
      refine ((h.remove turn).elsewhere sink m.now).relock locks fun other _ ⟨s, hother⟩ => ?_
      refine hothers _ fun hid => ?_
      have hother : m.record? other.marked.id = some s := hother
      rw [← hid, hs] at hother
      cases hother
  | some s =>
      have free : ∀ other ∈ (m.remove turn).pending, other.marked.id ≠ turn.marked.id :=
        fun other ho => h.alone ht ho hs
      have hwritten := (h.remove turn).written turn (turn.change c) free
      obtain ⟨store, now, hw⟩ := written_eq m turn (turn.change c)
      rw [written_remove, hw] at hwritten
      rw [hw]
      exact (hwritten.elsewhere sink now).relock locks fun other ho _ =>
        hothers _ (free other ho).symm

theorem create (h : m.Sound) (conversation scenario slots language : Value) :
    (m.create conversation scenario slots language).2.Sound := by
  have hgiven : ∀ id s, m.record? id = some s →
      Store.Issued { m.store with given := m.store.given + 1 } id :=
    fun id s hs => (h.issued id s hs).mono (Nat.le_succ _)
  rcases Store.create_store m.store m.now conversation scenario slots language with
    ⟨s, hid, hactive, hmade⟩ | ⟨fault, hmade⟩
  · unfold Manager.create
    rw [hmade]
    have horderly : Store.Orderly { m.store with given := m.store.given + 1 } := h.orderly
    refine of_kept h (horderly.put s) (Nat.le_succ _) (Nat.le_refl _) (fun _ ht => ht) ?_ ?_
    · intro id r hr
      have hr : ({ m.store with given := m.store.given + 1 }.put s).record? id = some r := hr
      rw [Store.record?_put] at hr
      split at hr
      · rename_i heq
        rw [← heq, hid]
        exact Store.issued_freshId (Nat.lt_succ_self _)
      · exact hgiven id r hr
    · intro turn ht r hr
      have hr : ({ m.store with given := m.store.given + 1 }.put s).record? turn.marked.id
        = some r := hr
      rw [Store.record?_put] at hr
      split at hr
      · rename_i heq
        refine absurd (h.began turn ht).1 ?_
        rw [← heq, hid]
        exact m.store.not_issued_freshId
      · exact ⟨⟨r, hr⟩, h.follows turn ht r hr⟩
  · unfold Manager.create
    rw [hmade]
    exact of_kept h h.orderly (Nat.le_succ _) (Nat.le_refl _) (fun _ ht => ht) hgiven
      fun turn ht s hs => ⟨⟨s, hs⟩, h.follows turn ht s hs⟩

theorem cancel (h : m.Sound) {id : String} {s : Session} {next : Manager}
    (hc : m.cancel id = .ok (s, next)) : next.Sound := by
  rcases cancel_cases h.orderly hc with rfl | ⟨r, locks, hs, -, rfl, hothers, hheld⟩
  · exact h
  · have hid : r.id = id := (h.orderly.of_record hs).1
    have hp := h.put (hid ▸ hs) { status := some .canceled, awaiting := some false }
      fun _ _ _ => .inr rfl
    refine hp.relock locks fun turn ht ⟨s, hs⟩ => ?_
    by_cases heq : id = turn.marked.id
    · have hlock := (hp.follows turn ht s hs).locked
      rw [hheld turn.lock (heq ▸ hlock) (List.any_eq_true.2 ⟨turn, ht, by simp⟩)]
      rfl
    · exact hothers _ heq

theorem select (h : m.Sound) {id : String} {node value : Value} {s : Session} {next : Manager}
    (hc : m.select id node value = .ok (s, next)) : next.Sound := by
  obtain ⟨r, selected, hs, -, rfl⟩ := select_cases h.orderly hc
  have hid : r.id = id := (h.orderly.of_record hs).1
  refine h.put (hid ▸ hs) _ fun turn ht heq => ?_
  exact (h.follows turn ht r (by rw [heq, hid]; exact hs)).marked

theorem delete (h : m.Sound) (id : String) : (m.delete id).2.Sound := by
  have hrecord : ∀ other s, (m.delete id).2.record? other = some s →
      id ≠ other ∧ m.record? other = some s := by
    intro other s hs
    have hs : (m.store.delete id).2.record? other = some s := hs
    rw [Store.record?_delete] at hs
    split at hs
    · cases hs
    · exact ⟨‹_›, hs⟩
  have hgiven : m.store.given ≤ (m.delete id).2.store.given :=
    Nat.le_of_eq (Store.given_delete m.store id).symm
  refine of_kept h (h.orderly.delete id) hgiven (Nat.le_refl _) (fun _ ht => ht) ?_ ?_
  · intro other s hs
    exact (h.issued other s (hrecord other s hs).2).mono hgiven
  · intro turn ht s hs
    obtain ⟨hne, hs⟩ := hrecord _ s hs
    have hf := h.follows turn ht s hs
    refine ⟨⟨s, hs⟩, hf.later, hf.same, hf.marked, ?_⟩
    have hl : Mapping.get? (Mapping.erase m.locks id) turn.marked.id = some turn.lock := by
      rw [Mapping.get?_erase, if_neg hne]
      exact hf.locked
    exact hl

theorem busy (h : m.Sound) {id : String} {s : Session} (hs : m.record? id = some s)
    (hf : m.InFlight id) : m.IsBusy id := by
  obtain ⟨turn, ht, rfl⟩ := hf
  have hlock := (h.follows turn ht s hs).locked
  refine ⟨?_, ?_⟩
  · simp only [Mapping.has, hlock, Option.isSome_some]
  · simp only [lockOf, hlock, Option.getD_some]
    exact List.any_eq_true.2 ⟨turn, ht, by simp⟩

theorem proper_turnOn (h : m.Sound) (house : House) {id : String} {s : Session}
    (hs : m.record? id = some s) (scenario : Scenario) (input : Run.Input) (language : Value) :
    (turnOn house m id s scenario input language).Proper := by
  refine ⟨rfl, (h.orderly.of_record hs).2.revise _ rfl rfl, ?_⟩
  simp only [turnOn, work]
  split
  · exact play_extends _ _ _ _
  · rintro report ⟨⟩

theorem enlist (h : m.Sound) (house : House) {id : String} {s : Session}
    (hs : m.record? id = some s) (free : ¬ m.IsBusy id) (scenario : Scenario) (input : Run.Input)
    (language : Value) :
    (m.enlist id (turnOn house m id s scenario input language)).Sound := by
  generalize hturn : turnOn house m id s scenario input language = turn
  have hproper : turn.Proper := hturn ▸ h.proper_turnOn house hs scenario input language
  have hid : turn.marked.id = id := by
    rw [← hturn]
    exact (h.orderly.of_record hs).1
  have hother : ∀ other ∈ m.pending, id ≠ other.marked.id :=
    fun other ho heq => free (h.busy hs ⟨other, ho, heq.symm⟩)
  have hrecord : ∀ other, (m.enlist id turn).record? other
      = if id = other then some turn.marked else m.record? other := by
    intro other
    have hp := record?_put m turn.marked other
    rw [hid, hproper.stored] at hp
    exact hp
  have hpending : ∀ other, other ∈ (m.enlist id turn).pending ↔ other ∈ m.pending ∨ other = turn := by
    intro other
    simp [Manager.enlist]
  have hnumber : turn.id = m.given + 1 := by
    rw [← hturn]
    rfl
  refine ⟨h.orderly.put _, ?_, ?_, ?_, ?_, ?_, ?_⟩
  · intro other r hr
    rw [hrecord] at hr
    split at hr
    · rename_i heq
      exact heq ▸ h.issued id s hs
    · exact h.issued other r hr
  · intro other ho
    rcases (hpending other).1 ho with ho | rfl
    · obtain ⟨hi, hn⟩ := h.began other ho
      exact ⟨hi, Nat.lt_add_right 2 hn⟩
    · rw [hid, hnumber]
      exact ⟨h.issued id s hs, Nat.lt_succ_self _⟩
  · intro other ho
    rcases (hpending other).1 ho with ho | rfl
    · exact h.proper other ho
    · exact hproper
  · intro other ho r hr
    rw [hrecord] at hr
    have hl : (m.enlist id turn).locks = Mapping.set m.locks id turn.lock := rfl
    rcases (hpending other).1 ho with ho | rfl
    · rw [if_neg (hother other ho)] at hr
      have hf := h.follows other ho r hr
      refine ⟨hf.later, hf.same, hf.marked, ?_⟩
      rw [hl, Mapping.get?_set, if_neg (hother other ho)]
      exact hf.locked
    · rw [if_pos hid.symm] at hr
      cases hr
      refine ⟨Int.le_refl _, fun _ => rfl, .inl hproper.generating, ?_⟩
      rw [hl, Mapping.get?_set, if_pos hid.symm]
  · intro one hone other hp heq
    rcases (hpending one).1 hone with hmem | rfl <;> rcases (hpending other).1 hp with hp | rfl
    · exact h.distinct one hmem other hp heq
    · have := (h.began one hmem).2
      omega
    · have := (h.began other hp).2
      omega
    · rfl
  · intro one hone other hp r hr heq
    rcases (hpending one).1 hone with hmem | rfl <;> rcases (hpending other).1 hp with hp | rfl
    · rw [hrecord, if_neg (hother one hmem)] at hr
      exact h.single one hmem other hp r hr heq
    · exact absurd (hid.symm.trans heq.symm) (hother one hmem)
    · exact absurd (hid.symm.trans heq) (hother other hp)
    · rfl

theorem begin (h : m.Sound) (house : House) (id : String) (request : Request) :
    (begin house m id request).2.Sound := by
  have hb := Manager.began h.orderly house id request
  generalize hmade : Manager.begin house m id request = made at hb
  cases hb with
  | busy => exact h
  | refused free fault locks others =>
      refine of_kept h h.orderly (Nat.le_refl _) (Nat.le_succ _) (fun _ ht => ht) h.issued ?_
      intro turn ht s hs
      have hf := h.follows turn ht s hs
      have hne : id ≠ turn.marked.id := fun heq => free (h.busy (heq ▸ hs) ⟨turn, ht, heq.symm⟩)
      exact ⟨⟨s, hs⟩, hf.later, hf.same, hf.marked, (others _ hne).trans hf.locked⟩
  | accepted free s scenario input stored going known read turn made =>
      subst made
      exact h.enlist house stored free scenario input _

theorem resume_eq (h : m.Sound) {turn : Pending} (ht : turn ∈ m.pending)
    (world : (call : Call) → call.Answer) :
    m.resume turn world
      = { m with pending := m.pending.map fun other => other.step (.answer turn.id world) } := by
  have hstep : ∀ other ∈ m.pending, other.step (.answer turn.id world)
      = if other.id = turn.id then turn.answered world else other := by
    intro other ho
    by_cases heq : other.id = turn.id
    · rw [h.distinct other ho turn ht heq]
      simp [Pending.step]
    · simp [Pending.step, heq, Ne.symm heq]
  rw [List.map_congr_left hstep]
  unfold Manager.resume
  split
  · rename_i call next hwork
    have hset : ∀ other ∈ m.pending,
        (if other.id = turn.id then { other with work := next (world call) } else other)
          = if other.id = turn.id then turn.answered world else other := by
      intro other ho
      by_cases heq : other.id = turn.id
      · rw [h.distinct other ho turn ht heq]
        simp only [↓reduceIte, Pending.answered, hwork]
      · simp only [if_neg heq]
    unfold setWork
    rw [List.map_congr_left hset]
  · rename_i result hwork
    have hset : ∀ other ∈ m.pending,
        (if other.id = turn.id then turn.answered world else other) = other := by
      intro other ho
      split
      · rename_i heq
        rw [h.distinct other ho turn ht heq]
        simp only [Pending.answered, hwork]
      · rfl
    rw [List.map_congr_left hset, List.map_id']

theorem advance (h : m.Sound) (move : Move) :
    ({ m with pending := m.pending.map fun turn => turn.step move } : Manager).Sound := by
  refine ⟨h.orderly, h.issued, ?_, ?_, ?_, ?_, ?_⟩
  · intro turn ht
    obtain ⟨old, ho, rfl⟩ := List.mem_map.1 ht
    simpa using h.began old ho
  · intro turn ht
    obtain ⟨old, ho, rfl⟩ := List.mem_map.1 ht
    exact (h.proper old ho).step move
  · intro turn ht s hs
    obtain ⟨old, ho, rfl⟩ := List.mem_map.1 ht
    rw [old.marked_step] at hs
    have hf := h.follows old ho s hs
    refine ⟨?_, ?_, hf.marked, ?_⟩
    · simpa using hf.later
    · simpa using hf.same
    · simpa using hf.locked
  · intro turn ht other hp heq
    obtain ⟨one, ho, rfl⟩ := List.mem_map.1 ht
    obtain ⟨two, ht, rfl⟩ := List.mem_map.1 hp
    rw [h.distinct one ho two ht (by simpa using heq)]
  · intro turn ht other hp s hs heq
    obtain ⟨one, ho, rfl⟩ := List.mem_map.1 ht
    obtain ⟨two, ht, rfl⟩ := List.mem_map.1 hp
    rw [one.marked_step] at hs
    rw [h.single one ho two ht s hs (by simpa using heq)]

end Sound

/-- What a move comes to, operation by operation. -/
inductive Acted (house : House) (m : Manager) : Move → Manager → Prop
  | idle (move : Move) (same : ∀ turn ∈ m.pending, turn.step move = turn) : Acted house m move m
  | elsewhere (move : Move) (sink : Sink) (now : Moment)
      (same : ∀ turn ∈ m.pending, turn.step move = turn) :
      Acted house m move { m with sink := sink, now := now }
  | created (conversation scenario slots language : Value) :
      Acted house m (.create conversation scenario slots language)
        (m.create conversation scenario slots language).2
  | unlaunched (conversation : Value) (scenario : String) (slots language spoken : Value) :
      Acted house m (.launch conversation scenario slots language)
        (m.create conversation (.text scenario) slots spoken).2
  | launched (conversation : Value) (scenario : String) (slots language spoken : Value)
      (id : String) (made : (m.create conversation (.text scenario) slots spoken).1 = .ok id) :
      Acted house m (.launch conversation scenario slots language)
        (Manager.begin house (m.create conversation (.text scenario) slots spoken).2 id
          (.bare spoken)).2
  | begun (id : String) (request : Request) :
      Acted house m (.begin id request) (Manager.begin house m id request).2
  | answered (turn : Nat) (world : (call : Call) → call.Answer) :
      Acted house m (.answer turn world)
        { m with pending := m.pending.map fun other => other.step (.answer turn world) }
  | closed (move : Move) (turn : Pending) (mem : turn ∈ m.pending) (c : Close) (fits : c.Fits turn)
      (ends : move.Ends turn.id) : Acted house m move (m.close house turn c).2
  | canceled (id : String) (s : Session) (next : Manager) (done : m.cancel id = .ok (s, next)) :
      Acted house m (.cancel id) next
  | selected (id : String) (node value : Value) (s : Session) (next : Manager)
      (done : m.select id node value = .ok (s, next)) : Acted house m (.select id node value) next
  | deleted (id : String) : Acted house m (.delete id) (m.delete id).2

theorem Sound.acted (h : m.Sound) (house : House) (move : Move) :
    Acted house m move (m.step house move) := by
  cases move with
  | create conversation scenario slots language => exact .created _ _ _ _
  | launch conversation scenario slots language =>
      simp only [Manager.step, launch_eq]
      split
      · exact .idle _ fun _ _ => rfl
      · generalize language.orElse (.text house.language) = spoken
        split
        · rename_i id next made
          have hacted : Acted house m (.launch conversation scenario slots language) _ :=
            .launched _ _ _ language spoken id (congrArg Prod.fst made)
          rw [made] at hacted
          exact hacted
        · rename_i fault next made
          have hacted : Acted house m (.launch conversation scenario slots language) _ :=
            .unlaunched conversation scenario slots language spoken
          rw [made] at hacted
          exact hacted
  | begin id request => exact .begun id request
  | answer id world =>
      simp only [Manager.step]
      cases ht : m.turn? id with
      | some turn =>
          obtain ⟨hmem, rfl⟩ := turn?_mem ht
          simp only [Option.elim, h.resume_eq hmem]
          exact .answered turn.id world
      | none =>
          refine .idle _ fun other ho => ?_
          have hne : other.id ≠ id := by
            simpa using List.find?_eq_none.1 ht other ho
          simp only [Pending.step, if_neg hne.symm]
  | settle id =>
      simp only [Manager.step]
      cases ht : m.turn? id with
      | none => exact .idle _ fun _ _ => rfl
      | some turn =>
          obtain ⟨hmem, hid⟩ := turn?_mem ht
          simp only [Option.elim]
          split
          · rename_i result hwork
            exact .closed _ turn hmem (.settled result) hwork hid.symm
          · exact .idle _ fun _ _ => rfl
  | expire id =>
      simp only [Manager.step]
      cases ht : m.turn? id with
      | none => exact .idle _ fun _ _ => rfl
      | some turn =>
          obtain ⟨hmem, hid⟩ := turn?_mem ht
          exact .closed _ turn hmem .expired trivial hid.symm
  | cancel id =>
      simp only [Manager.step]
      split
      · exact .canceled id _ _ ‹_›
      · exact .idle _ fun _ _ => rfl
  | select id node value =>
      simp only [Manager.step]
      split
      · exact .selected id node value _ _ ‹_›
      · exact .idle _ fun _ _ => rfl
  | delete id => exact .deleted id
  | drain id => exact .elsewhere _ _ _ fun _ _ => rfl
  | wait now => exact .elsewhere _ _ _ fun _ _ => rfl

namespace Sound

theorem step (h : m.Sound) (house : House) (move : Move) : (m.step house move).Sound := by
  have ha := h.acted house move
  generalize m.step house move = n at ha
  cases ha with
  | idle => exact h
  | elsewhere _ sink now => exact h.elsewhere sink now
  | created conversation scenario slots language => exact h.create _ _ _ _
  | unlaunched conversation scenario slots language spoken => exact h.create _ _ _ _
  | launched conversation scenario slots language spoken id made =>
      exact (h.create conversation (.text scenario) slots spoken).begin house id _
  | begun id request => exact h.begin house id request
  | answered turn world => exact h.advance _
  | closed _ turn mem c => exact h.close house mem c
  | canceled id s next done => exact h.cancel done
  | selected id node value s next done => exact h.select done
  | deleted id => exact h.delete id

theorem after (h : m.Sound) (house : House) (moves : List Move) : (m.after house moves).Sound := by
  induction moves generalizing m with
  | nil => exact h
  | cons move rest ih => exact ih (h.step house move)

end Sound

theorem Reachable.sound {house : House} (h : Reachable house m) : m.Sound := by
  obtain ⟨sink, now, moves, rfl⟩ := h
  exact (sound_empty sink now).after house moves

end Manager

end Dialogue
