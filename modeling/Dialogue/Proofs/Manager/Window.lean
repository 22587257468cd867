import Dialogue.Proofs.Manager.Revision
/-!
What becomes of the record of a session. One that is over stays as it is.
-/
namespace Dialogue.Manager

variable {m : Manager} {id : String} {s : Session}

theorem absent_step (h : m.Sound) (house : House) (hi : m.store.Issued id)
    (hn : m.record? id = none) (move : Move) : (m.step house move).record? id = none := by
  have hs := seen h house move id
  generalize m.step house move = n at hs ⊢
  cases hs with
  | kept _ _ record turns => exact record.trans hn
  | created _ _ r fresh => exact absurd hi fresh
  | launched _ _ turn fresh => exact absurd hi fresh
  | begun request _ r turn stored => cases hn.symm.trans stored
  | closed _ _ turn mem ends c fits record turns =>
      obtain ⟨-, rfl⟩ := mem_turnsOf.1 mem
      rw [record, written_of_gone hn, hn]
  | canceled _ r stored => cases hn.symm.trans stored
  | selected node value _ r selected stored => cases hn.symm.trans stored
  | deleted _ record turns => exact record

theorem terminal_step (h : m.Sound) (house : House) (hs : m.record? id = some s)
    (hover : s.isTerminal = true) (move : Move) :
    (m.step house move).record? id = none ∨
      ∃ t, (m.step house move).record? id = some t ∧
        t = { s with selected := t.selected, version := t.version, updated := t.updated } ∧
        (¬ move.Selects id → t = s) := by
  have hseen := seen h house move id
  generalize m.step house move = n at hseen ⊢
  have same : ∀ r : Session, m.record? id = some r → r.isTerminal = false → False := by
    intro r hr hgoing
    rw [hs, Option.some.injEq] at hr
    rw [← hr, hover] at hgoing
    cases hgoing
  cases hseen with
  | kept _ _ record turns => exact .inr ⟨s, record.trans hs, rfl, fun _ => rfl⟩
  | created _ _ r fresh => exact absurd (h.issued id s hs) fresh
  | launched _ _ turn fresh => exact absurd (h.issued id s hs) fresh
  | begun request _ r turn stored going => exact (same r stored going).elim
  | closed _ _ turn mem ends c fits record turns =>
      obtain ⟨hmem, rfl⟩ := mem_turnsOf.1 mem
      have hv : turn.marked.version ≠ s.version := by
        intro hv
        have hgenerating := (h.proper turn hmem).generating
        rw [← (h.follows turn hmem s hs).same hv] at hgenerating
        rw [Session.isTerminal, hgenerating] at hover
        cases hover
      rw [written_of_stale hs hv] at record
      exact .inr ⟨s, record.trans hs, rfl, fun _ => rfl⟩
  | canceled _ r stored going => exact (same r stored going).elim
  | selected node value _ r selected stored accepted record turns =>
      rw [hs, Option.some.injEq] at stored
      subst stored
      exact .inr ⟨_, record, rfl, fun hn => absurd rfl hn⟩
  | deleted _ record turns => exact .inl record

theorem absent_after (h : m.Sound) (house : House) (hi : m.store.Issued id)
    (hn : m.record? id = none) (moves : List Move) : (m.after house moves).record? id = none := by
  induction moves generalizing m with
  | nil => exact hn
  | cons move rest ih =>
      exact ih (h.step house move) (hi.mono (given_le_step h house move))
        (absent_step h house hi hn move)

theorem terminal_after (h : m.Sound) (house : House) (hs : m.record? id = some s)
    (hover : s.isTerminal = true) (moves : List Move) :
    (m.after house moves).record? id = none ∨
      ∃ t, (m.after house moves).record? id = some t ∧
        t = { s with selected := t.selected, version := t.version, updated := t.updated } ∧
        ((∀ move ∈ moves, ¬ move.Selects id) → t = s) := by
  induction moves generalizing m s with
  | nil => exact .inr ⟨s, hs, rfl, fun _ => rfl⟩
  | cons move rest ih =>
      have hstep := h.step house move
      rcases terminal_step h house hs hover move with hgone | ⟨t, ht, heq, hsame⟩
      · have hi := (h.issued id s hs).mono (given_le_step h house move)
        exact .inl (absent_after hstep house hi hgone rest)
      · have htover : t.isTerminal = true := by
          rw [heq]
          exact hover
        rcases ih hstep ht htover with hgone | ⟨u, hu, hequ, hsameu⟩
        · exact .inl hgone
        · refine .inr ⟨u, hu, ?_, fun hno => ?_⟩
          · rw [hequ, heq]
          · obtain ⟨hfirst, hrest⟩ := List.forall_mem_cons.1 hno
            rw [hsameu hrest, hsame hfirst]

/-- However moves are interleaved, a session that is over keeps all but the choices of the user, and
keeps those too if no move records one. -/
theorem terminal_session_final (house : House) (sink : Sink) (now : Moment)
    (earlier later : List Move) (id : String) (s t : Session)
    (hs : ((empty sink now).after house earlier).session? id = .ok (some s))
    (hover : s.isTerminal = true)
    (ht : ((empty sink now).after house (earlier ++ later)).session? id = .ok (some t)) :
    t = { s with selected := t.selected, version := t.version, updated := t.updated } ∧
      ((∀ move ∈ later, ¬ move.Selects id) → t = s) := by
  have h := (sound_empty sink now).after house earlier
  rw [after_append, session?_eq (h.after house later).orderly, Except.ok.injEq] at ht
  rw [session?_eq h.orderly, Except.ok.injEq] at hs
  rcases terminal_after h house hs hover later with hgone | ⟨u, hu, heq, hsame⟩
  · cases hgone.symm.trans ht
  · cases hu.symm.trans ht
    exact ⟨heq, hsame⟩

theorem canceled_session_final :
    let earlier := [Sample.launch, .cancel "s1"]
    let later := [.answer 1 Sample.world, .settle 1, .select "s1" (.text "reply") (.text "yes")]
    ∃ s t, (Sample.start.after Sample.house earlier).session? "s1" = .ok (some s) ∧
      s.isTerminal = true ∧
      (Sample.start.after Sample.house (earlier ++ later)).session? "s1" = .ok (some t) ∧
      t = { s with selected := t.selected, version := t.version, updated := t.updated } := by
  intro earlier later
  obtain ⟨s, hs, hover⟩ : ∃ s, (Sample.start.after Sample.house earlier).session? "s1"
      = .ok (some s) ∧ s.isTerminal = true := exists_of_shows (by decide +kernel)
  obtain ⟨t, ht, -⟩ : ∃ t, (Sample.start.after Sample.house (earlier ++ later)).session? "s1"
      = .ok (some t) ∧ true = true := exists_of_shows (by decide +kernel)
  exact ⟨s, t, hs, hover, ht,
    (terminal_session_final Sample.house _ _ earlier later "s1" s t hs hover ht).1⟩

end Dialogue.Manager

/-!
What becomes of the record of a session while a turn of it is pending. Other turns cannot touch it,
so it changes only if somebody cancels, deletes or records a choice.
-/

namespace Dialogue

open Turn

namespace Move

/-- The move neither ends the turn nor deletes its session nor records a choice on it. -/
def Passes (turn : Pending) (move : Move) : Prop :=
  ¬ move.Ends turn.id ∧ ¬ move.Selects turn.marked.id ∧ ¬ move.Deletes turn.marked.id

theorem Passes.step {turn : Pending} {move : Move} (h : move.Passes turn) (first : Move) :
    move.Passes (turn.step first) := by
  simpa [Passes] using h

end Move

namespace Manager

variable {m : Manager} {turn : Pending} {s : Session}

theorem cancel_step (h : m.Sound) (house : House) {id : String} (hs : m.record? id = some s)
    (hgoing : s.isTerminal = false) : (m.step house (.cancel id)).record? id
      = some (s.revise m.now { status := some .canceled, awaiting := some false }) := by
  have hrecord := record?_revise h hs { status := some .canceled, awaiting := some false } rfl rfl id
  rw [if_pos rfl] at hrecord
  obtain ⟨locks, hl, -⟩ := unlock_eq (m.put (s.revise m.now
    { status := some .canceled, awaiting := some false })) id
  simp only [step, cancel_eq h.orderly, hs, hgoing, Bool.false_eq_true, ↓reduceIte, hl]
  exact hrecord

section Passing

variable (h : m.Sound) (house : House) (ht : turn ∈ m.pending)
  (hs : m.record? turn.marked.id = some s)
include h ht hs

theorem passing_step {move : Move} (hp : move.Passes turn) :
    (m.step house move).record? turn.marked.id = some s ∨
      (move.Cancels turn.marked.id ∧ s.isTerminal = false ∧
        (m.step house move).record? turn.marked.id
          = some (s.revise m.now { status := some .canceled, awaiting := some false })) := by
  obtain ⟨hends, hselects, hdeletes⟩ := hp
  have hmem : turn ∈ m.turnsOf turn.marked.id := mem_turnsOf.2 ⟨ht, rfl⟩
  have hseen := seen h house move turn.marked.id
  generalize m.step house move = n at hseen ⊢
  cases hseen with
  | kept _ _ record turns => exact .inl (record.trans hs)
  | created _ _ r fresh => exact absurd (h.issued _ s hs) fresh
  | launched _ _ other fresh => exact absurd (h.issued _ s hs) fresh
  | begun request _ r other stored going free =>
      rw [free] at hmem
      cases hmem
  | closed _ _ other mem ends c fits record turns =>
      obtain ⟨hother, hid⟩ := mem_turnsOf.1 mem
      rw [h.single turn ht other hother s hs hid.symm] at hends
      exact absurd ends hends
  | canceled _ r stored going record turns =>
      rw [hs, Option.some.injEq] at stored
      subst stored
      exact .inr ⟨rfl, going, record⟩
  | selected node value _ r selected stored => exact absurd rfl hselects
  | deleted _ record turns => exact absurd rfl hdeletes

theorem terminal_passing (hover : s.isTerminal = true) {moves : List Move}
    (hp : ∀ move ∈ moves, move.Passes turn) :
    (m.after house moves).record? turn.marked.id = some s := by
  induction moves generalizing m turn with
  | nil => exact hs
  | cons move rest ih =>
      obtain ⟨hfirst, hrest⟩ := List.forall_mem_cons.1 hp
      have hstep : (m.step house move).record? turn.marked.id = some s := by
        rcases passing_step h house ht hs hfirst with hsame | ⟨-, hgoing, -⟩
        · exact hsame
        · rw [hover] at hgoing
          cases hgoing
      rw [← turn.marked_step move] at hstep ⊢
      exact ih (h.step house move) (step_mem h house ht hfirst.1) hstep
        fun other ho => (hrest other ho).step move

theorem untouched_passing {moves : List Move} (hp : ∀ move ∈ moves, move.Passes turn)
    (hc : ∀ move ∈ moves, ¬ move.Cancels turn.marked.id) :
    (m.after house moves).record? turn.marked.id = some s := by
  induction moves generalizing m turn with
  | nil => exact hs
  | cons move rest ih =>
      obtain ⟨hfirst, hrest⟩ := List.forall_mem_cons.1 hp
      obtain ⟨hcfirst, hcrest⟩ := List.forall_mem_cons.1 hc
      have hstep : (m.step house move).record? turn.marked.id = some s := by
        rcases passing_step h house ht hs hfirst with hsame | ⟨hcancels, -⟩
        · exact hsame
        · exact absurd hcancels hcfirst
      rw [← turn.marked_step move] at hstep hcrest ⊢
      exact ih (h.step house move) (step_mem h house ht hfirst.1) hstep
        (fun other ho => (hrest other ho).step move) hcrest

theorem canceled_passing (hgoing : s.isTerminal = false) {moves : List Move}
    (hp : ∀ move ∈ moves, move.Passes turn)
    (hc : ∃ move ∈ moves, move.Cancels turn.marked.id) :
    ∃ now, (m.after house moves).record? turn.marked.id
      = some (s.revise now { status := some .canceled, awaiting := some false }) := by
  induction moves generalizing m turn with
  | nil =>
      obtain ⟨move, hmove, -⟩ := hc
      cases hmove
  | cons move rest ih =>
      obtain ⟨hfirst, hrest⟩ := List.forall_mem_cons.1 hp
      have hstep := h.step house move
      have hmem := step_mem h house ht hfirst.1
      have hpass : ∀ other ∈ rest, other.Passes (turn.step move) :=
        fun other ho => (hrest other ho).step move
      by_cases hcancels : move.Cancels turn.marked.id
      · have hcanceled : (m.step house move).record? turn.marked.id
            = some (s.revise m.now { status := some .canceled, awaiting := some false }) := by
          cases move with
          | cancel other =>
              have hother : other = turn.marked.id := hcancels
              rw [hother]
              exact cancel_step h house hs hgoing
          | _ => exact hcancels.elim
        rw [← turn.marked_step move] at hcanceled ⊢
        exact ⟨m.now, terminal_passing hstep house hmem hcanceled rfl hpass⟩
      · have hsame : (m.step house move).record? turn.marked.id = some s := by
          rcases passing_step h house ht hs hfirst with hsame | ⟨hyes, -⟩
          · exact hsame
          · exact absurd hyes hcancels
        have hcrest : ∃ other ∈ rest, other.Cancels turn.marked.id := by
          obtain ⟨other, ho, hyes⟩ := hc
          rcases List.mem_cons.1 ho with rfl | ho
          · exact absurd hyes hcancels
          · exact ⟨other, ho, hyes⟩
        rw [← turn.marked_step move] at hsame hcrest ⊢
        exact ih hstep hmem hsame hpass hcrest

end Passing

end Manager

end Dialogue
