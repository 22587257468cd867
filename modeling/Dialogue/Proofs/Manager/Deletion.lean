import Dialogue.Proofs.Manager.Telling
import Dialogue.Proofs.Manager.Window
import Dialogue.Proofs.Manager.Tidy
/-!
Deleted sessions. A turn that outlives the session it works on finds no record to write to, so it
tells nothing, and neither the store nor the sink nor the locks come to know of the session again.
-/
namespace Dialogue

open Turn

namespace Event.Buffer

variable {buffer : Buffer} {id : String}

theorem mem_keys_discard {session : String}
    (h : id ∈ Mapping.keys (buffer.discard session).kept) :
    session ≠ id ∧ id ∈ Mapping.keys buffer.kept := by
  have hget : Mapping.get? (Mapping.erase buffer.kept session) id ≠ none :=
    fun hnone => Mapping.get?_eq_none_iff.1 hnone h
  rw [Mapping.get?_erase] at hget
  split at hget
  · exact absurd rfl hget
  · exact ⟨‹_›, Classical.not_not.1 fun hn => hget (Mapping.get?_eq_none_iff.2 hn)⟩

theorem mem_keys_publish {session : String} {events : List Event}
    (h : id ∈ Mapping.keys (buffer.publish session events).kept) :
    id ∈ Mapping.keys buffer.kept ∨ session = id ∧ events ≠ [] := by
  unfold publish at h
  split at h
  · exact .inl h
  · rename_i hgoes
    have hevents : events ≠ [] := by
      rintro rfl
      simp at hgoes
    simp only [lastOf, Mapping.keys, List.map_drop] at h
    have hmem := List.mem_of_mem_drop h
    rw [List.map_append, List.mem_append] at hmem
    rcases hmem with hmem | hmem
    · have hkept : id ∈ Mapping.keys (buffer.discard session).kept := hmem
      exact .inl (mem_keys_discard hkept).2
    · exact .inr ⟨(List.mem_singleton.1 hmem).symm, hevents⟩

end Event.Buffer

namespace Sink

variable {sink : Sink} {id : String}

/-- The sink keeps nothing for the session. -/
def Forgets (sink : Sink) (id : String) : Prop :=
  match sink with
  | .buffer kept => id ∉ Mapping.keys kept.kept
  | .log _ => True

theorem Forgets.pending (h : sink.Forgets id) : sink.pending id = 0 := by
  cases sink with
  | log logged => rfl
  | buffer kept =>
      have hget : Mapping.get? kept.kept id = none := Mapping.get?_eq_none_iff.2 h
      simp only [Sink.pending, Event.Buffer.pending, Event.Buffer.events, hget, Option.getD_none,
        List.length_nil]

theorem forgets_discard (sink : Sink) (id : String) : (sink.discard id).Forgets id := by
  cases sink with
  | log logged => trivial
  | buffer kept => exact fun h => (Event.Buffer.mem_keys_discard h).1 rfl

/-- Only events of the session itself make a sink remember it. -/
theorem Forgets.act (h : sink.Forgets id) {act : Act} (hact : act.handed id = []) :
    (sink.act act).Forgets id := by
  cases sink with
  | log logged => cases act <;> trivial
  | buffer kept =>
      cases act with
      | discard other => exact fun hmem => h (Event.Buffer.mem_keys_discard hmem).2
      | drain other => exact fun hmem => h (Event.Buffer.mem_keys_discard hmem).2
      | publish other events =>
          intro hmem
          rcases Event.Buffer.mem_keys_publish hmem with hmem | ⟨rfl, hevents⟩
          · exact h hmem
          · simp only [Act.handed, if_true] at hact
            exact hevents hact

theorem Forgets.acts (h : sink.Forgets id) {acts : List Act}
    (hacts : acts.flatMap (Act.handed id) = []) : (acts.foldl Sink.act sink).Forgets id := by
  induction acts generalizing sink with
  | nil => exact h
  | cons act rest ih =>
      rw [List.flatMap_cons, List.append_eq_nil_iff] at hacts
      exact ih (h.act hacts.1) hacts.2

end Sink

namespace Manager

variable {m : Manager} {id : String}

/-- No record and no events of the session are left. -/
structure Gone (m : Manager) (id : String) : Prop where
  record : m.record? id = none
  sink : m.sink.Forgets id

theorem gone_delete (m : Manager) (id : String) : (m.delete id).2.Gone id where
  record := (Store.record?_delete m.store id id).trans (if_pos rfl)
  sink := m.sink.forgets_discard id

theorem told_of_gone (h : m.store.Orderly) {move : Move} {ended : Ended}
    (hended : m.ended? move = some ended) (hn : m.record? ended.turn.marked.id = none) :
    ended.told = [] := by
  obtain ⟨⟨turn, c⟩, -, rfl⟩ := Option.map_eq_some_iff.1 hended
  simp only at hn
  simp [Ended.told, write_of_gone h hn, Except.toOption]

theorem handed_of_gone (h : m.store.Orderly) (hn : m.record? id = none) (move : Move) :
    (m.acts move).flatMap (Sink.Act.handed id) = [] := by
  rw [acts_handed, List.flatMap_eq_nil_iff]
  intro ended hmem
  obtain ⟨hended, hid⟩ := List.mem_filter.1 hmem
  rw [Option.mem_toList] at hended
  have hturn : ended.turn.marked.id = id := of_decide_eq_true hid
  exact told_of_gone h hended (hturn ▸ hn)

section Moves

variable (h : m.Sound) (house : House)
include h

theorem given_le_after (moves : List Move) :
    m.store.given ≤ (m.after house moves).store.given := by
  induction moves generalizing m with
  | nil => exact Nat.le_refl _
  | cons move rest ih =>
      exact Nat.le_trans (given_le_step h house move) (ih (h.step house move))

/-- A session without a record gets none unless its id is given out. -/
theorem absent_step_unless (hn : m.record? id = none) {move : Move}
    (hkept : (m.step house move).store.Issued id → m.store.Issued id) :
    (m.step house move).record? id = none := by
  -- an id that is not given out has no record, whatever the move was
  by_cases hissued : m.store.Issued id
  · exact absent_step h house hissued hn move
  · cases hs : (m.step house move).record? id with
    | none => rfl
    | some s => exact absurd (hkept ((h.step house move).issued id s hs)) hissued

theorem gone_step (htruthful : ∀ turn ∈ m.pending, turn.Truthful) (hg : m.Gone id) {move : Move}
    (hkept : (m.step house move).store.Issued id → m.store.Issued id) :
    (m.step house move).Gone id where
  record := absent_step_unless h house hg.record hkept
  sink := by
    rw [sink_step h htruthful house move]
    exact hg.sink.acts (handed_of_gone h.orderly hg.record move)

theorem gone_after (htruthful : ∀ turn ∈ m.pending, turn.Truthful) (hg : m.Gone id)
    (moves : List Move) (hkept : (m.after house moves).store.Issued id → m.store.Issued id) :
    (m.after house moves).Gone id := by
  induction moves generalizing m with
  | nil => exact hg
  | cons move rest ih =>
      have hstep := h.step house move
      have hlater : (m.step house move).store.Issued id →
          ((m.step house move).after house rest).store.Issued id :=
        fun hissued => hissued.mono (given_le_after hstep house rest)
      refine ih hstep (truthful_step h htruthful move) ?_ fun hissued => ?_
      · exact gone_step h house htruthful hg fun hissued => hkept (hlater hissued)
      · exact (hkept hissued).mono (given_le_step h house move)

theorem truthful_after (htruthful : ∀ turn ∈ m.pending, turn.Truthful) (moves : List Move) :
    ∀ turn ∈ (m.after house moves).pending, turn.Truthful := by
  induction moves generalizing m with
  | nil => exact htruthful
  | cons move rest ih => exact ih (h.step house move) (truthful_step h htruthful move)

end Moves

/-- However moves are interleaved, a session that has been deleted is not there again, nothing is
kept for it in the sink, and it has no lock, also while a turn of it is still pending. Ids are given
out once, so one that has been deleted is not given out for the first time later. -/
theorem deletion_is_final (house : House) (sink : Sink) (now : Moment) (earlier later : List Move)
    (id : String)
    (fresh : ((empty sink now).after house (earlier ++ .delete id :: later)).store.Issued id →
      ((empty sink now).after house earlier).store.Issued id) :
    let m := (empty sink now).after house (earlier ++ .delete id :: later)
    m.session? id = .ok none ∧ m.sink.pending id = 0 ∧ Mapping.get? m.locks id = none := by
  intro m
  have hsound := (sound_empty sink now).after house earlier
  have htruthful := truthful_after (sound_empty sink now) house (by rintro turn ⟨⟩) earlier
  have hm : m = (((empty sink now).after house earlier).delete id).2.after house later :=
    after_append house _ earlier (.delete id :: later)
  have hgone : m.Gone id := by
    rw [hm]
    refine gone_after (hsound.delete id) house htruthful (gone_delete _ id) later fun hissued => ?_
    rw [← hm] at hissued
    exact (fresh hissued).mono (Nat.le_of_eq (Store.given_delete _ id).symm)
  have horderly : m.store.Orderly := ((sound_empty sink now).after house _).orderly
  have htidy : m.Tidy := (tidy_empty sink now).after (sound_empty sink now) house _
  refine ⟨?_, hgone.sink.pending, ?_⟩
  · rw [session?_eq horderly, hgone.record]
  · cases hlock : Mapping.get? m.locks id with
    | none => rfl
    | some lock =>
        obtain ⟨s, hs⟩ := htidy.alive id lock hlock
        cases hgone.record.symm.trans hs

/-- One event is pending and a turn waits when the session is deleted; then the turn takes too long
and another is asked for. -/
theorem deletion_during_turn_is_final :
    let start := empty (.buffer (.empty 100 1000)) Sample.start.now
    let refused := { Turn.Request.bare .null with text := .text "Ann" }
    let earlier := [.launch (.text "c") "survey" .null .null, .settle 1, .begin "s1" refused,
      .settle 3, .begin "s1" (.bare .null)]
    let later := [.expire 5, .begin "s1" refused]
    let before := start.after Sample.office earlier
    let m := start.after Sample.office (earlier ++ .delete "s1" :: later)
    before.InFlight "s1" ∧ before.sink.pending "s1" = 1 ∧ before.store.Issued "s1" ∧
      m.session? "s1" = .ok none ∧ m.sink.pending "s1" = 0 ∧ Mapping.get? m.locks "s1" = none := by
  intro start refused earlier later before m
  have hpending : (before.turnsOf "s1").length = 1 := by decide +kernel
  have hinFlight : before.InFlight "s1" :=
    inFlight_iff.2 (List.ne_nil_of_length_eq_add_one hpending)
  have hissued : before.store.Issued "s1" := ⟨0, by decide +kernel, by decide⟩
  exact ⟨hinFlight, by decide +kernel, hissued,
    deletion_is_final Sample.office _ _ earlier later "s1" fun _ => hissued⟩

end Manager

end Dialogue
