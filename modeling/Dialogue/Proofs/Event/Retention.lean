import Dialogue.Event.Buffer
import Mathlib.Data.List.Perm.Subperm
/-!
What a buffer retains, told from its past: of each session the latest events since it was last
drained, discarded or evicted. A session is evicted when another one comes for which there is no
room, and it is the one that was published to least recently.
-/
namespace Dialogue.Event.Buffer

inductive Operation where
  | publish (session : String) (events : List Event)
  | drain (session : String)
  | discard (session : String)
  | pending (session : String)

def perform (buffer : Buffer) : Operation → Buffer
  | .publish session events => buffer.publish session events
  | .drain session => (buffer.drain session).2
  | .discard session => buffer.discard session
  | .pending _ => buffer

/-- The sessions that a buffer keeps events for. -/
def tracked (buffer : Buffer) : List String := Mapping.keys buffer.kept

/-- The sessions that a publish drops. -/
def evicted (buffer : Buffer) : Operation → List String
  | .publish session events =>
      buffer.tracked.filter (· ∉ (buffer.publish session events).tracked)
  | _ => []

inductive Happening where
  | operation (done : Operation)
  | eviction (session : String)

namespace Happening

/-- A session is given events. -/
def Tells (session : String) : Happening → Prop
  | .operation (.publish other events) => other = session ∧ events ≠ []
  | _ => False

instance (session : String) : (happening : Happening) → Decidable (happening.Tells session)
  | .operation (.publish other events) =>
      inferInstanceAs (Decidable (other = session ∧ events ≠ []))
  | .operation (.drain _) | .operation (.discard _) | .operation (.pending _) | .eviction _ =>
      inferInstanceAs (Decidable False)

end Happening

/-- The events that were published for a session since it was last drained, discarded or evicted.
The past has the latest happening first. -/
def since (session : String) : (past : List Happening) → List Event
  | [] => []
  | .operation (.publish other events) :: past =>
      if other = session then since session past ++ events else since session past
  | .operation (.pending _) :: past => since session past
  | .operation (.drain other) :: past | .operation (.discard other) :: past
  | .eviction other :: past => if other = session then [] else since session past

/-- When a session was last given events, counted in happenings; 0 if it never was. -/
def latest (session : String) : (past : List Happening) → Nat
  | [] => 0
  | happening :: past =>
      if happening.Tells session then past.length + 1 else latest session past

/-- A buffer and all that has happened to it, the latest first. -/
structure Chronicle where
  buffer : Buffer
  past : List Happening

namespace Chronicle

def perform (chronicle : Chronicle) (operation : Operation) : Chronicle where
  buffer := chronicle.buffer.perform operation
  past := (chronicle.buffer.evicted operation).map .eviction ++
    .operation operation :: chronicle.past

/-- The chronicle of a new buffer after some operations. -/
def after (perSession sessions : Int) (operations : List Operation) : Chronicle :=
  operations.foldl perform ⟨.empty perSession sessions, []⟩

end Chronicle

section Lasts

variable {α : Type}

theorem lastOf_of_length_le {n : Nat} {items : List α} (h : items.length ≤ n) :
    lastOf n items = items := by
  rw [lastOf, Nat.sub_eq_zero_of_le h, List.drop_zero]

theorem length_lastOf (n : Nat) (items : List α) :
    (lastOf n items).length = min n items.length := by
  rw [lastOf, List.length_drop]
  omega

/-- What is not among the last items does not come back by adding more. -/
theorem lastOf_append_lastOf (n : Nat) (items more : List α) :
    lastOf n (lastOf n items ++ more) = lastOf n (items ++ more) := by
  have hjoined : lastOf n items ++ more = (items ++ more).drop (items.length - n) :=
    (List.drop_append_of_le_length (Nat.sub_le _ _)).symm
  rw [hjoined, lastOf, lastOf, List.drop_drop, List.length_drop, List.length_append]
  congr 1
  omega

end Lasts

section Pasts

variable {session other : String} {events : List Event} {past : List Happening}

theorem since_evictions (lost : List String) (past : List Happening) (session : String) :
    since session (lost.map .eviction ++ past) =
      if session ∈ lost then [] else since session past := by
  induction lost with
  | nil => rfl
  | cons first rest ih =>
      rw [List.map_cons, List.cons_append, since, ih]
      by_cases hfirst : first = session
      · simp [hfirst]
      · simp [hfirst, Ne.symm hfirst]

theorem latest_evictions (lost : List String) (past : List Happening) (session : String) :
    latest session (lost.map .eviction ++ past) = latest session past := by
  induction lost with
  | nil => rfl
  | cons first rest ih =>
      rw [List.map_cons, List.cons_append, latest, if_neg (show ¬ Happening.Tells _ _ from id), ih]

theorem latest_le (session : String) (past : List Happening) :
    latest session past ≤ past.length := by
  induction past with
  | nil => exact Nat.le_refl 0
  | cons happening past ih =>
      rw [latest, List.length_cons]
      split
      · exact Nat.le_refl _
      · exact Nat.le_succ_of_le ih

end Pasts

section Mappings

variable {α : Type} {kept base : Mapping α} {key : String}

theorem keys_erase (m : Mapping α) (key : String) :
    Mapping.keys (Mapping.erase m key) = (Mapping.keys m).filter (· ≠ key) := by
  rw [Mapping.erase_eq_filter, Mapping.keys, Mapping.keys, List.filter_map]
  rfl

/-- A part of a mapping has the values that the mapping has. -/
theorem get?_sublist (hkept : (Mapping.keys kept).Nodup) (hbase : base.Sublist kept)
    (hkey : key ∈ Mapping.keys base) : Mapping.get? base key = Mapping.get? kept key := by
  obtain ⟨entry, hentry, rfl⟩ := List.mem_map.1 hkey
  have hnodup : (Mapping.keys base).Nodup := (hbase.map Prod.fst).nodup hkept
  rw [Mapping.get?_of_mem hnodup hentry, Mapping.get?_of_mem hkept (hbase.subset hentry)]

end Mappings

theorem mem_evicted {buffer : Buffer} {session other : String} {events : List Event} :
    other ∈ buffer.evicted (.publish session events) ↔
      other ∈ buffer.tracked ∧ other ∉ (buffer.publish session events).tracked := by
  simp [evicted]

theorem evicted_nil (buffer : Buffer) (session : String) :
    buffer.evicted (.publish session []) = [] := by
  refine List.eq_nil_iff_forall_not_mem.2 fun other hother => ?_
  obtain ⟨htracked, hlost⟩ := mem_evicted.1 hother
  exact hlost htracked

/-- The buffer of a chronicle holds what its past says, in the order of the latest publishes. -/
structure Chronicle.Faithful (perSession sessions : Nat) (chronicle : Chronicle) : Prop where
  limits : chronicle.buffer.perSession = perSession ∧ chronicle.buffer.sessions = sessions
  kept : ∀ session, Mapping.get? chronicle.buffer.kept session =
    if since session chronicle.past = [] then none
    else some (lastOf perSession (since session chronicle.past))
  order : chronicle.buffer.tracked.Pairwise fun earlier later =>
    latest earlier chronicle.past < latest later chronicle.past
  room : chronicle.buffer.tracked.length ≤ sessions

namespace Chronicle

variable {perSession sessions : Nat} {chronicle : Chronicle} {session : String}
  {events : List Event}

theorem faithful_empty (perSession sessions : Nat) :
    Faithful perSession sessions ⟨.empty perSession sessions, []⟩ where
  limits := ⟨rfl, rfl⟩
  kept _ := rfl
  order := .nil
  room := Nat.zero_le _

/-- What a publish leaves: a part of what was kept, and the session that it is about at the end. -/
structure Leaves (chronicle : Chronicle) (perSession sessions : Nat) (session : String)
    (events : List Event) (base : Mapping (List Event)) : Prop where
  part : base.Sublist chronicle.buffer.kept
  fresh : session ∉ Mapping.keys base
  room : base.length < sessions
  kept : (chronicle.buffer.publish session events).kept =
    base ++ [(session, lastOf perSession (since session chronicle.past ++ events))]

namespace Leaves

variable {base : Mapping (List Event)}
  (hleaves : chronicle.Leaves perSession sessions session events base)
include hleaves

theorem tracked_eq :
    (chronicle.buffer.publish session events).tracked = Mapping.keys base ++ [session] := by
  rw [tracked, hleaves.kept, Mapping.keys, List.map_append]
  rfl

theorem mem_evicted {other : String} :
    other ∈ chronicle.buffer.evicted (.publish session events) ↔
      other ∈ chronicle.buffer.tracked ∧ other ∉ Mapping.keys base ∧ other ≠ session := by
  rw [Buffer.mem_evicted, hleaves.tracked_eq]
  simp

end Leaves

namespace Faithful

section Views

variable (h : chronicle.Faithful perSession sessions)
include h

theorem nodup : chronicle.buffer.tracked.Nodup := by
  refine h.order.imp fun hlt heq => ?_
  rw [heq] at hlt
  exact Nat.lt_irrefl _ hlt

theorem tracked_iff :
    session ∈ chronicle.buffer.tracked ↔ since session chronicle.past ≠ [] := by
  have hnone : since session chronicle.past = [] ↔ session ∉ chronicle.buffer.tracked := by
    rw [tracked, ← Mapping.get?_eq_none_iff, h.kept]
    split <;> simp [*]
  rw [Ne, hnone, Classical.not_not]

theorem events_eq (session : String) :
    chronicle.buffer.events session = lastOf perSession (since session chronicle.past) := by
  rw [events, h.kept]
  split
  · rename_i hnone
    rw [hnone]
    exact (lastOf_of_length_le (Nat.zero_le _)).symm
  · rfl

theorem refusal?_eq (session : String) (events : List Event) :
    chronicle.buffer.refusal? session events = none := by
  have hper : ¬ chronicle.buffer.perSession < 0 := by
    rw [h.limits.1]
    exact Int.not_lt.2 (Int.natCast_nonneg _)
  have hall : ¬ chronicle.buffer.sessions < 0 := by
    rw [h.limits.2]
    exact Int.not_lt.2 (Int.natCast_nonneg _)
  rw [refusal?, if_neg hper, if_neg hall, ite_self]

end Views

/-- The session that the operation is about is forgotten. -/
theorem forget (h : chronicle.Faithful perSession sessions) {operation : Operation}
    (hafter : chronicle.buffer.perform operation = chronicle.buffer.discard session)
    (hevicted : chronicle.buffer.evicted operation = [])
    (hsince : ∀ other, since other (.operation operation :: chronicle.past) =
      if session = other then [] else since other chronicle.past)
    (hlatest : ∀ other, latest other (.operation operation :: chronicle.past) =
      latest other chronicle.past) :
    (chronicle.perform operation).Faithful perSession sessions := by
  have hpast : (chronicle.perform operation).past = .operation operation :: chronicle.past := by
    rw [Chronicle.perform, hevicted]
    rfl
  have hbuffer : (chronicle.perform operation).buffer = chronicle.buffer.discard session := hafter
  have hsub : (chronicle.buffer.discard session).tracked.Sublist chronicle.buffer.tracked := by
    rw [tracked, discard, keys_erase]
    exact List.filter_sublist
  refine ⟨?_, fun other => ?_, ?_, ?_⟩
  · rw [hbuffer]
    exact h.limits
  · rw [hbuffer, hpast, hsince, discard, Mapping.get?_erase, h.kept]
    split <;> simp
  · rw [hbuffer, hpast]
    simp only [hlatest]
    exact h.order.sublist hsub
  · rw [hbuffer]
    exact Nat.le_trans hsub.length_le h.room

section Publish

variable (h : chronicle.Faithful perSession sessions) (hevents : events ≠ [])
include h hevents

theorem publish_kept :
    (chronicle.buffer.publish session events).kept =
      lastOf sessions (Mapping.erase chronicle.buffer.kept session ++
        [(session, lastOf perSession (since session chronicle.past ++ events))]) := by
  have hgoes : (events.isEmpty || decide (chronicle.buffer.perSession < 0)) = false := by
    rw [h.limits.1]
    simpa using hevents
  rw [Buffer.publish, if_neg (Bool.eq_false_iff.1 hgoes), h.events_eq, h.limits.1, h.limits.2]
  simp only [Int.toNat_natCast, lastOf_append_lastOf]

/-- A session that is tracked already, or for which there is room. -/
theorem leaves_roomy (hroom : session ∈ chronicle.buffer.tracked ∨
      chronicle.buffer.tracked.length < sessions) :
    chronicle.Leaves perSession sessions session events
      (Mapping.erase chronicle.buffer.kept session) := by
  have hkeys : (Mapping.erase chronicle.buffer.kept session).length =
      (chronicle.buffer.tracked.filter (· ≠ session)).length :=
    (List.length_map ..).symm.trans (congrArg List.length (keys_erase _ _))
  have hlength : (Mapping.erase chronicle.buffer.kept session).length < sessions := by
    rw [hkeys]
    rcases hroom with hmem | hlt
    · refine Nat.lt_of_lt_of_le ?_ h.room
      exact List.length_filter_lt_length_iff_exists.2 ⟨session, hmem, by simp⟩
    · exact Nat.lt_of_le_of_lt (List.length_filter_le _ _) hlt
  refine ⟨?_, ?_, hlength, ?_⟩
  · rw [Mapping.erase_eq_filter]
    exact List.filter_sublist
  · rw [keys_erase]
    simp
  · rw [h.publish_kept hevents, lastOf_of_length_le]
    rw [List.length_append]
    exact hlength

/-- A session that is not tracked and for which there is no room. -/
theorem leaves_full (hs : 0 < sessions) (hnew : session ∉ chronicle.buffer.tracked)
    (hfull : chronicle.buffer.tracked.length = sessions) :
    ∃ first base, chronicle.buffer.kept = first :: base ∧
      chronicle.Leaves perSession sessions session events base := by
  have hlength : chronicle.buffer.kept.length = sessions := (List.length_map _).symm.trans hfull
  have hsame : Mapping.erase chronicle.buffer.kept session = chronicle.buffer.kept := by
    rw [Mapping.erase_eq_filter, List.filter_eq_self]
    intro entry hentry
    have hne : entry.1 ≠ session := fun heq => hnew (List.mem_map.2 ⟨entry, hentry, heq⟩)
    simpa using hne
  have hafter : (chronicle.buffer.publish session events).kept =
      lastOf sessions (chronicle.buffer.kept ++
        [(session, lastOf perSession (since session chronicle.past ++ events))]) := by
    rw [h.publish_kept hevents, hsame]
  cases hkept : chronicle.buffer.kept with
  | nil =>
      rw [hkept] at hlength
      exact absurd hlength (Nat.ne_of_lt hs)
  | cons first base =>
      rw [hkept, List.length_cons] at hlength
      rw [hkept, lastOf] at hafter
      refine ⟨first, base, rfl, ?_, ?_, ?_, ?_⟩
      · rw [hkept]
        exact List.sublist_cons_self _ _
      · intro hmem
        rw [tracked, hkept] at hnew
        exact hnew (.tail _ hmem)
      · omega
      · rw [hafter, List.length_append, List.length_cons, List.length_singleton]
        have hone : base.length + 1 + 1 - sessions = 1 := by omega
        rw [hone]
        rfl

theorem publish {base : Mapping (List Event)}
    (hleaves : chronicle.Leaves perSession sessions session events base) :
    (chronicle.perform (.publish session events)).Faithful perSession sessions := by
  have hself : session ∉ chronicle.buffer.evicted (.publish session events) := by
    rw [hleaves.mem_evicted]
    simp
  have hlast (other : String) : latest other (chronicle.perform (.publish session events)).past =
      if session = other then chronicle.past.length + 1 else latest other chronicle.past := by
    rw [Chronicle.perform, latest_evictions, latest]
    simp only [Happening.Tells, hevents, ne_eq, not_false_eq_true, and_true]
  refine ⟨?_, fun other => ?_, ?_, ?_⟩
  · have hlimits := h.limits
    simp only [Chronicle.perform, Buffer.perform, Buffer.publish]
    split <;> exact hlimits
  · have hkept : Mapping.get? (chronicle.perform (.publish session events)).buffer.kept other =
        if session = other then
          some (lastOf perSession (since session chronicle.past ++ events))
        else Mapping.get? base other := by
      rw [Chronicle.perform, Buffer.perform, hleaves.kept, ← Mapping.set_of_notMem hleaves.fresh,
        Mapping.get?_set]
    rw [hkept, Chronicle.perform, since_evictions, since]
    by_cases hsame : session = other
    · subst hsame
      simp [hself, hevents]
    · simp only [if_neg hsame, hleaves.mem_evicted]
      by_cases hbase : other ∈ Mapping.keys base
      · rw [get?_sublist h.nodup hleaves.part hbase, h.kept]
        simp [hbase]
      · rw [Mapping.get?_eq_none_iff.2 hbase]
        by_cases htracked : other ∈ chronicle.buffer.tracked
        · simp [htracked, hbase, Ne.symm hsame]
        · simp [htracked, Classical.not_not.1 (mt h.tracked_iff.2 htracked)]
  · have htracked : (chronicle.perform (.publish session events)).buffer.tracked =
        Mapping.keys base ++ [session] := hleaves.tracked_eq
    rw [htracked, List.pairwise_append]
    simp only [hlast]
    refine ⟨?_, List.pairwise_singleton _ _, ?_⟩
    · refine (h.order.sublist (hleaves.part.map Prod.fst)).imp_of_mem ?_
      intro earlier later hearlier hlater hlt
      have hfresh {other : String} (hmem : other ∈ Mapping.keys base) : session ≠ other :=
        fun heq => hleaves.fresh (heq ▸ hmem)
      rwa [if_neg (hfresh hearlier), if_neg (hfresh hlater)]
    · intro earlier hearlier later hlater
      obtain rfl := List.mem_singleton.1 hlater
      have hne : later ≠ earlier := fun heq => hleaves.fresh (heq ▸ hearlier)
      rw [if_pos rfl, if_neg hne]
      exact Nat.lt_succ_of_le (latest_le _ _)
  · have htracked : (chronicle.perform (.publish session events)).buffer.tracked =
        Mapping.keys base ++ [session] := hleaves.tracked_eq
    rw [htracked, List.length_append, Mapping.keys, List.length_map]
    exact hleaves.room

end Publish

/-- Publishing nothing is no publish. -/
theorem publish_nil (h : chronicle.Faithful perSession sessions) (session : String) :
    (chronicle.perform (.publish session [])).Faithful perSession sessions := by
  have hpast : (chronicle.perform (.publish session [])).past =
      .operation (.publish session []) :: chronicle.past := by
    rw [Chronicle.perform, evicted_nil]
    rfl
  have hsince (other : String) :
      since other (chronicle.perform (.publish session [])).past = since other chronicle.past := by
    simp [hpast, since]
  have hlatest (other : String) :
      latest other (chronicle.perform (.publish session [])).past =
        latest other chronicle.past := by
    simp [hpast, latest, Happening.Tells]
  refine ⟨h.limits, fun other => ?_, ?_, h.room⟩
  · rw [hsince]
    exact h.kept other
  · simp only [hlatest]
    exact h.order

theorem perform (h : chronicle.Faithful perSession sessions) (hs : 0 < sessions)
    (operation : Operation) : (chronicle.perform operation).Faithful perSession sessions := by
  cases operation with
  | drain session => exact h.forget rfl rfl (fun _ => rfl) fun _ => rfl
  | discard session => exact h.forget rfl rfl (fun _ => rfl) fun _ => rfl
  | pending session => exact ⟨h.limits, h.kept, h.order, h.room⟩
  | publish session events =>
      by_cases hevents : events = []
      · subst hevents
        exact h.publish_nil session
      · by_cases hroom : session ∈ chronicle.buffer.tracked ∨
            chronicle.buffer.tracked.length < sessions
        · exact h.publish hevents (h.leaves_roomy hevents hroom)
        · rw [not_or] at hroom
          have hfull : chronicle.buffer.tracked.length = sessions :=
            Nat.le_antisymm h.room (Nat.not_lt.1 hroom.2)
          obtain ⟨first, base, -, hleaves⟩ := h.leaves_full hevents hs hroom.1 hfull
          exact h.publish hevents hleaves

/-- A session is evicted by events for a new one for which there is no room, and it is the one that
was given events least recently. -/
theorem mem_evicted_iff (h : chronicle.Faithful perSession sessions) (hs : 0 < sessions)
    (operation : Operation) :
    session ∈ chronicle.buffer.evicted operation ↔
      ∃ other events, operation = .publish other events ∧ events ≠ [] ∧
        other ∉ chronicle.buffer.tracked ∧ chronicle.buffer.tracked.length = sessions ∧
        session ∈ chronicle.buffer.tracked ∧
        ∀ rival ∈ chronicle.buffer.tracked, rival ≠ session →
          latest session chronicle.past < latest rival chronicle.past := by
  have hfull (first : String × List Event) (base : Mapping (List Event))
      (hkept : chronicle.buffer.kept = first :: base) :
      chronicle.buffer.tracked = first.1 :: Mapping.keys base := by
    rw [tracked, hkept]
    rfl
  have horder := h.order
  constructor
  · intro hlost
    cases operation with
    | drain other => cases hlost
    | discard other => cases hlost
    | pending other => cases hlost
    | publish other events =>
        have hevents : events ≠ [] := by
          rintro rfl
          rw [evicted_nil] at hlost
          cases hlost
        have hroom : ¬(other ∈ chronicle.buffer.tracked ∨
            chronicle.buffer.tracked.length < sessions) := by
          intro hroom
          obtain ⟨htracked, hgone, hne⟩ := (h.leaves_roomy hevents hroom).mem_evicted.1 hlost
          rw [keys_erase] at hgone
          exact hgone (List.mem_filter.2 ⟨htracked, by simpa using hne⟩)
        rw [not_or] at hroom
        have hlength := Nat.le_antisymm h.room (Nat.not_lt.1 hroom.2)
        obtain ⟨first, base, hkept, hleaves⟩ := h.leaves_full hevents hs hroom.1 hlength
        obtain ⟨htracked, hgone, -⟩ := hleaves.mem_evicted.1 hlost
        refine ⟨other, events, rfl, hevents, hroom.1, hlength, htracked, ?_⟩
        rw [hfull first base hkept] at htracked horder ⊢
        obtain rfl := (List.mem_cons.1 htracked).resolve_right hgone
        intro rival hrival hne
        exact List.rel_of_pairwise_cons horder ((List.mem_cons.1 hrival).resolve_left hne)
  · rintro ⟨other, events, rfl, hevents, hnew, hlength, htracked, hleast⟩
    obtain ⟨first, base, hkept, hleaves⟩ := h.leaves_full hevents hs hnew hlength
    have hne : session ≠ other := fun heq => hnew (heq ▸ htracked)
    refine hleaves.mem_evicted.2 ⟨htracked, fun hbase => ?_, hne⟩
    have hnodup := h.nodup
    rw [hfull first base hkept] at hleast horder hnodup
    have hfirst : first.1 ≠ session := fun heq => (List.nodup_cons.1 hnodup).1 (heq ▸ hbase)
    have hlater := hleast first.1 (.head _) hfirst
    exact Nat.lt_asymm hlater (List.rel_of_pairwise_cons horder hbase)

end Faithful

theorem faithful_after (perSession : Nat) (hs : 0 < sessions) (operations : List Operation) :
    (after perSession sessions operations).Faithful perSession sessions := by
  suffices hgoes : ∀ chronicle : Chronicle, chronicle.Faithful perSession sessions →
      (operations.foldl perform chronicle).Faithful perSession sessions from
    hgoes _ (faithful_empty perSession sessions)
  induction operations with
  | nil => exact fun _ h => h
  | cons operation rest ih => exact fun _ h => ih _ (h.perform hs operation)

end Chronicle

/-- At every moment a buffer refuses nothing and holds for each session the latest of the events
that came since the session was last drained, discarded or evicted. Events are waiting for no more
sessions than there is room for. What is evicted makes room for a new session, and was given events
less recently than all other sessions. -/
theorem buffer_is_bounded_log (perSession : Nat) {sessions : Nat} (hs : 0 < sessions)
    (operations : List Operation) :
    let chronicle := Chronicle.after perSession sessions operations
    let buffer := chronicle.buffer
    let past := chronicle.past
    (∀ session events, buffer.refusal? session events = none) ∧
      (∀ session, (buffer.drain session).1 = lastOf perSession (since session past) ∧
        buffer.pending session = (lastOf perSession (since session past)).length) ∧
      (∀ waiting : List String, waiting.Nodup →
        (∀ session ∈ waiting, 0 < buffer.pending session) → waiting.length ≤ sessions) ∧
      (∀ session, session ∈ buffer.tracked ↔ since session past ≠ []) ∧
      ∀ operation session, session ∈ buffer.evicted operation ↔
        ∃ other events, operation = .publish other events ∧ events ≠ [] ∧
          other ∉ buffer.tracked ∧ buffer.tracked.length = sessions ∧ session ∈ buffer.tracked ∧
          ∀ rival ∈ buffer.tracked, rival ≠ session → latest session past < latest rival past := by
  intro chronicle buffer past
  have h : chronicle.Faithful perSession sessions :=
    Chronicle.faithful_after perSession hs operations
  refine ⟨fun session events => ?_, fun session => ⟨h.events_eq session, ?_⟩, ?_,
    fun _ => h.tracked_iff, fun operation _ => h.mem_evicted_iff hs operation⟩
  · exact h.refusal?_eq session events
  · rw [← h.events_eq]
    rfl
  · intro waiting hnodup hwaiting
    have hsub : waiting ⊆ buffer.tracked := by
      intro session hsession
      have hpending := hwaiting session hsession
      rw [h.tracked_iff]
      intro hnone
      rw [pending, h.events_eq, hnone, length_lastOf] at hpending
      simp at hpending
    exact Nat.le_trans (List.subperm_of_subset hnodup hsub).length_le h.room

namespace Sample

def page (url : String) : Event := .openLink "" url

/-- Two sessions that are published to in turn. -/
def calls : List Operation :=
  [.publish "a" [page "1"], .publish "b" [page "2"], .publish "a" [page "3", page "4"]]

end Sample

/-- A third session costs the one its events that was not published to last. -/
theorem third_session_evicts :
    0 < 2 ∧
      let chronicle := Chronicle.after 2 2 Sample.calls
      (chronicle.buffer.drain "a").1 = [Sample.page "3", Sample.page "4"] ∧
        "b" ∈ chronicle.buffer.evicted (.publish "c" [Sample.page "5"]) := by
  obtain ⟨-, hdrained, -, -, hevicted⟩ := buffer_is_bounded_log 2 (Nat.succ_pos 1) Sample.calls
  refine ⟨Nat.succ_pos 1, ?_, (hevicted _ _).2 ⟨"c", [Sample.page "5"], rfl, by decide⟩⟩
  exact (hdrained "a").1.trans (by decide)

end Dialogue.Event.Buffer
