import Dialogue.Proofs.Session.File
import Mathlib.Data.Set.List
/-!
Listings of conversations. At a clock that only goes forward a listing names the sessions that have
been made in the conversation and not deleted since, each once and as it is, and the one that was
written last comes first.
-/
namespace Dialogue

/-- The session as it is listed. -/
def Session.summary (s : Session) : Summary := ⟨s.id, s.scenario, s.status, s.updated⟩

/-- The record is listed under one conversation, its home, and under no other. -/
def Entry.ListedAs (entry : Entry) (home : String) (summary : Summary) : Prop :=
  ∀ conversation, Summary.ofEntry? conversation entry =
    .ok (if home = conversation then some summary else none)

theorem Entry.listedAs_known (s : Session) : (known s).ListedAs s.conversation s.summary :=
  fun _ => rfl

/-- The moment of the last change is kept as a text, and read from it as it was. -/
theorem Entry.listedAs_filed {s : Session} (h : Moment.IsNear s.updated.offset) :
    (known s).filed.ListedAs s.conversation s.summary :=
  Summary.ofRaw?_toFields h

namespace Summary

variable {summaries : List Summary}

def isBefore (a b : Summary) : Bool := b.updated.instant ≤ a.updated.instant

theorem inOrder_zoned (h : ∀ s ∈ summaries, s.updated.isZoned = true) :
    inOrder summaries = .ok (summaries.mergeSort isBefore) := by
  have hlocal : (summaries.any fun s => !s.updated.isZoned) = false := by
    rw [List.any_eq_false]
    intro s hs
    simp [h s hs]
  rw [inOrder, hlocal, Bool.and_false]
  rfl

theorem pairwise_isBefore (summaries : List Summary) :
    (summaries.mergeSort isBefore).Pairwise fun a b => b.updated.instant ≤ a.updated.instant := by
  have htrans (a b c : Summary) (hab : isBefore a b = true) (hbc : isBefore b c = true) :
      isBefore a c = true := by
    simp only [isBefore, decide_eq_true_eq] at hab hbc ⊢
    exact Int.le_trans hbc hab
  have htotal (a b : Summary) : (isBefore a b || isBefore b a) = true := by
    simp only [isBefore, Bool.or_eq_true, decide_eq_true_eq]
    exact Int.le_total _ _
  exact (List.pairwise_mergeSort htrans htotal summaries).imp of_decide_eq_true

end Summary

namespace Store

theorem list_map {α : Type} {as : List α} {key : α → String} {entry : α → Entry}
    {home : α → String} {shown : α → Summary}
    (h : ∀ a ∈ as, (entry a).ListedAs (home a) (shown a)) (given : Nat) (conversation : String) :
    Store.list ⟨as.map fun a => (key a, entry a), given⟩ conversation =
      Summary.inOrder ((as.filter (home · = conversation)).map shown) := by
  have hlisted : as.mapM (fun a => Summary.ofEntry? conversation (entry a)) =
      (.ok (as.map fun a => if home a = conversation then some (shown a) else none) :
        Except Fault _) := by
    rw [mapM_congr fun a ha => h a ha conversation]
    exact List.mapM_pure
  have hchosen : (as.map fun a => if home a = conversation then some (shown a) else none).filterMap
      id = (as.filter (home · = conversation)).map shown := by
    rw [List.filterMap_map, ← List.filterMap_eq_map, List.filterMap_filter]
    simp only [Function.comp_def, id_eq, decide_eq_true_eq]
  simp only [Store.list, List.map_map, List.mapM_map, Function.comp_def, hlisted, hchosen, bind,
    Except.bind]

/-- The records as they are kept: as values, with their moments as texts. -/
def kept (store : Store) : Store :=
  { store with entries := store.entries.map fun entry => (entry.1, entry.2.filed) }

variable {store next : Store} {ops : List Op} {id other : String}

/-- The moment at which the call writes, if it is one that writes. -/
def Op.clock? : Op → Option Moment
  | .create now _ _ _ _ | .update now _ _ _ => some now
  | .read _ _ | .delete _ | .list _ => none

/-- The reply says that the call has written the session. -/
def Op.writes (id : String) : Op → Except Fault Answer → Bool
  | .create .., .ok (.created made) => made = id
  | .update _ updated _ _, .ok _ => updated = id
  | _, _ => false

/-- The calls come at a clock that shows the time at Greenwich and only goes forward. -/
structure Ticking (ops : List Op) : Prop where
  greenwich : ∀ op ∈ ops, ∀ now ∈ op.clock?, now.offset = some 0
  forward : (ops.filterMap Op.clock?).Pairwise fun a b => a.instant < b.instant

/-- The number of the call that has written the session last, counted from one; zero if none has. -/
def lastWrite (id : String) : Store → List Op → Nat
  | _, [] => 0
  | store, op :: rest =>
      match lastWrite id (store.perform op).2 rest with
      | 0 => if op.writes id (store.perform op).1 then 1 else 0
      | later + 1 => later + 2

/-- One of the calls has made the session in the conversation, and none since has deleted it. -/
def Lives (ops : List Op) (conversation id : String) : Prop :=
  ∃ earlier now scenario slots language later,
    let creation := Op.create now (.text conversation) scenario slots language
    ops = earlier ++ creation :: later ∧
      ((empty.after earlier).perform creation).1 = .ok (.created id) ∧ Op.delete id ∉ later

section Life

theorem lives_snoc {op : Op} {conversation : String} :
    Lives (ops ++ [op]) conversation id ↔
      Lives ops conversation id ∧ op ≠ .delete id ∨
        ∃ now scenario slots language,
          op = .create now (.text conversation) scenario slots language ∧
            ((empty.after ops).perform op).1 = .ok (.created id) := by
  constructor
  · rintro ⟨earlier, now, scenario, slots, language, later, hops, hmade, hkept⟩
    rcases List.eq_nil_or_concat later with rfl | ⟨later, last, rfl⟩
    · obtain ⟨rfl, hop⟩ := List.append_inj' hops rfl
      cases hop
      exact .inr ⟨now, scenario, slots, language, rfl, hmade⟩
    · rw [List.concat_eq_append] at hops hkept
      rw [← List.cons_append, ← List.append_assoc] at hops
      obtain ⟨rfl, hop⟩ := List.append_inj' hops rfl
      cases hop
      simp only [List.mem_append, List.mem_singleton, not_or] at hkept
      exact .inl ⟨⟨earlier, now, scenario, slots, language, later, rfl, hmade, hkept.1⟩,
        Ne.symm hkept.2⟩
  · rintro (⟨⟨earlier, now, scenario, slots, language, later, rfl, hmade, hkept⟩, hop⟩ |
      ⟨now, scenario, slots, language, rfl, hmade⟩)
    · refine ⟨earlier, now, scenario, slots, language, later ++ [op], by simp, hmade, ?_⟩
      simpa only [List.mem_append, List.mem_singleton, not_or] using ⟨hkept, Ne.symm hop⟩
    · exact ⟨ops, now, scenario, slots, language, [], rfl, hmade, List.not_mem_nil⟩

/-- There is a record of the session, and it belongs to the conversation. -/
def Has (store : Store) (conversation id : String) : Prop :=
  ∃ s, store.record? id = some s ∧ s.conversation = conversation

theorem has_put (store : Store) (s : Session) (conversation : String) :
    (store.put s).Has conversation id ↔
      if s.id = id then s.conversation = conversation else store.Has conversation id := by
  unfold Has
  rw [record?_put]
  split
  · exact ⟨fun ⟨t, ht, hhome⟩ => by cases ht; exact hhome, fun hhome => ⟨_, rfl, hhome⟩⟩
  · rfl

theorem has_delete (store : Store) (conversation : String) :
    (store.delete other).2.Has conversation id ↔ other ≠ id ∧ store.Has conversation id := by
  unfold Has
  rw [record?_delete]
  by_cases hid : other = id
  · simp [hid]
  · simp [hid]

/-- A call that is no deletion keeps each session in its conversation. -/
theorem Effect.has_iff {op : Op} {reply : Except Fault Answer} (h : store.Sound)
    (he : Effect store op reply next) {conversation : String} :
    next.Has conversation id ↔ store.Has conversation id ∧ op ≠ .delete id ∨
      ∃ now scenario slots language,
        op = .create now (.text conversation) scenario slots language ∧
          reply = .ok (.created id) := by
  cases he with
  | @made now conv scenario language slots lang fields =>
      rw [has_put]
      show (if store.freshId = id then conv = conversation else store.Has conversation id) ↔ _
      split
      · rename_i hid
        have hnone : ¬ store.Has conversation id := by
          rintro ⟨s, hs, -⟩
          exact not_issued_freshId store (hid ▸ h.issued id s hs)
        simp [hnone, hid]
      · rename_i hid
        simp [hid]
  | unmade => simp [Has, record?]
  | @revised now revised expected fields s change accepts =>
      have hrevised := (h.orderly.of_record accepts.found).1
      rw [has_put]
      show (if s.id = id then s.conversation = conversation else store.Has conversation id) ↔ _
      split
      · rename_i hid
        have hfound : store.record? id = some s := hid ▸ hrevised ▸ accepts.found
        simp [Has, hfound]
      · simp
  | unrevised | found | listed => simp
  | deleted =>
      rw [has_delete]
      simp [and_comm]

theorem lives_iff (ops : List Op) (conversation id : String) :
    Lives ops conversation id ↔ (empty.after ops).Has conversation id := by
  induction ops using List.reverseRecOn with
  | nil =>
      refine iff_of_false ?_ ?_
      · rintro ⟨earlier, now, scenario, slots, language, later, hops, -⟩
        simp at hops
      · rintro ⟨s, ⟨⟩, -⟩
  | append_singleton ops op ih =>
      obtain ⟨hsound, -⟩ := sound_empty.after ops
      rw [lives_snoc, ih, after_snoc, (hsound.orderly.effect_perform op).has_iff hsound]

end Life

section Time

theorem lastWrite_snoc (id : String) (store : Store) (ops : List Op) (op : Op) :
    lastWrite id store (ops ++ [op]) =
      if op.writes id ((store.after ops).perform op).1 then ops.length + 1
      else lastWrite id store ops := by
  induction ops generalizing store with
  | nil => rfl
  | cons first rest ih =>
      have hrest := ih (store.perform first).2
      rw [List.cons_append, lastWrite, hrest]
      show _ = if op.writes id (((store.perform first).2.after rest).perform op).1 then _ else _
      by_cases hwrites : op.writes id (((store.perform first).2.after rest).perform op).1 = true
      · rw [if_pos hwrites, if_pos hwrites, List.length_cons]
      · rw [if_neg hwrites, if_neg hwrites, lastWrite]

theorem lastWrite_le (id : String) (ops : List Op) : lastWrite id empty ops ≤ ops.length := by
  induction ops using List.reverseRecOn with
  | nil => exact Nat.le_refl _
  | append_singleton ops op ih =>
      rw [lastWrite_snoc, List.length_append, List.length_singleton]
      split <;> omega

theorem eq_of_writes {op : Op} {reply : Except Fault Answer} (hid : op.writes id reply = true)
    (hother : op.writes other reply = true) : id = other := by
  unfold Op.writes at hid hother
  split at hid
  · exact (of_decide_eq_true hid).symm.trans (of_decide_eq_true hother)
  · exact (of_decide_eq_true hid).symm.trans (of_decide_eq_true hother)
  · cases hid

/-- A record is new in the moment of the call, or the same as before it. -/
theorem Effect.record_written {op : Op} {reply : Except Fault Answer} (h : store.Orderly)
    (he : Effect store op reply next) {t : Session} (ht : next.record? id = some t) :
    op.writes id reply = true ∧ op.clock? = some t.updated ∨
      op.writes id reply = false ∧ store.record? id = some t := by
  cases he with
  | made =>
      rw [record?_put] at ht
      split at ht
      · rename_i hid
        cases ht
        exact .inl ⟨decide_eq_true hid, rfl⟩
      · rename_i hid
        exact .inr ⟨decide_eq_false hid, ht⟩
  | @revised now revised expected fields s change accepts =>
      have hrevised := (h.of_record accepts.found).1
      rw [record?_put] at ht
      split at ht
      · rename_i hid
        cases ht
        exact .inl ⟨decide_eq_true (hrevised.symm.trans hid), rfl⟩
      · rename_i hid
        exact .inr ⟨decide_eq_false fun heq => hid (hrevised.trans heq), ht⟩
  | deleted =>
      rw [record?_delete] at ht
      split at ht
      · cases ht
      · exact .inr ⟨rfl, ht⟩
  | unmade | unrevised | found | listed => exact .inr ⟨rfl, ht⟩

theorem Ticking.of_append {earlier later : List Op} (h : Ticking (earlier ++ later)) :
    Ticking earlier where
  greenwich op hop := h.greenwich op (List.mem_append_left later hop)
  forward := by
    have hforward := h.forward
    rw [List.filterMap_append] at hforward
    exact (List.pairwise_append.1 hforward).1

theorem Ticking.lt_last {op : Op} (h : Ticking (ops ++ [op])) {before now : Moment}
    (hbefore : before ∈ ops.filterMap Op.clock?) (hnow : op.clock? = some now) :
    before.instant < now.instant := by
  have hforward := h.forward
  rw [List.filterMap_append] at hforward
  exact (List.pairwise_append.1 hforward).2.2 before hbefore now (by simp [hnow])

/-- The session was written before the other one, and is dated before it. -/
structure Precedes (ops : List Op) (s t : Session) : Prop where
  write : lastWrite s.id empty ops < lastWrite t.id empty ops
  date : s.updated.instant < t.updated.instant

/-- The records are dated by the clock of the calls, and no two of them alike. -/
structure Dated (ops : List Op) : Prop where
  clocked {id : String} {s : Session} (hs : (empty.after ops).record? id = some s) :
    s.updated ∈ ops.filterMap Op.clock?
  apart {id other : String} {s t : Session} (hs : (empty.after ops).record? id = some s)
    (ht : (empty.after ops).record? other = some t) (hne : id ≠ other) :
    Precedes ops s t ∨ Precedes ops t s

theorem Ticking.dated (h : Ticking ops) : Dated ops := by
  induction ops using List.reverseRecOn with
  | nil => exact ⟨nofun, nofun⟩
  | append_singleton ops op ih =>
      obtain ⟨hclocked, hapart⟩ := ih h.of_append
      have hsound := (sound_empty.after ops).1.orderly
      have hnext := (sound_empty.after (ops ++ [op])).1.orderly
      have hrecord {id : String} {s : Session}
          (hs : (empty.after (ops ++ [op])).record? id = some s) :=
        (hsound.effect_perform op).record_written hsound (after_snoc empty ops op ▸ hs)
      -- the session that the call writes comes after all that it leaves alone
      have hlast {id other : String} {s t : Session}
          (hs : (empty.after (ops ++ [op])).record? id = some s)
          (ht : (empty.after (ops ++ [op])).record? other = some t)
          (hwrites : op.writes other ((empty.after ops).perform op).1 = true)
          (hclock : op.clock? = some t.updated)
          (hkept : op.writes id ((empty.after ops).perform op).1 = false)
          (hbefore : (empty.after ops).record? id = some s) : Precedes (ops ++ [op]) s t := by
        refine ⟨?_, h.lt_last (hclocked hbefore) hclock⟩
        rw [(hnext.of_record hs).1, (hnext.of_record ht).1, lastWrite_snoc, lastWrite_snoc,
          if_pos hwrites, hkept]
        exact Nat.lt_succ_of_le (lastWrite_le id ops)
      constructor
      · intro id s hs
        rw [List.filterMap_append, List.mem_append]
        rcases hrecord hs with ⟨-, hclock⟩ | ⟨-, hbefore⟩
        · exact .inr (by simp [hclock])
        · exact .inl (hclocked hbefore)
      · intro id other s t hs ht hne
        rcases hrecord hs with ⟨hid, hclock⟩ | ⟨hid, hbefore⟩
        · rcases hrecord ht with ⟨hother, -⟩ | ⟨hother, hbefore⟩
          · exact absurd (eq_of_writes hid hother) hne
          · exact .inr (hlast ht hs hid hclock hother hbefore)
        · rcases hrecord ht with ⟨hother, hclock⟩ | ⟨hother, hlater⟩
          · exact .inl (hlast hs ht hother hclock hid hbefore)
          · have hsame {x : Session} {key : String}
                (hx : (empty.after ops).record? key = some x)
                (hkey : op.writes key ((empty.after ops).perform op).1 = false) :
                lastWrite x.id empty (ops ++ [op]) = lastWrite x.id empty ops := by
              rw [(hsound.of_record hx).1, lastWrite_snoc, hkey]
              rfl
            refine (hapart hbefore hlater hne).imp ?_ ?_
            · rintro ⟨hwrite, hdate⟩
              exact ⟨by rwa [hsame hbefore hid, hsame hlater hother], hdate⟩
            · rintro ⟨hwrite, hdate⟩
              exact ⟨by rwa [hsame hbefore hid, hsame hlater hother], hdate⟩

end Time

section Records

/-- The records are these sessions, each under an id of its own. -/
structure Records (store : Store) (sessions : List Session) : Prop where
  entries : store.entries = sessions.map fun s => (s.id, .known s)
  ids : (sessions.map Session.id).Nodup

theorem Effect.nodup_keys {op : Op} {reply : Except Fault Answer}
    (he : Effect store op reply next) (h : (Mapping.keys store.entries).Nodup) :
    (Mapping.keys next.entries).Nodup := by
  cases he with
  | made | revised => exact Mapping.nodup_keys_set h _ _
  | @deleted id => exact h.sublist ((delete_sublist store id).map Prod.fst)
  | unmade | unrevised | found | listed => exact h

theorem nodup_keys_after (ops : List Op) : (Mapping.keys (empty.after ops).entries).Nodup := by
  induction ops using List.reverseRecOn with
  | nil => exact List.nodup_nil
  | append_singleton ops op ih =>
      rw [after_snoc]
      exact ((sound_empty.after ops).1.orderly.effect_perform op).nodup_keys ih

theorem exists_records (ops : List Op) : ∃ sessions, (empty.after ops).Records sessions := by
  have hkeys := nodup_keys_after ops
  have hrange : (empty.after ops).entries ∈
      Set.range (List.map fun s : Session => (s.id, Entry.known s)) := by
    rw [Set.range_list_map]
    intro entry hentry
    obtain ⟨s, hs, hid, -⟩ :=
      (sound_empty.after ops).1.orderly entry.1 entry.2 (Mapping.get?_of_mem hkeys hentry)
    exact ⟨s, Prod.ext hid hs.symm⟩
  obtain ⟨sessions, hsessions⟩ := hrange
  refine ⟨sessions, hsessions.symm, ?_⟩
  rw [← hsessions, Mapping.keys, List.map_map] at hkeys
  exact hkeys

variable {sessions : List Session}

theorem Records.mem_iff (h : store.Records sessions) {s : Session} :
    s ∈ sessions ↔ store.record? s.id = some s := by
  have hkeys : (Mapping.keys store.entries).Nodup := by
    rw [h.entries, Mapping.keys, List.map_map]
    exact h.ids
  constructor
  · intro hs
    have hentry : (s.id, Entry.known s) ∈ store.entries :=
      h.entries ▸ List.mem_map_of_mem hs
    rw [record?, Mapping.get?_of_mem hkeys hentry]
  · intro hs
    unfold record? at hs
    split at hs
    · rename_i t ht
      cases hs
      have hentry := Mapping.mem_of_get? ht
      rw [h.entries, List.mem_map] at hentry
      obtain ⟨t, ht, heq⟩ := hentry
      exact Entry.known.inj (Prod.mk.inj heq).2 ▸ ht
    · cases hs

/-- The sessions of the conversation, as they are listed. -/
def summaries (sessions : List Session) (conversation : String) : List Summary :=
  (sessions.filter (·.conversation = conversation)).map Session.summary

theorem mem_summaries {conversation : String} {summary : Summary} :
    summary ∈ summaries sessions conversation ↔
      ∃ s ∈ sessions, s.conversation = conversation ∧ s.summary = summary := by
  simp [summaries, and_assoc]

theorem Records.nodup_summaries (h : store.Records sessions) (conversation : String) :
    ((summaries sessions conversation).map Summary.session).Nodup := by
  rw [summaries, List.map_map]
  exact h.ids.sublist (List.filter_sublist.map Session.id)

theorem Records.list_eq (h : store.Records sessions) (conversation : String) :
    store.list conversation = Summary.inOrder (summaries sessions conversation) := by
  have hstore : store = ⟨sessions.map fun s => (s.id, .known s), store.given⟩ := by
    rw [← h.entries]
  rw [hstore]
  exact list_map (fun s _ => Entry.listedAs_known s) _ conversation

theorem Records.list_kept (h : store.Records sessions)
    (hnear : ∀ s ∈ sessions, Moment.IsNear s.updated.offset) (conversation : String) :
    store.kept.list conversation = Summary.inOrder (summaries sessions conversation) := by
  have hstore : store.kept =
      ⟨sessions.map fun s => (s.id, (Entry.known s).filed), store.given⟩ := by
    rw [kept, h.entries, List.map_map]
    rfl
  rw [hstore]
  exact list_map (fun s hs => Entry.listedAs_filed (hnear s hs)) _ conversation

end Records

/-- At a clock that only goes forward a listing of a conversation names each session once that has
been made in it and not deleted since, and no other. It shows what is read of the session, and of
two sessions the one that was written last comes first. The same is listed of the records as they
are kept. -/
theorem listing_complete_and_latest_first {ops : List Op} (h : Ticking ops)
    (conversation : String) :
    ∃ summaries, (empty.after ops).list conversation = .ok summaries ∧
      (empty.after ops).kept.list conversation = .ok summaries ∧
      (summaries.map Summary.session).Nodup ∧
      (∀ id, id ∈ summaries.map Summary.session ↔ Lives ops conversation id) ∧
      (∀ summary ∈ summaries, ∃ s,
        (∀ later, (empty.after ops).read later summary.session = .ok (some s)) ∧
          summary = s.summary) ∧
      summaries.Pairwise fun a b =>
        lastWrite b.session empty ops < lastWrite a.session empty ops := by
  obtain ⟨sessions, hrecords⟩ := exists_records ops
  have horderly := (sound_empty.after ops).1.orderly
  have hgreenwich : ∀ s ∈ sessions, s.updated.offset = some 0 := by
    intro s hs
    obtain ⟨op, hop, hclock⟩ := List.mem_filterMap.1 (h.dated.clocked (hrecords.mem_iff.1 hs))
    exact h.greenwich op hop _ hclock
  have hzoned : ∀ summary ∈ summaries sessions conversation, summary.updated.isZoned = true := by
    intro summary hsummary
    obtain ⟨s, hs, -, rfl⟩ := mem_summaries.1 hsummary
    exact congrArg Option.isSome (hgreenwich s hs)
  have hnear : ∀ s ∈ sessions, Moment.IsNear s.updated.offset :=
    fun s hs => hgreenwich s hs ▸ Moment.isNear_zero
  have hperm := List.mergeSort_perm (summaries sessions conversation) Summary.isBefore
  have hids := (hperm.map Summary.session).nodup_iff.2 (hrecords.nodup_summaries conversation)
  refine ⟨_, (hrecords.list_eq conversation).trans (Summary.inOrder_zoned hzoned),
    (hrecords.list_kept hnear conversation).trans (Summary.inOrder_zoned hzoned), hids, ?_, ?_, ?_⟩
  · intro id
    rw [lives_iff, (hperm.map Summary.session).mem_iff, List.mem_map]
    constructor
    · rintro ⟨summary, hsummary, rfl⟩
      obtain ⟨s, hs, hhome, rfl⟩ := mem_summaries.1 hsummary
      exact ⟨s, hrecords.mem_iff.1 hs, hhome⟩
    · rintro ⟨s, hs, hhome⟩
      have hid := (horderly.of_record hs).1
      exact ⟨s.summary, mem_summaries.2 ⟨s, hrecords.mem_iff.2 (hid ▸ hs), hhome, rfl⟩, hid⟩
  · intro summary hsummary
    obtain ⟨s, hs, -, rfl⟩ := mem_summaries.1 (hperm.mem_iff.1 hsummary)
    exact ⟨s, fun later => (horderly.read_eq later s.id).trans
      (congrArg Except.ok (hrecords.mem_iff.1 hs)), rfl⟩
  · have hdates := Summary.pairwise_isBefore (summaries sessions conversation)
    refine (hdates.and (List.pairwise_map.1 hids)).imp_of_mem ?_
    rintro a b ha hb ⟨hdate, hne⟩
    obtain ⟨s, hs, -, rfl⟩ := mem_summaries.1 (hperm.mem_iff.1 ha)
    obtain ⟨t, ht, -, rfl⟩ := mem_summaries.1 (hperm.mem_iff.1 hb)
    rcases h.dated.apart (hrecords.mem_iff.1 hs) (hrecords.mem_iff.1 ht) hne with hst | hts
    · exact absurd hst.date (Int.not_lt.2 hdate)
    · exact hts.write

namespace Sample

/-- So many seconds after a midnight at Greenwich. -/
def second (n : Fin 60) : Moment :=
  ⟨⟨2024, 6, 15⟩, n * microsPerSecond, some 0, by decide,
    Nat.mul_lt_mul_of_pos_right (n.isLt.trans (by decide)) (by decide)⟩

/-- Two sessions of one conversation and one of another; then the first one is completed. -/
def conversations : List Op := [
  .create (second 0) (.text "c") (.text "greeting") .null (.text "en"),
  .create (second 1) (.text "c") (.text "email") .null (.text "en"),
  .create (second 2) (.text "d") (.text "greeting") .null (.text "en"),
  .update (second 3) "s1" .null [("status", .text "completed")]]

theorem ticking_conversations : Ticking conversations where
  greenwich := by decide
  forward := by decide +kernel

theorem lives_conversations :
    Lives conversations "c" "s1" ∧ Lives conversations "c" "s2" :=
  ⟨⟨[], second 0, _, _, _, _, rfl, rfl, by simp⟩, ⟨[_], second 1, _, _, _, _, rfl, rfl, by simp⟩⟩

end Sample

theorem completed_session_is_listed_first :
    Ticking Sample.conversations ∧
      lastWrite "s2" empty Sample.conversations = 2 ∧
      lastWrite "s1" empty Sample.conversations = 4 ∧
      ∃ summaries, (empty.after Sample.conversations).list "c" = .ok summaries ∧
        "s1" ∈ summaries.map Summary.session ∧ "s2" ∈ summaries.map Summary.session ∧
        summaries.Pairwise fun a b =>
          lastWrite b.session empty Sample.conversations <
            lastWrite a.session empty Sample.conversations := by
  obtain ⟨summaries, hlist, -, -, hlives, -, hlatest⟩ :=
    listing_complete_and_latest_first Sample.ticking_conversations "c"
  obtain ⟨hfirst, hsecond⟩ := Sample.lives_conversations
  exact ⟨Sample.ticking_conversations, by rfl, by rfl, summaries, hlist, (hlives "s1").2 hfirst,
    (hlives "s2").2 hsecond, hlatest⟩

end Store

end Dialogue
