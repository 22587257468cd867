import Dialogue.Proofs.Manager.View
/-!
Managers that hold the same of a session begin and end its turns alike, and answer alike what else
is asked about it.
-/
namespace Dialogue.Manager

open Turn

variable {m n : Manager} {id : String} {turn other : Pending}

section Replies

variable (hm : m.store.Orderly) (hn : n.store.Orderly)
  (h : m.view turn.marked.id = n.view turn.marked.id) (ht : turn.bare = other.bare)
include hm hn h ht

theorem yieldTo_alike (report : Report) (conflict : Fault) :
    (m.yieldTo turn report conflict).map Outcome.timeless
      = (n.yieldTo other report conflict).map Outcome.timeless := by
  obtain ⟨id, lock, created, updated, rfl⟩ := Pending.exists_of_bare ht
  simp only [yieldTo, bind, Except.bind]
  rcases exists_of_map_eq (require_alike hm hn h) with ⟨fault, hr, hq⟩ | ⟨s, t, hr, hq, heq⟩
  · rw [hr, hq]
  · have hover := Session.eq_of_timeless Session.isTerminal (fun _ => rfl) heq
    simp only [hr, hq, hover]
    split
    · simp only [Except.map, pure, Except.pure, Outcome.timeless, heq]
    · rfl

theorem commit_alike (report : Report) :
    (m.commit turn report).1.map Outcome.timeless
      = (n.commit other report).1.map Outcome.timeless := by
  have hyield := yieldTo_alike hm hn h ht report
  have hfail := fail_alike hm hn h ht
  obtain ⟨id, lock, created, updated, rfl⟩ := Pending.exists_of_bare ht
  unfold commit
  simp only
  rcases exists_of_map_eq (write_alike hm hn h (some turn.marked.version) report.change) with
    ⟨fault, hw, hv⟩ | ⟨⟨s, next⟩, ⟨t, later⟩, hw, hv, heq⟩
  · rw [hw, hv]
    cases fault with
    | concurrentUpdate id expected found => exact hyield _
    | _ => exact hfail _
  · obtain ⟨hst, hview⟩ := Prod.mk.inj heq
    have hsink : (next.publish turn.marked.id report.events).1
        = (later.publish turn.marked.id report.events).1 := refusal_alike hview _
    have htold : (next.publish turn.marked.id report.events).2.view turn.marked.id
        = (later.publish turn.marked.id report.events).2.view turn.marked.id := by
      rw [view_publish, view_publish]
      exact hview
    have hnext : next.store.Orderly := write_orderly hm hw
    have hlater : later.store.Orderly := write_orderly hn hv
    rw [hw, hv]
    simp only
    simp only [publish] at hsink htold ⊢
    rw [← hsink]
    cases next.sink.refusal? turn.marked.id report.events with
    | none => simp only [Except.map, Outcome.timeless, hst]
    | some fault =>
        exact fail_alike (m := { next with sink := next.sink.publish turn.marked.id report.events })
          (n := { later with sink := later.sink.publish turn.marked.id report.events })
          hnext hlater htold ht fault

theorem expire_alike (house : House) : (m.expire house turn).1 = (n.expire house other).1 := by
  have hconclude := conclude_alike hm hn h ht { status := some .active }
  obtain ⟨id, lock, created, updated, rfl⟩ := Pending.exists_of_bare ht
  unfold expire
  simp only
  rcases exists_of_map_eq hconclude with ⟨fault, hc, hd⟩ | ⟨⟨s, next⟩, ⟨t, later⟩, hc, hd, heq⟩
  · rw [hc, hd]
  · obtain ⟨hst, hview⟩ := Prod.mk.inj heq
    have hover := Session.eq_of_timeless Session.isTerminal (fun _ => rfl) hst
    simp only [hc, hd, hover]
    split
    · rfl
    · exact congrArg (Option.getD · _) (refusal_alike hview _)

theorem close_alike (house : House) (c : Close) :
    (m.close house turn c).1.map Outcome.timeless
      = (n.close house other c).1.map Outcome.timeless := by
  cases c with
  | expired => exact congrArg Except.error (expire_alike hm hn h ht house)
  | settled result =>
      cases result with
      | ok report => exact commit_alike hm hn h ht report
      | error fault => exact fail_alike hm hn h ht fault

end Replies

/-- A session whose turn ends is left without one. -/
theorem view_close (hm : m.store.Orderly) (house : House)
    (hone : m.turnsOf turn.marked.id = [turn]) (c : Close) :
    (m.close house turn c).2.view turn.marked.id = { m.view turn.marked.id with
      record := ((m.written turn (turn.change c)).record? turn.marked.id).map Session.timeless
      turns := [] } := by
  obtain ⟨events, hclose⟩ := close_manager hm house turn c
  obtain ⟨store, now, hw⟩ := written_eq m turn (turn.change c)
  rw [hclose, hw, finish, view_release]
  refine View.ext rfl ?_ (congrFun (Sink.refusal?_publish _ _ _) _)
  have hturns := turnsOf_remove m turn turn.marked.id
  rw [hone, List.filter_cons_of_neg (by simp), List.filter_nil] at hturns
  exact congrArg (List.map Pending.bare) hturns

section Ends

variable (hm : m.Sound) (hn : n.Sound)
include hm hn

theorem written_alike (h : m.view turn.marked.id = n.view turn.marked.id)
    (ht : turn.bare = other.bare) (change : Session.Change) :
    ((m.written turn change).record? turn.marked.id).map Session.timeless
      = ((n.written other change).record? turn.marked.id).map Session.timeless := by
  have hid := Pending.eq_of_bare (·.marked.id) (fun _ => rfl) ht
  have hversion := Pending.eq_of_bare (·.marked.version) (fun _ => rfl) ht
  rcases record_cases h with ⟨hs, hr⟩ | ⟨s, t, hs, hr, heq⟩
  · rw [written_of_gone hs, written_of_gone (hid ▸ hr), hs, hr]
  · have hsame := Session.eq_of_timeless Session.version (fun _ => rfl) heq
    by_cases hv : turn.marked.version = s.version
    · rw [record?_written_current hm hs hv]
      rw [hid] at hr ⊢
      rw [record?_written_current hn hr (hversion.symm.trans (hv.trans hsame))]
      exact congrArg some (Session.timeless_storable (Session.timeless_revise heq _ _ _))
    · have hstale : other.marked.version ≠ t.version :=
        fun hcurrent => hv (hversion.trans (hcurrent.trans hsame.symm))
      rw [written_of_stale hs hv, written_of_stale (hid ▸ hr) hstale, hs, hr]
      exact congrArg some heq

theorem view_close_alike (h : m.view turn.marked.id = n.view turn.marked.id)
    (ht : turn.bare = other.bare) (house : House) (hone : m.turnsOf turn.marked.id = [turn])
    (hother : n.turnsOf turn.marked.id = [other]) (c : Close) :
    (m.close house turn c).2.view turn.marked.id
      = (n.close house other c).2.view turn.marked.id := by
  have hwritten := written_alike hm hn h ht (turn.change c)
  have hid := Pending.eq_of_bare (·.marked.id) (fun _ => rfl) ht
  have hchange := Pending.eq_of_bare (·.change c) (fun _ => rfl) ht
  rw [view_close hm.orderly house hone c]
  rw [hid] at hother hwritten h ⊢
  rw [view_close hn.orderly house hother c, hwritten, h, hchange]

theorem view_resume_alike (h : m.view turn.marked.id = n.view turn.marked.id)
    (ht : turn.bare = other.bare) (hone : m.turnsOf turn.marked.id = [turn])
    (hother : n.turnsOf turn.marked.id = [other]) (world : (call : Call) → call.Answer) :
    (m.resume turn world).view turn.marked.id = (n.resume other world).view turn.marked.id := by
  have hmem : turn ∈ m.pending := (mem_turnsOf.1 (hone ▸ List.mem_singleton_self turn)).1
  have hnmem : other ∈ n.pending := (mem_turnsOf.1 (hother ▸ List.mem_singleton_self other)).1
  rw [hm.resume_eq hmem, hn.resume_eq hnmem]
  have hturns := turnsOf_advance m (.answer turn.id world) turn.marked.id
  have hnturns := turnsOf_advance n (.answer other.id world) turn.marked.id
  rw [hone] at hturns
  rw [hother] at hnturns
  have hrecord := congrArg View.record h
  have hrefusal := congrArg View.refusal? h
  refine View.ext hrecord ?_ hrefusal
  simp only [view]
  rw [hturns, hnturns]
  simp only [List.map_cons, List.map_nil, Pending.step, ↓reduceIte, Pending.bare_answered ht]

end Ends

section Requests

variable (hm : m.store.Orderly) (hn : n.store.Orderly) (h : m.view id = n.view id)
include hm hn h

theorem cancel_alike :
    (m.cancel id).map (glance id) = (n.cancel id).map (glance id) := by
  rw [cancel_eq hm, cancel_eq hn]
  rcases record_cases h with ⟨hs, ht⟩ | ⟨s, t, hs, ht, heq⟩
  · rw [hs, ht]
  · have hrevised := Session.timeless_revise heq m.now n.now
      { status := some .canceled, awaiting := some false }
    have hid := Session.eq_of_timeless Session.id (fun _ => rfl) hrevised
    have hover := Session.eq_of_timeless Session.isTerminal (fun _ => rfl) heq
    simp only [hs, ht, hover]
    split
    · simp only [Except.map, glance, heq, h]
    · simp only [Except.map, glance, view_unlock, view_put, h, hrevised, hid,
        Session.timeless_storable hrevised]

theorem select_alike (node value : Value) :
    (m.select id node value).map (glance id) = (n.select id node value).map (glance id) := by
  rw [select_eq hm, select_eq hn]
  rcases record_cases h with ⟨hs, ht⟩ | ⟨s, t, hs, ht, heq⟩
  · rw [hs, ht]
  · have hchosen := Session.eq_of_timeless (chosen · node value) (fun _ => rfl) heq
    simp only [hs, ht, hchosen]
    cases chosen t node value with
    | error fault => rfl
    | ok selected =>
        have hrevised := Session.timeless_revise heq m.now n.now { selected := some selected }
        have hid := Session.eq_of_timeless Session.id (fun _ => rfl) hrevised
        simp only [Except.map, glance, view_put, h, hrevised, hid,
          Session.timeless_storable hrevised]

theorem delete_alike : (m.delete id).1 = (n.delete id).1 := by
  rw [delete_isSome hm, delete_isSome hn]
  rcases record_cases h with ⟨hs, ht⟩ | ⟨s, t, hs, ht, -⟩
  · rw [hs, ht]
  · rw [hs, ht]
    rfl

end Requests

theorem view_delete (m : Manager) (id : String) :
    (m.delete id).2.view id = { m.view id with record := none } := by
  have hrecord : (m.delete id).2.record? id = none :=
    (Store.record?_delete m.store id id).trans (if_pos rfl)
  exact View.ext (congrArg (Option.map Session.timeless) hrecord) rfl
    (congrFun (Sink.refusal?_discard _ _) id)

/-- The next session of the manager gets the number `k`. -/
def numbered (m : Manager) (k : Nat) : Manager := { m with store := { m.store with given := k } }

theorem view_numbered (m : Manager) (k : Nat) (id : String) :
    (m.numbered k).view id = m.view id := rfl

theorem create_alike (h : m.view id = n.view id) (hone : m.store.freshId = id)
    (htwo : n.store.freshId = id) (conversation scenario slots language : Value) :
    (m.create conversation scenario slots language).1
        = (n.create conversation scenario slots language).1 ∧
      (m.create conversation scenario slots language).2.view id
        = (n.create conversation scenario slots language).2.view id := by
  rcases Store.create_start conversation scenario slots language with
    ⟨conv, scen, lang, fields, -, -, hmade⟩ | ⟨fault, hmade⟩
  · have hput (m : Manager) (hid : m.store.freshId = id) :
        m.create conversation scenario slots language = (.ok id,
          (m.numbered (m.store.given + 1)).put (Store.start m.now id conv scen lang fields)) := by
      simp only [create, hmade, hid]
      rfl
    rw [hput m hone, hput n htwo]
    refine ⟨rfl, ?_⟩
    simp only [view_put, view_numbered, h]
    rfl
  · simp only [create, hmade, true_and]
    exact h

section Begins

theorem view_enlist (hid : turn.marked.id = id) : (m.enlist id turn).view id = { m.view id with
    record := some turn.marked.storable.timeless
    turns := (m.view id).turns ++ [turn.bare] } := by
  have hrecord : (m.enlist id turn).record? id = some turn.marked.storable :=
    (record?_put m turn.marked id).trans (if_pos hid)
  have hturns : (m.enlist id turn).turnsOf id = m.turnsOf id ++ [turn] :=
    (turnsOf_enlist m turn id id).trans (if_pos hid)
  refine View.ext (congrArg (Option.map Session.timeless) hrecord) ?_ rfl
  simp only [view, hturns, List.map_append, List.map_cons, List.map_nil]

theorem grant_alike {s t : Session} (heq : s.timeless = t.timeless) (house : House) (id : String)
    (request : Request) :
    (∃ fault, grant house id (some s) request = .error fault ∧
      grant house id (some t) request = .error fault) ∨
    ∃ scenario input, grant house id (some s) request = .ok (s, scenario, input) ∧
      grant house id (some t) request = .ok (t, scenario, input) := by
  obtain ⟨created, updated, rfl⟩ := Session.exists_of_timeless heq
  unfold grant
  simp only [show ({ s with created := created, updated := updated } : Session).isTerminal
    = s.isTerminal from rfl]
  split
  · exact .inl ⟨_, rfl, rfl⟩
  · cases house.registry.require s.scenario with
    | error fault => exact .inl ⟨fault, rfl, rfl⟩
    | ok scenario =>
        cases request.input with
        | error fault => exact .inl ⟨fault, rfl, rfl⟩
        | ok input => exact .inr ⟨scenario, input, rfl, rfl⟩

theorem bare_turnOn {s t : Session} (heq : s.timeless = t.timeless) (house : House)
    (m n : Manager) (id : String) (scenario : Scenario) (input : Run.Input) (language : Value) :
    (turnOn house m id s scenario input language).bare
      = (turnOn house n id t scenario input language).bare := by
  obtain ⟨created, updated, rfl⟩ := Session.exists_of_timeless heq
  rfl

variable (hm : m.Sound) (hn : n.Sound) (tm : m.Tidy) (tn : n.Tidy) (h : m.view id = n.view id)
include hm hn tm tn h

theorem busy_alike : m.IsBusy id ↔ n.IsBusy id := by
  rw [busy_iff hm tm, busy_iff hn tn]
  rcases turns_cases h tm with ⟨hone, hother⟩ | ⟨turn, other, hone, hother, -⟩
  · simp only [hone, hother, ne_eq, not_true_eq_false, and_false]
  · rcases record_cases h with ⟨hs, ht⟩ | ⟨s, t, hs, ht, -⟩
    · simp [hs, ht]
    · simp [hs, ht, hone, hother]

theorem begin_alike (house : House) (request : Request) :
    (begin house m id request).1.map (fun _ => ()) = (begin house n id request).1.map (fun _ => ()) ∧
      (begin house m id request).2.view id = (begin house n id request).2.view id := by
  have hbusy := busy_alike hm hn tm tn h
  by_cases hb : m.IsBusy id
  · rw [begin_busy house request hb, begin_busy house request (hbusy.1 hb)]
    exact ⟨rfl, h⟩
  · rw [begin_free hm.orderly house request hb,
      begin_free hn.orderly house request (mt hbusy.2 hb)]
    rcases record_cases h with ⟨hs, ht⟩ | ⟨s, t, hs, ht, heq⟩
    · rw [hs, ht]
      simp only [grant, view_release, true_and]
      exact h
    · rw [hs, ht]
      rcases grant_alike heq house id request with
        ⟨fault, ha, hb⟩ | ⟨scenario, input, ha, hb⟩
      · rw [ha, hb]
        simp only [view_release, true_and]
        exact h
      · rw [ha, hb]
        refine ⟨rfl, ?_⟩
        have hsid := (hm.orderly.of_record hs).1
        have htid := (hn.orderly.of_record ht).1
        have hlanguage := Session.eq_of_timeless Session.language (fun _ => rfl) heq
        have hbare := bare_turnOn heq house m n id scenario input
          (request.language.orElse (.text t.language))
        have hmarked : (s.revise m.now { status := some .generating }).storable.timeless
            = (t.revise n.now { status := some .generating }).storable.timeless :=
          Session.timeless_storable (Session.timeless_revise heq _ _ _)
        simp only [hlanguage]
        rw [view_enlist hsid, view_enlist htid, h, hbare]
        exact congrArg (fun s => ({ n.view id with
          record := some s
          turns := _ } : View)) hmarked

end Begins

end Dialogue.Manager

/-!
Operations on one session leave what a manager holds of every other as it is.
-/

namespace Dialogue.Manager

open Turn

variable {m n : Manager} {id other : String} {turn : Pending}

theorem view_create_other (hne : m.store.freshId ≠ id)
    (conversation scenario slots language : Value) :
    (m.create conversation scenario slots language).2.view id = m.view id := by
  rcases Store.create_start conversation scenario slots language with
    ⟨conv, scen, lang, fields, -, -, hmade⟩ | ⟨fault, hmade⟩
  · simp only [create, hmade]
    exact view_eq ((Store.record?_put _ _ id).trans (if_neg hne)) rfl rfl
  · simp only [create, hmade]
    rfl

theorem view_delete_other (hne : other ≠ id) : (m.delete other).2.view id = m.view id :=
  view_eq ((Store.record?_delete m.store other id).trans (if_neg hne)) rfl
    (congrFun (Sink.refusal?_discard _ _) id)

section Sessions

variable (h : m.Sound) (hne : other ≠ id)
include h hne

theorem view_begin_other (house : House) (request : Request) :
    (begin house m other request).2.view id = m.view id := by
  have hsink : (begin house m other request).2.sink = m.sink := by
    have hb := began h.orderly house other request
    generalize begin house m other request = made at hb
    cases hb <;> rfl
  rcases begin_cases h house other request id with ⟨hrecord, hturns⟩ | ⟨heq, -⟩
  · exact view_eq hrecord hturns (by rw [hsink])
  · exact absurd heq hne

theorem view_cancel_other {s : Session} (hc : m.cancel other = .ok (s, n)) :
    n.view id = m.view id := by
  rcases cancel_cases h.orderly hc with rfl | ⟨r, locks, hr, -, rfl, -⟩
  · rfl
  · have hrecord := record?_revise h hr { status := some .canceled, awaiting := some false } rfl rfl
      id
    exact view_eq (hrecord.trans (if_neg hne)) rfl rfl

theorem view_select_other {node value : Value} {s : Session}
    (hc : m.select other node value = .ok (s, n)) : n.view id = m.view id := by
  obtain ⟨r, selected, hr, -, rfl⟩ := select_cases h.orderly hc
  have hrecord := record?_revise h hr { selected := some selected } rfl rfl id
  exact view_eq (hrecord.trans (if_neg hne)) rfl rfl

end Sessions

section Turns

variable (h : m.Sound) (ht : turn ∈ m.pending) (hne : turn.marked.id ≠ id)
include h ht hne

theorem view_resume_other (world : (call : Call) → call.Answer) :
    (m.resume turn world).view id = m.view id := by
  have hsame : ∀ one ∈ m.turnsOf id, one.step (.answer turn.id world) = one :=
    fun one hone => if_neg (ne_of_turnsOf h ht hne hone).symm
  have hturns := turnsOf_advance m (.answer turn.id world) id
  rw [List.map_congr_left hsame, List.map_id'] at hturns
  rw [h.resume_eq ht]
  exact view_eq rfl hturns rfl

theorem view_close_other (house : House) (c : Close) :
    (m.close house turn c).2.view id = m.view id := by
  obtain ⟨events, hclose⟩ := close_manager h.orderly house turn c
  obtain ⟨store, now, hw⟩ := written_eq m turn (turn.change c)
  have hrecord := record?_written_other h turn (turn.change c) hne
  have hturns := turnsOf_remove_other h ht hne
  rw [hw] at hrecord
  rw [hclose, hw, finish, view_release]
  exact view_eq hrecord hturns (congrFun (Sink.refusal?_publish _ _ _) id)

end Turns

end Dialogue.Manager
