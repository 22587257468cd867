import Dialogue.Proofs.Manager.Choice
/-!
What later records of a session keep of earlier ones: its transcript only grows, and a reply that
was chosen on a message stands until another is chosen on it.
-/
namespace Dialogue

open Turn

namespace Move

/-- The reply that the move records on a message of the session. -/
def reply? (id node : String) : Move → Option String
  | .select other (.text n) (.text v) => if other = id ∧ n = node then some v else none
  | _ => none

theorem eq_select_of_reply {id node value : String} {move : Move}
    (h : move.reply? id node = some value) : move = .select id (.text node) (.text value) := by
  unfold reply? at h
  split at h
  · rename_i other n v
    by_cases hboth : other = id ∧ n = node
    · rw [if_pos hboth, Option.some.injEq] at h
      rw [hboth.1, hboth.2, h]
    · rw [if_neg hboth] at h
      cases h
  · cases h

/-- The last reply that is recorded on a message, which is `value` before all moves. -/
def lastReply (id node value : String) (moves : List Move) : String :=
  ((moves.filterMap (reply? id node)).getLast?).getD value

theorem lastReply_cons (id node value : String) (move : Move) (moves : List Move) :
    lastReply id node value (move :: moves)
      = lastReply id node ((move.reply? id node).getD value) moves := by
  unfold lastReply
  cases hreply : move.reply? id node with
  | none => simp [hreply]
  | some v =>
      rw [List.filterMap_cons_some hreply, List.getLast?_cons]
      rfl

end Move

namespace Turn.Pending

variable {turn : Pending}

theorem change_selected (turn : Pending) (c : Close) : (turn.change c).selected = none := by
  cases c with
  | expired => rfl
  | settled result =>
      cases result with
      | error fault => rfl
      | ok report =>
          simp only [change, Report.change]
          cases report.last <;> rfl

/-- Whatever a turn writes, the transcript that it began with stands at its front. -/
theorem change_messages (h : turn.Proper) {c : Close} (fits : c.Fits turn) :
    turn.marked.messages <+: (turn.change c).messages.getD turn.marked.messages := by
  cases c with
  | expired => exact List.prefix_rfl
  | settled result =>
      cases result with
      | error fault =>
          simp only [change, failure, Option.getD_some, List.append_assoc]
          exact List.prefix_append _ _
      | ok report =>
          have hmessages : (report.change).messages = some report.messages := by
            unfold Report.change
            cases report.last <;> rfl
          simp only [change, hmessages, Option.getD_some]
          rcases h.extends fits with ⟨-, heq⟩ | ⟨-, ⟨shown, -, heq⟩, -⟩
          · rw [heq]
            exact List.prefix_append _ _
          · rw [heq, List.append_assoc]
            exact List.prefix_append _ _

end Turn.Pending

namespace Manager

variable {m : Manager} {id : String} {s t : Session}

/-- `t` has the transcript of `s` and perhaps more, and the replies of `s` but for what a move
chooses. -/
structure Keeps (id : String) (move : Move) (s t : Session) : Prop where
  messages : s.messages <+: t.messages
  replies : ∀ node value, Mapping.get? s.selected node = some value →
    Mapping.get? t.selected node = some ((move.reply? id node).getD value)

theorem keeps_same {move : Move} (hmessages : s.messages <+: t.messages)
    (hselected : t.selected = s.selected) (hmove : ∀ node, move.reply? id node = none) :
    Keeps id move s t := by
  refine ⟨hmessages, fun node value hvalue => ?_⟩
  rw [hselected, hmove node]
  exact hvalue

theorem chosen_texts {node value : Value} {selected : Mapping String}
    (h : chosen s node value = .ok selected) :
    ∃ n v, node = .text n ∧ value = .text v ∧ selected = Mapping.set s.selected n v := by
  obtain ⟨n, hn, h⟩ := exists_of_bind_ok h
  obtain ⟨v, hv, h⟩ := exists_of_bind_ok h
  cases h
  unfold Store.expectText at hn hv
  split at hn
  · split at hv
    · cases hn
      cases hv
      exact ⟨_, _, rfl, rfl, rfl⟩
    · cases hv
  · cases hn

theorem keeps_selected {node value : Value} {selected : Mapping String} (now : Moment)
    (h : chosen s node value = .ok selected) :
    Keeps id (.select id node value) s (s.revise now { selected := some selected }) := by
  refine ⟨List.prefix_rfl, fun k old hold => ?_⟩
  obtain ⟨n, v, rfl, rfl, rfl⟩ := chosen_texts h
  have hget : Mapping.get? (Mapping.set s.selected n v) k
      = if n = k then some v else Mapping.get? s.selected k := Mapping.get?_set _ _ _ _
  by_cases hk : n = k
  · have hreply : (Move.select id (.text n) (.text v)).reply? id k = some v := by
      simp only [Move.reply?, hk, and_self, ↓reduceIte]
    rw [hreply]
    exact hget.trans (if_pos hk)
  · have hreply : (Move.select id (.text n) (.text v)).reply? id k = none := by
      simp only [Move.reply?, hk, and_false, ↓reduceIte]
    rw [hreply]
    exact (hget.trans (if_neg hk)).trans hold

theorem keeps_written (h : m.Sound) {turn : Pending} (ht : turn ∈ m.turnsOf id) {c : Close}
    (fits : c.Fits turn) (hs : m.record? id = some s)
    (hr : (m.written turn (turn.change c)).record? id = some t) {move : Move}
    (hmove : ∀ node, move.reply? id node = none) : Keeps id move s t := by
  obtain ⟨hmem, rfl⟩ := mem_turnsOf.1 ht
  by_cases hv : turn.marked.version = s.version
  · have hsame : s = turn.marked := (h.follows turn hmem s hs).same hv
    rw [record?_written_current h hs hv, Option.some.injEq] at hr
    subst hr hsame
    refine keeps_same ?_ ?_ hmove
    · have hprefix := (Pending.change_messages (h.proper turn hmem) fits).map Message.storable
      rw [(h.orderly.of_record hs).2.messages] at hprefix
      exact hprefix
    · simp only [Session.storable, Session.revise, Session.Change.apply, turn.change_selected c,
        Option.getD_none]
  · rw [written_of_stale hs hv, hs, Option.some.injEq] at hr
    subst hr
    exact keeps_same List.prefix_rfl rfl hmove

theorem keeps_unchosen (h : m.Sound) (house : House) (hs : m.record? id = some s) {move : Move}
    (hmove : ∀ node, move.reply? id node = none) (ht : (m.step house move).record? id = some t) :
    Keeps id move s t := by
  have hseen := seen h house move id
  generalize m.step house move = n at hseen ht
  cases hseen with
  | kept _ _ record turns =>
      cases hs.symm.trans (record.symm.trans ht)
      exact keeps_same List.prefix_rfl rfl hmove
  | created _ _ r fresh => exact absurd (h.issued id s hs) fresh
  | launched _ _ turn fresh => exact absurd (h.issued id s hs) fresh
  | begun request _ r turn stored going free marked record turns =>
      cases record.symm.trans ht
      cases stored.symm.trans hs
      rw [marked]
      exact keeps_same List.prefix_rfl rfl hmove
  | closed _ _ turn mem ends c fits record turns =>
      exact keeps_written h mem fits hs (record.symm.trans ht) hmove
  | canceled _ r stored going record turns =>
      cases record.symm.trans ht
      cases stored.symm.trans hs
      exact keeps_same List.prefix_rfl rfl hmove
  | selected node value _ r selected stored accepted record turns =>
      cases record.symm.trans ht
      cases stored.symm.trans hs
      exact keeps_selected m.now accepted
  | deleted _ record turns => cases record.symm.trans ht

theorem keeps_step (h : m.Sound) (house : House) (hs : m.record? id = some s) (move : Move)
    (ht : (m.step house move).record? id = some t) : Keeps id move s t := by
  by_cases hmove : ∀ node, move.reply? id node = none
  · exact keeps_unchosen h house hs hmove ht
  · obtain ⟨node, hreply⟩ := Classical.not_forall.1 hmove
    obtain ⟨value, hvalue⟩ := Option.ne_none_iff_exists'.1 hreply
    have hchosen : chosen s (.text node) (.text value) = .ok (Mapping.set s.selected node value) := rfl
    rw [Move.eq_select_of_reply hvalue] at ht ⊢
    cases (step_of_chosen h house hs hchosen).symm.trans ht
    exact keeps_selected m.now hchosen

theorem keeps_after (h : m.Sound) (house : House) (hs : m.record? id = some s) (moves : List Move)
    (ht : (m.after house moves).record? id = some t) :
    s.messages <+: t.messages ∧ ∀ node value, Mapping.get? s.selected node = some value →
      Mapping.get? t.selected node = some (Move.lastReply id node value moves) := by
  induction moves generalizing m s with
  | nil =>
      cases hs.symm.trans ht
      exact ⟨List.prefix_rfl, fun _ _ hvalue => hvalue⟩
  | cons move rest ih =>
      have hstep := h.step house move
      have ht : ((m.step house move).after house rest).record? id = some t := ht
      cases hr : (m.step house move).record? id with
      | none =>
          have hi := (h.issued id s hs).mono (given_le_step h house move)
          cases (absent_after hstep house hi hr rest).symm.trans ht
      | some r =>
          have hfirst := keeps_step h house hs move hr
          obtain ⟨hmessages, hreplies⟩ := ih hstep hr ht
          refine ⟨hfirst.messages.trans hmessages, fun node value hvalue => ?_⟩
          rw [Move.lastReply_cons]
          exact hreplies node _ (hfirst.replies node value hvalue)

theorem select_recorded (h : m.Sound) {n v : Value} {r : Session} {next : Manager}
    (hok : m.select id n v = .ok (r, next)) (house : House) :
    ∃ node value, n = .text node ∧ v = .text value ∧
      ∃ s, (m.step house (.select id n v)).record? id = some s ∧
        Mapping.get? s.selected node = some value := by
  obtain ⟨s, selected, hs, hchosen, -⟩ := select_cases h.orderly hok
  have hrecord := step_of_chosen h house hs hchosen
  obtain ⟨node, value, rfl, rfl, rfl⟩ := chosen_texts hchosen
  have hget : Mapping.get? (Mapping.set s.selected node value) node = some value := by simp
  exact ⟨node, value, rfl, rfl, _, hrecord, hget⟩

/-- As long as a session is there its transcript only grows, and a reply that a call has recorded on
a message stands until a later call records another on it. -/
theorem transcript_grows_and_replies_stand (house : House) (sink : Sink) (now : Moment)
    (earlier later : List Move) (id : String) (s t : Session)
    (hs : ((empty sink now).after house earlier).session? id = .ok (some s))
    (ht : ((empty sink now).after house (earlier ++ later)).session? id = .ok (some t)) :
    s.messages <+: t.messages ∧
      (∀ node value, Mapping.get? s.selected node = some value →
        Mapping.get? t.selected node = some (Move.lastReply id node value later)) ∧
      ∀ before n v after r next, later = before ++ .select id n v :: after →
        ((empty sink now).after house (earlier ++ before)).select id n v = .ok (r, next) →
        ∃ node value, n = .text node ∧ v = .text value ∧
          Mapping.get? t.selected node = some (Move.lastReply id node value after) := by
  have hempty := sound_empty sink now
  have h := hempty.after house earlier
  rw [session?_eq (hempty.after house _).orderly, Except.ok.injEq] at hs ht
  rw [after_append] at ht
  obtain ⟨hmessages, hreplies⟩ := keeps_after h house hs later ht
  refine ⟨hmessages, hreplies, ?_⟩
  rintro before n v after r next rfl hok
  have hbefore := hempty.after house (earlier ++ before)
  obtain ⟨node, value, hn, hv, u, hu, hget⟩ := select_recorded hbefore hok house
  refine ⟨node, value, hn, hv, ?_⟩
  rw [← after_append, ← List.append_assoc, after_append] at ht
  exact (keeps_after (hbefore.step house _) house hu after ht).2 node value hget

theorem sample_reply_stands :
    let earlier := [.create (.text "c") (.text "chat") .null (.text "en"),
      .select "s1" (.text "reply") (.text "yes")]
    let later := [.begin "s1" (.bare .null), .answer 1 Sample.world, .settle 1,
      .select "s1" (.text "reply") (.text "no")]
    ∃ s t, (Sample.start.after Sample.house earlier).session? "s1" = .ok (some s) ∧
      (Sample.start.after Sample.house (earlier ++ later)).session? "s1" = .ok (some t) ∧
      t.messages ≠ [] ∧ s.messages <+: t.messages ∧
      Mapping.get? s.selected "reply" = some "yes" ∧
      Mapping.get? t.selected "reply" = some "no" := by
  intro earlier later
  obtain ⟨s, hs, hyes⟩ : ∃ s, (Sample.start.after Sample.house earlier).session? "s1"
      = .ok (some s) ∧ decide (Mapping.get? s.selected "reply" = some "yes") = true :=
    exists_of_shows (by decide +kernel)
  obtain ⟨t, ht, hgrown⟩ : ∃ t, (Sample.start.after Sample.house (earlier ++ later)).session? "s1"
      = .ok (some t) ∧ decide (t.messages.length = 1) = true := exists_of_shows (by decide +kernel)
  obtain ⟨hmessages, hreplies, -⟩ :=
    transcript_grows_and_replies_stand Sample.house _ _ earlier later "s1" s t hs ht
  refine ⟨s, t, hs, ht, ?_, hmessages, of_decide_eq_true hyes,
    hreplies "reply" "yes" (of_decide_eq_true hyes)⟩
  rintro hempty
  rw [hempty] at hgrown
  cases of_decide_eq_true hgrown

end Manager

end Dialogue
