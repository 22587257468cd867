import Dialogue.Proofs.Manager.Window
import Mathlib.Logic.ExistsUnique
/-!
Turns are all or nothing: a turn leaves its session in one of five ways, each of which changes a
fixed part of it.
-/
namespace Dialogue

open Turn

namespace Turn

theorem said_storable (input : Run.Input) : (said input).map Message.storable = said input := by
  unfold said
  split <;> rfl

theorem Report.change_of_walked {report : Report} (h : report.last.Walked) :
    report.change =
      { messages := some report.messages
        slots := some report.last.slots
        node := some report.last.node
        awaiting := some report.last.awaiting
        status := some (report.last.status?.getD .active) } := by
  unfold Report.change
  cases hlast : report.last with
  | surfaced shown awaiting slots events steps => rfl
  | ended status message slots events steps => rfl
  | refused shown slots message =>
      rw [hlast] at h
      exact h.elim

theorem Report.change_of_refused {report : Report} (h : report.last.Refused) :
    report.change = { messages := some report.messages, status := some .active } := by
  unfold Report.change
  cases hlast : report.last with
  | refused shown slots message => rfl
  | surfaced shown awaiting slots events steps =>
      rw [hlast] at h
      exact h.elim
  | ended status message slots events steps =>
      rw [hlast] at h
      exact h.elim

end Turn

/-- The ways in which a turn can leave its session. -/
inductive Way where
  | commit
  | refusal
  | timeout
  | failure
  | cancellation

/-- Whether a turn that ends by `c` goes that way, from the session as it was `before` the turn to
how it is `after`. -/
def Way.Leads (house : House) (during : Manager) (turn : Pending) (c : Close) (canceled : Prop)
    (before after : Session) : Way → Prop
  | .commit => ¬ canceled ∧ ∃ report shown, c = .settled (.ok report) ∧ report.last.Walked ∧
      shown ≠ [] ∧ (∀ m ∈ shown, m.sender = .bot) ∧
      after = ({ before with
        messages := before.messages ++ said turn.input ++ shown
        slots := Value.storableFields report.last.slots
        node := report.last.node
        awaiting := report.last.awaiting
        status := report.last.status?.getD .active } : Session).inVersionOf after
  | .refusal => ¬ canceled ∧ ∃ report, c = .settled (.ok report) ∧ report.last.Refused ∧
      after = ({ before with
        messages := before.messages ++ said turn.input
        status := .active } : Session).inVersionOf after
  | .timeout => ¬ canceled ∧ c = .expired ∧
      after = ({ before with status := .active } : Session).inVersionOf after ∧
      (during.close house turn c).1
        = .error ((during.sink.refusal? turn.marked.id [Manager.timeoutToast turn]).getD
            (.turnTimeout turn.marked.id (Decimal.plain.print house.timeout)))
  | .failure => ¬ canceled ∧ ∃ fault, c = .settled (.error fault) ∧
      after = ({ before with
        messages := before.messages ++ said turn.input ++
          [.answered (Notice.unexpected.text turn.language)]
        awaiting := false
        status := .failed } : Session).inVersionOf after
  | .cancellation => canceled ∧ during.session? turn.marked.id = .ok (some after) ∧
      after = ({ before with awaiting := false, status := .canceled } : Session).inVersionOf after

namespace Way

section Uniqueness

variable {house : House} {during : Manager} {turn : Pending} {canceled : Prop}
  {before after : Session} {way other : Way}

theorem eq_of_canceled {c : Close} (hc : canceled)
    (h : way.Leads house during turn c canceled before after) : way = .cancellation := by
  cases way with
  | cancellation => rfl
  | commit | refusal | timeout | failure => exact absurd hc h.1

theorem eq_of_expired (hc : ¬ canceled)
    (h : way.Leads house during turn .expired canceled before after) : way = .timeout := by
  cases way with
  | timeout => rfl
  | cancellation => exact absurd h.1 hc
  | commit =>
      obtain ⟨-, report, shown, ⟨⟩, -⟩ := h
  | refusal =>
      obtain ⟨-, report, ⟨⟩, -⟩ := h
  | failure =>
      obtain ⟨-, fault, ⟨⟩, -⟩ := h

theorem eq_of_fault {fault : Fault} (hc : ¬ canceled)
    (h : way.Leads house during turn (.settled (.error fault)) canceled before after) :
    way = .failure := by
  cases way with
  | failure => rfl
  | cancellation => exact absurd h.1 hc
  | commit =>
      obtain ⟨-, report, shown, ⟨⟩, -⟩ := h
  | refusal =>
      obtain ⟨-, report, ⟨⟩, -⟩ := h
  | timeout =>
      obtain ⟨-, ⟨⟩, -⟩ := h

theorem eq_of_report {report : Report} (hc : ¬ canceled)
    (h : way.Leads house during turn (.settled (.ok report)) canceled before after) :
    (way = .commit ∧ report.last.Walked) ∨ (way = .refusal ∧ report.last.Refused) := by
  cases way with
  | commit =>
      obtain ⟨-, other, shown, heq, hwalked, -⟩ := h
      cases heq
      exact .inl ⟨rfl, hwalked⟩
  | refusal =>
      obtain ⟨-, other, heq, hrefused, -⟩ := h
      cases heq
      exact .inr ⟨rfl, hrefused⟩
  | cancellation => exact absurd h.1 hc
  | timeout =>
      obtain ⟨-, ⟨⟩, -⟩ := h
  | failure =>
      obtain ⟨-, fault, ⟨⟩, -⟩ := h

theorem leads_unique {c : Close} (h : way.Leads house during turn c canceled before after)
    (ho : other.Leads house during turn c canceled before after) : other = way := by
  by_cases hc : canceled
  · rw [eq_of_canceled hc h, eq_of_canceled hc ho]
  · cases c with
    | expired => rw [eq_of_expired hc h, eq_of_expired hc ho]
    | settled result =>
        cases result with
        | error fault => rw [eq_of_fault hc h, eq_of_fault hc ho]
        | ok report =>
            rcases eq_of_report hc h with ⟨rfl, hr⟩ | ⟨rfl, hr⟩ <;>
              rcases eq_of_report hc ho with ⟨rfl, hs⟩ | ⟨rfl, hs⟩
            · rfl
            · exact (hr.not_refused hs).elim
            · exact (hs.not_refused hr).elim
            · rfl

end Uniqueness

end Way

namespace Manager

variable {m : Manager} {turn : Pending} {s : Session}

theorem record?_close (h : m.store.Orderly) (house : House) (turn : Pending) (c : Close)
    (id : String) :
    (m.close house turn c).2.record? id = (m.written turn (turn.change c)).record? id := by
  obtain ⟨sink, locks, hm, -⟩ := close_eq h house turn c
  rw [hm]
  rfl

theorem begun_of_ok (h : m.Sound) {house : House} {id : String} {request : Request}
    {next : Manager} (hb : begin house m id request = (.ok turn, next)) :
    next.Sound ∧ turn ∈ next.pending ∧ turn.marked.id = id ∧
      next.record? id = some turn.marked ∧ request.input = .ok turn.input ∧
      ∃ s, m.record? id = some s ∧ turn.marked = s.revise m.now { status := some .generating } := by
  have hnext := h.begin house id request
  have hbegan := began h.orderly house id request
  rw [hb] at hnext hbegan
  cases hbegan with
  | accepted free s scenario input stored going known read _ made =>
      have hproper : turn.Proper := made ▸ h.proper_turnOn house stored scenario input _
      have hid : turn.marked.id = id := by
        rw [made]
        exact (h.orderly.of_record stored).1
      have hrecord := record?_put m turn.marked id
      rw [if_pos hid, hproper.stored] at hrecord
      refine ⟨hnext, by simp [enlist], hid, hrecord, by rw [made]; exact read, s, stored, ?_⟩
      rw [made]
      rfl

section Leading

variable {house : House} {during : Manager} (h : during.Sound)
  (hrecord : during.record? turn.marked.id = some turn.marked)
include h hrecord

theorem record?_close_current (house : House) (c : Close) :
    (during.close house turn c).2.record? turn.marked.id
      = some (turn.marked.revise during.now (turn.change c)).storable := by
  rw [record?_close h.orderly]
  exact record?_written_current h hrecord rfl _

theorem expire_current :
    (during.close house turn .expired).1
      = .error ((during.sink.refusal? turn.marked.id [timeoutToast turn]).getD
          (.turnTimeout turn.marked.id (Decimal.plain.print house.timeout))) := by
  have hgoing : (turn.marked.revise during.now { status := some .active }).isTerminal = false := rfl
  simp only [close, expire, conclude_of_current h.orderly hrecord rfl, hgoing, publish,
    Bool.false_eq_true, ↓reduceIte]
  rfl

variable (hs : s.IsStored) (now : Moment)
  (hmarked : turn.marked = s.revise now { status := some .generating })
include hs hmarked

theorem leads_timeout {canceled : Prop} (hc : ¬ canceled) :
    Way.timeout.Leads house during turn .expired canceled s
      (turn.marked.revise during.now (turn.change .expired)).storable := by
  refine ⟨hc, rfl, ?_, expire_current h hrecord⟩
  rw [hmarked]
  simp [Session.storable, Session.revise, Session.Change.apply, Session.inVersionOf,
    Pending.change, hs.slots, hs.messages]

end Leading

section Writing

variable (house : House) (during : Manager) (hs : s.IsStored) (first later : Moment)
  (hmarked : turn.marked = s.revise first { status := some .generating })
include hs hmarked

theorem leads_failure {canceled : Prop} (hc : ¬ canceled) (fault : Fault) :
    Way.failure.Leads house during turn (.settled (.error fault)) canceled s
      (turn.marked.revise later (turn.change (.settled (.error fault)))).storable := by
  refine ⟨hc, fault, rfl, ?_⟩
  have hnotice : ∀ text, (Message.answered text).storable = .answered text := fun _ => rfl
  simp [hmarked, Session.storable, Session.revise, Session.Change.apply, Session.inVersionOf,
    Pending.change, Pending.failure, hs.slots, hs.messages, said_storable, hnotice]

theorem leads_refusal {canceled : Prop} (hc : ¬ canceled) {report : Report}
    (hrefused : report.last.Refused)
    (hmessages : report.messages = s.messages ++ said turn.input) :
    Way.refusal.Leads house during turn (.settled (.ok report)) canceled s
      (turn.marked.revise later (turn.change (.settled (.ok report)))).storable := by
  refine ⟨hc, report, rfl, hrefused, ?_⟩
  simp [hmarked, Session.storable, Session.revise, Session.Change.apply, Session.inVersionOf,
    Pending.change, Report.change_of_refused hrefused, hmessages, hs.slots, hs.messages,
    said_storable]

theorem leads_commit {canceled : Prop} (hc : ¬ canceled) {report : Report}
    (hwalked : report.last.Walked)
    (hmessages : Continues (s.messages ++ said turn.input) report.messages)
    (hne : report.messages ≠ s.messages ++ said turn.input) :
    Way.commit.Leads house during turn (.settled (.ok report)) canceled s
      (turn.marked.revise later (turn.change (.settled (.ok report)))).storable := by
  obtain ⟨shown, hbot, hshown⟩ := hmessages
  refine ⟨hc, report, shown.map Message.storable, rfl, hwalked, ?_, ?_, ?_⟩
  · intro hnil
    rw [List.map_eq_nil_iff.1 hnil, List.append_nil] at hshown
    exact hne hshown
  · intro m hm
    obtain ⟨old, ho, rfl⟩ := List.mem_map.1 hm
    exact hbot old ho
  · simp [hmarked, Session.storable, Session.revise, Session.Change.apply, Session.inVersionOf,
      Pending.change, Report.change_of_walked hwalked, hshown, hs.messages, said_storable]

end Writing

theorem leads_cancellation {during : Manager} (h : during.Sound) (house : House)
    (first later : Moment)
    (hmarked : turn.marked = s.revise first { status := some .generating }) (c : Close)
    {canceled : Prop} (hc : canceled)
    (hrecord : during.record? turn.marked.id
      = some (turn.marked.revise later { status := some .canceled, awaiting := some false })) :
    ∃ after, (during.close house turn c).2.record? turn.marked.id = some after ∧
      Way.cancellation.Leads house during turn c canceled s after := by
  have hv : turn.marked.version
      ≠ (turn.marked.revise later { status := some .canceled, awaiting := some false }).version := by
    simp only [Session.revise]
    omega
  refine ⟨turn.marked.revise later { status := some .canceled, awaiting := some false }, ?_, ?_⟩
  · rw [record?_close h.orderly, written_of_stale hrecord hv, hrecord]
  · refine ⟨hc, ?_, ?_⟩
    · rw [session?_eq h.orderly, hrecord]
    · rw [hmarked]
      rfl

theorem exists_leads {during : Manager} (h : during.Sound) (house : House) (hs : s.IsStored)
    (first : Moment) (hmarked : turn.marked = s.revise first { status := some .generating })
    (hproper : turn.Proper) {c : Close} (fits : c.Fits turn) {canceled : Prop} (hc : ¬ canceled)
    (hrecord : during.record? turn.marked.id = some turn.marked) :
    ∃ after, (during.close house turn c).2.record? turn.marked.id = some after ∧
      ∃ way : Way, way.Leads house during turn c canceled s after := by
  refine ⟨_, record?_close_current h hrecord house c, ?_⟩
  have hmessages : turn.marked.messages = s.messages := by
    rw [hmarked]
    rfl
  cases c with
  | expired => exact ⟨.timeout, leads_timeout h hrecord hs first hmarked hc⟩
  | settled result =>
      cases result with
      | error fault =>
          exact ⟨.failure, leads_failure house during hs first during.now hmarked hc fault⟩
      | ok report =>
          have hextends := hproper.extends fits
          rw [hmessages] at hextends
          rcases hextends with ⟨hrefused, hm⟩ | ⟨hwalked, hm, hne⟩
          · exact ⟨.refusal,
              leads_refusal house during hs first during.now hmarked hc hrefused hm⟩
          · exact ⟨.commit,
              leads_commit house during hs first during.now hmarked hc hwalked hm hne⟩

/-- A turn that has begun leaves its session in exactly one of the five ways, whatever else happens
until it ends, unless its session is deleted or a choice is recorded on it. -/
theorem turn_leads_one_way {house : House} {m next : Manager} {id : String} {request : Request}
    {turn : Pending} (hm : Reachable house m)
    (hb : begin house m id request = (.ok turn, next)) (moves : List Move)
    (hp : ∀ move ∈ moves, move.Passes turn) (c : Close) (fits : c.Fits (turn.after moves)) :
    let during := next.after house moves
    let ended := turn.after moves
    let canceled := ∃ move ∈ moves, move.Cancels id
    request.input = .ok ended.input ∧
      ∃ before after, m.session? id = .ok (some before) ∧
        (during.close house ended c).2.session? id = .ok (some after) ∧
        ∃! way : Way, way.Leads house during ended c canceled before after := by
  intro during ended canceled
  have h := hm.sound
  obtain ⟨hnext, hmem, hturn, hrecord, hinput, s, hs, hmarked⟩ := begun_of_ok h hb
  have hstored : s.IsStored := (h.orderly.of_record hs).2
  have hduring : during.Sound := hnext.after house moves
  have hpending : ended ∈ during.pending := after_mem hnext house hmem fun move hmove =>
    (hp move hmove).1
  have hsame : ended.marked = turn.marked := turn.marked_after moves
  have hendmarked : ended.marked = s.revise m.now { status := some .generating } :=
    hsame.trans hmarked
  rw [← hturn] at hrecord
  suffices hleads : ∃ after, (during.close house ended c).2.record? ended.marked.id = some after ∧
      ∃ way : Way, way.Leads house during ended c canceled s after by
    obtain ⟨after, hafter, way, hway⟩ := hleads
    rw [hsame, hturn] at hafter
    refine ⟨(turn.input_after moves).symm ▸ hinput, s, after, ?_, ?_, way, hway, ?_⟩
    · rw [session?_eq h.orderly, hs]
    · rw [session?_eq (hduring.close house hpending c).orderly, hafter]
    · exact fun other ho => Way.leads_unique hway ho
  by_cases hc : canceled
  · have hgoes : turn.marked.isTerminal = false := by
      rw [hmarked]
      rfl
    have hcancels : ∃ move ∈ moves, move.Cancels turn.marked.id := by
      rw [hturn]
      exact hc
    obtain ⟨now, hcanceled⟩ := canceled_passing hnext house hmem hrecord hgoes hp hcancels
    rw [← hsame] at hcanceled
    obtain ⟨after, hafter, hway⟩ := leads_cancellation hduring house m.now now hendmarked c hc
      hcanceled
    exact ⟨after, hafter, .cancellation, hway⟩
  · have huntouched := untouched_passing hnext house hmem hrecord hp
      fun move hmove hcancels => hc ⟨move, hmove, hturn ▸ hcancels⟩
    rw [← hsame] at huntouched
    exact exists_leads hduring house hstored m.now hendmarked (hduring.proper ended hpending) fits
      hc huntouched

theorem sample_turn_leads_one_way :
    let m := Sample.start.after Sample.house [.create (.text "c") (.text "chat") .null (.text "en")]
    let moves := [Sample.launch, .answer 1 Sample.world]
    ∃ turn next result, begin Sample.house m "s1" (.bare .null) = (.ok turn, next) ∧
      (turn.after moves).work = .done result ∧
      let during := next.after Sample.house moves
      let ended := turn.after moves
      ∃ before after, m.session? "s1" = .ok (some before) ∧
        (during.close Sample.house ended (.settled result)).2.session? "s1" = .ok (some after) ∧
        ∃! way : Way, way.Leads Sample.house during ended (.settled result)
          (∃ move ∈ moves, move.Cancels "s1") before after := by
  intro m moves
  obtain ⟨turn, next, hb, hdone⟩ : ∃ turn next,
      begin Sample.house m "s1" (.bare .null) = (.ok turn, next) ∧
        (turn.after moves).isDone = true :=
    exists_of_accepts (p := fun turn => (turn.after moves).isDone) (by decide +kernel)
  obtain ⟨result, hwork⟩ := Pending.exists_of_isDone hdone
  have hm : Reachable Sample.house m := ⟨_, _, _, rfl⟩
  have hp : ∀ move ∈ moves, move.Passes turn := by
    simp [moves, Sample.launch, Move.Passes, Move.Ends, Move.Selects, Move.Deletes]
  obtain ⟨-, hleads⟩ := turn_leads_one_way hm hb moves hp (.settled result) hwork
  exact ⟨turn, next, result, hb, hwork, hleads⟩

end Manager

end Dialogue
