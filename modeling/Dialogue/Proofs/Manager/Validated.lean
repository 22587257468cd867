import Dialogue.Proofs.Manager.Outcome
import Dialogue.Proofs.Manager.Rest
import Dialogue.Proofs.Node.Writes
import Dialogue.Proofs.Validation.Undated
/-!
Slots that are asked for under a rule. Where nothing else writes such a slot and the filled forms
bring only values that the rule accepts, all that is ever stored in it is accepted.
-/
namespace Dialogue

open Turn Run

/-- The rule accepts the value on any day and in any language. -/
def Rule.Admits (rule value : Value) : Prop := ∀ setting, check setting value rule = .ok .accepted

/-- What the slot holds is stored as something that the rule accepts. -/
def Slots.Admitted (k : String) (rule : Value) (slots : Slots) : Prop :=
  ∀ v, Mapping.get? slots k = some v → Rule.Admits rule v.storable

/-- Only answers that are checked against `rule` are written to the slot. -/
structure Scenario.Guards (scenario : Scenario) (k : String) (rule : Value) : Prop where
  undated : Rule.IsUndated rule
  unwritten : ∀ node ∈ scenario.nodes, ¬ node.Writes k
  asked : ∀ node ∈ scenario.nodes, node.kind? = some .slotfilling →
    node.get "slot" = .text k → node.get "validation" = rule

/-- A turn of the session that the move begins brings the slot only values that the rule accepts. -/
def Move.Respects (id k : String) (rule : Value) : Move → Prop
  | .begin other request => other = id → ∀ input, request.input = .ok input →
      ∀ v, (k, v) ∈ input.form → Rule.Admits rule v.storable
  | _ => True

section Slots

variable {k : String} {rule : Value} {scenario : Scenario}

theorem admitted_of_none {slots : Slots} (h : Mapping.get? slots k = none) :
    Slots.Admitted k rule slots := by
  intro v hv
  cases h.symm.trans hv

theorem Slots.Admitted.storable {slots : Slots} (h : Slots.Admitted k rule slots) :
    Slots.Admitted k rule (Value.storableFields slots) := by
  intro v hv
  rw [Mapping.get?_storableFields, Option.map_eq_some_iff] at hv
  obtain ⟨w, hw, rfl⟩ := hv
  rw [Value.storable_storable]
  exact h w hw

theorem lawful_admitted {setting : Setting} (h : setting.context.scenario.Guards k rule) :
    Lawful setting (Slots.Admitted k rule) where
  executed node hn slots hslots :=
    (Node.execute_keeps setting.context slots (h.unwritten node hn)).mono
      fun _ hkeeps v hv => hslots v (hkeeps ▸ hv)
  stored node hn hkind name text slots hname haccepted hslots := by
    intro v hv
    rw [Mapping.get?_set] at hv
    split at hv
    · rename_i heq
      cases hv
      rw [heq] at hname
      rw [h.asked node hn hkind hname] at haccepted
      exact fun other => Rule.accepted_check h.undated haccepted
    · exact hslots v hv

theorem keeps_admitted {input : Input}
    (h : ∀ v, (k, v) ∈ input.form → Rule.Admits rule v.storable) :
    input.Keeps (Slots.Admitted k rule) := by
  intro slots hslots v hv
  rcases Mapping.get?_update_cases hv with hold | hnew
  · exact hslots v hold
  · exact h v hnew

end Slots

/-- A session in the scenario whose slot holds only what the rule accepts. -/
structure Session.Guarded (registry : Registry) (scenario : Scenario) (k : String) (rule : Value)
    (s : Session) : Prop where
  known : registry.require s.scenario = .ok scenario
  asks : State.Asks scenario ⟨s.node, s.awaiting, s.slots⟩
  admitted : Slots.Admitted k rule s.slots

structure Turn.Pending.Guarded (house : House) (scenario : Scenario) (k : String) (rule : Value)
    (turn : Pending) : Prop where
  stems : turn.Stems house
  keeps : turn.input.Keeps (Slots.Admitted k rule)
  marked : turn.marked.Guarded house.registry scenario k rule

theorem Turn.Pending.Guarded.step {house : House} {scenario : Scenario} {k : String} {rule : Value}
    {turn : Pending} (h : turn.Guarded house scenario k rule) (move : Move) :
    (turn.step move).Guarded house scenario k rule where
  stems := h.stems.step move
  keeps := turn.input_step move ▸ h.keeps
  marked := turn.marked_step move ▸ h.marked

namespace Manager

/-- The record of a session and all its turns are guarded. -/
structure Guarded (house : House) (scenario : Scenario) (k : String) (rule : Value) (id : String)
    (m : Manager) : Prop where
  record : ∀ s, m.record? id = some s → s.Guarded house.registry scenario k rule
  turns : ∀ turn ∈ m.turnsOf id, turn.Guarded house scenario k rule

/-- A course of moves, each on its own day. -/
def through (house : House) (m : Manager) (days : List (Date × Move)) : Manager :=
  days.foldl (fun m day => m.step { house with today := day.1 } day.2) m

variable {house : House} {scenario : Scenario} {k id : String} {rule : Value} {m : Manager}
  {turn : Pending}

theorem guarded_change (hs : scenario.defects = []) (hg : scenario.Guards k rule)
    (h : turn.Guarded house scenario k rule) {c : Close} (fits : c.Fits turn) (now : Moment) :
    (turn.marked.revise now (turn.change c)).storable.Guarded house.registry scenario k rule := by
  obtain ⟨stems, keeps, ⟨known, asks, admitted⟩⟩ := h
  cases c with
  | expired => exact ⟨known, asks, admitted.storable⟩
  | settled result =>
      cases result with
      | error fault => exact ⟨known, asks_of_not_awaiting rfl, admitted.storable⟩
      | ok report =>
          obtain ⟨found, hfound, hplay⟩ := stems.report fits
          cases hfound.symm.trans known
          have hrests : report.Rests scenario (Slots.Admitted k rule) := by
            refine hplay _ fun setting hsetting => ?_
            subst hsetting
            exact play_rests hs (lawful_admitted hg) _ asks keeps admitted
          obtain ⟨hlast, -⟩ := hrests
          simp only [Pending.change, Report.change]
          cases hr : report.last with
          | refused shown slots message => exact ⟨known, asks, admitted.storable⟩
          | ended status message slots events steps =>
              rw [hr] at hlast
              have hended : Slots.Admitted k rule slots := hlast
              exact ⟨known, asks_of_not_awaiting rfl, hended.storable⟩
          | surfaced shown awaiting slots events steps =>
              rw [hr] at hlast
              have hasks := Result.asks_of_surfaced hs hlast
              exact ⟨known, fun hawaits => hasks hawaits, hlast.1.storable⟩

/-- The record that a turn leaves is guarded, whether its change is written or not. -/
theorem guarded_written (h : m.Sound) (hs : scenario.defects = []) (hg : scenario.Guards k rule)
    (hm : m.Guarded house scenario k rule id) (mem : turn ∈ m.turnsOf id) {c : Close}
    (fits : c.Fits turn) {s : Session}
    (hrec : (m.written turn (turn.change c)).record? id = some s) :
    s.Guarded house.registry scenario k rule := by
  obtain ⟨hmem, rfl⟩ := mem_turnsOf.1 mem
  obtain ⟨r, hr⟩ := written_record h hrec
  by_cases hv : turn.marked.version = r.version
  · have hsame := (h.follows turn hmem r hr).same hv
    rw [record?_written_current h hr hv, Option.some.injEq] at hrec
    rw [← hrec, hsame]
    exact guarded_change hs hg (hm.turns turn mem) fits m.now
  · rw [written_of_stale hr hv] at hrec
    exact hm.record s hrec

/-- The turn that a move begins is guarded if the session as it is marked is. -/
theorem guarded_begun (h : m.Sound) (hissued : m.store.Issued turn.marked.id)
    (free : m.turnsOf turn.marked.id = []) {move : Move}
    (respects : move.Respects turn.marked.id k rule) (ht : turn ∈ (m.step house move).pending)
    (hmarked : turn.marked.Guarded house.registry scenario k rule) :
    turn.Guarded house scenario k rule := by
  rcases pending_step h ht with ⟨old, hold, heq⟩ | ⟨stems, asked, read, hbegun | fresh⟩
  · have hid : old.marked.id = turn.marked.id := by
      rw [heq, old.marked_step]
    cases free ▸ mem_turnsOf.2 ⟨hold, hid⟩
  · subst hbegun
    exact ⟨stems, keeps_admitted (respects rfl turn.input read), hmarked⟩
  · exact absurd hissued fresh

theorem guarded_step (h : m.Sound) (hs : scenario.defects = []) (hg : scenario.Guards k rule)
    (hissued : m.store.Issued id) (hm : m.Guarded house scenario k rule id) {move : Move}
    (respects : move.Respects id k rule) : (m.step house move).Guarded house scenario k rule id := by
  have hseen := seen h house move id
  have hbegun (turn : Pending) (hid : turn.marked.id = id) (free : m.turnsOf id = [])
      (ht : turn ∈ (m.step house move).pending)
      (hmarked : turn.marked.Guarded house.registry scenario k rule) :
      turn.Guarded house scenario k rule := by
    subst hid
    exact guarded_begun h hissued free respects ht hmarked
  generalize m.step house move = n at hseen hbegun
  cases hseen with
  | kept _ _ record turns =>
      refine ⟨fun s hrec => hm.record s (record.symm.trans hrec), fun turn ht => ?_⟩
      rw [turns] at ht
      obtain ⟨old, hold, rfl⟩ := List.mem_map.1 ht
      exact (hm.turns old hold).step move
  | created _ _ s fresh => exact absurd hissued fresh
  | launched _ _ turn fresh => exact absurd hissued fresh
  | begun request _ s turn stored going free marked record turns =>
      obtain ⟨known, asks, admitted⟩ := hm.record s stored
      have hmarked : turn.marked.Guarded house.registry scenario k rule := by
        rw [marked]
        exact ⟨known, asks, admitted⟩
      refine ⟨fun t hrec => ?_, fun other ho => ?_⟩
      · cases record.symm.trans hrec
        exact hmarked
      · obtain ⟨hmem, hid⟩ := mem_turnsOf.1 ho
        rw [turns, List.mem_singleton] at ho
        subst ho
        exact hbegun other hid free hmem hmarked
  | closed _ _ turn mem ends c fits record turns =>
      refine ⟨fun s hrec => guarded_written h hs hg hm mem fits (record.symm.trans hrec),
        fun other ho => ?_⟩
      rw [turns] at ho
      exact hm.turns other (List.mem_filter.1 ho).1
  | canceled _ s stored going record turns =>
      obtain ⟨known, -, admitted⟩ := hm.record s stored
      refine ⟨fun t hrec => ?_, fun turn ht => hm.turns turn (turns ▸ ht)⟩
      cases record.symm.trans hrec
      exact ⟨known, asks_of_not_awaiting rfl, admitted⟩
  | selected node value _ s selected stored accepted record turns =>
      obtain ⟨known, asks, admitted⟩ := hm.record s stored
      refine ⟨fun t hrec => ?_, fun turn ht => hm.turns turn (turns ▸ ht)⟩
      cases record.symm.trans hrec
      exact ⟨known, asks, admitted⟩
  | deleted _ record turns =>
      refine ⟨fun t hrec => ?_, fun turn ht => hm.turns turn (turns ▸ ht)⟩
      cases record.symm.trans hrec

theorem guarded_through (h : m.Sound) (hs : scenario.defects = []) (hg : scenario.Guards k rule)
    (hissued : m.store.Issued id) (hm : m.Guarded house scenario k rule id)
    {days : List (Date × Move)} (respects : ∀ day ∈ days, day.2.Respects id k rule) :
    (m.through house days).Sound ∧ (m.through house days).Guarded house scenario k rule id := by
  induction days generalizing m with
  | nil => exact ⟨h, hm⟩
  | cons day rest ih =>
      obtain ⟨hfirst, hrest⟩ := List.forall_mem_cons.1 respects
      have hday : m.Guarded { house with today := day.1 } scenario k rule id :=
        ⟨hm.record, fun turn ht => ⟨(hm.turns turn ht).stems, (hm.turns turn ht).keeps,
          (hm.turns turn ht).marked⟩⟩
      have hstep := guarded_step h hs hg hissued hday hfirst
      exact ih (h.step _ day.2) (hissued.mono (given_le_step h _ day.2))
        ⟨hstep.record, fun turn ht => ⟨(hstep.turns turn ht).stems, (hstep.turns turn ht).keeps,
          (hstep.turns turn ht).marked⟩⟩ hrest

theorem launch_ok {conversation : Value} {named : String} {slots language : Value}
    {next : Manager}
    (hl : m.launch house conversation named slots language = (.ok turn, next)) :
    ∃ spoken new mid, m.create conversation (.text named) slots spoken = (.ok new, mid) ∧
      begin house mid new (.bare spoken) = (.ok turn, next) := by
  rw [launch_eq] at hl
  split at hl
  · cases hl
  · simp only at hl
    split at hl
    · rename_i new mid made
      exact ⟨_, new, mid, made, hl⟩
    · cases hl

/-- What a launch comes to: the turn is the only one of a session that has not entered its
scenario. -/
theorem launched_of_ok (h : m.Sound) {conversation : Value} {named : String}
    {slots language : Value} {next : Manager}
    (hl : m.launch house conversation named slots language = (.ok turn, next)) :
    next.Sound ∧ next.record? turn.marked.id = some turn.marked ∧
      next.turnsOf turn.marked.id = [turn] ∧ turn.Stems house ∧ turn.input = Input.none ∧
      turn.marked.node = none ∧ turn.marked.awaiting = false := by
  obtain ⟨spoken, id, mid, made, hl⟩ := launch_ok hl
  have hmid := h.create conversation (.text named) slots spoken
  have hfresh : ¬ m.store.Issued id := create_fresh (congrArg Prod.fst made)
  have hcreated := create_cases h conversation (.text named) slots spoken id
  rw [made] at hmid hcreated
  obtain ⟨hnext, hmem, rfl, hrecord, hinput, s, hs, hmarked⟩ := begun_of_ok hmid hl
  have hnone : mid.turnsOf turn.marked.id = [] := by
    rcases hcreated with ⟨hsame, -⟩ | ⟨-, hnone, -⟩
    · exact absurd (h.issued _ s (hsame.symm.trans hs)) hfresh
    · exact hnone
  have hstems : turn.Stems house := by
    have hbegun : turn ∈ (begin house mid turn.marked.id (.bare spoken)).2.pending := by
      rw [hl]
      exact hmem
    rcases begin_pending hmid hbegun with hold | ⟨-, hstems, -⟩
    · cases hnone ▸ mem_turnsOf.2 ⟨hold, rfl⟩
    · exact hstems
  refine ⟨hnext, hrecord, ?_, hstems, (Except.ok.inj hinput).symm, ?_⟩
  · have hcases := begin_cases hmid house turn.marked.id (.bare spoken) turn.marked.id
    rw [hl] at hcases
    rcases hcases with ⟨-, hturns⟩ | ⟨-, -, r, other, -, -, -, -, hturns⟩
    · cases (hturns.trans hnone) ▸ mem_turnsOf.2 ⟨hmem, rfl⟩
    · have hother : turn ∈ [other] := hturns ▸ mem_turnsOf.2 ⟨hmem, rfl⟩
      rw [← List.mem_singleton.1 hother] at hturns
      exact hturns
  · have hs : (m.create conversation (.text named) slots spoken).2.record? turn.marked.id
        = some s := by
      rw [made]
      exact hs
    rcases record?_create hs with hold | ⟨hnode, hawaiting, -⟩
    · exact absurd (h.issued _ s hold) hfresh
    · rw [hmarked]
      exact ⟨hnode, hawaiting⟩

/-- The slot of a session that was launched without it holds nothing that the rule rejects, as long
as the forms that users fill bring it no such value. -/
theorem guarded_slot_admitted {conversation : Value} {named : String} {slots language : Value}
    {next : Manager} (hm : Reachable house m)
    (launched : m.launch house conversation named slots language = (.ok turn, next))
    (known : house.registry.require turn.marked.scenario = .ok scenario)
    (accepted : scenario.defects = []) (guards : scenario.Guards k rule)
    (absent : Mapping.get? turn.marked.slots k = none) (days : List (Date × Move))
    (respects : ∀ day ∈ days, day.2.Respects turn.marked.id k rule) (s : Session)
    (hs : (next.through house days).session? turn.marked.id = .ok (some s)) (v : Value)
    (hv : Mapping.get? s.slots k = some v) :
    ∀ setting, Rule.check setting v rule = .ok .accepted := by
  obtain ⟨hnext, hrecord, hturns, stems, hinput, hnode, hawaiting⟩ := launched_of_ok hm.sound launched
  have hmarked : turn.marked.Guarded house.registry scenario k rule :=
    ⟨known, asks_of_not_awaiting hawaiting, admitted_of_none absent⟩
  have hguarded : next.Guarded house scenario k rule turn.marked.id := by
    constructor
    · intro t ht
      cases hrecord.symm.trans ht
      exact hmarked
    · intro other ho
      rw [hturns, List.mem_singleton] at ho
      subst ho
      exact ⟨stems, hinput ▸ keeps_none _, hmarked⟩
  have hissued := hnext.issued _ _ hrecord
  obtain ⟨hsound, hthrough⟩ := guarded_through hnext accepted guards hissued hguarded respects
  rw [session?_eq hsound.orderly, Except.ok.injEq] at hs
  have hadmitted := (hthrough.record s hs).admitted v hv
  have hstored := (hsound.orderly.of_record hs).2.slots
  rw [← hstored, Mapping.get?_storableFields, Option.map_eq_some_iff] at hv
  obtain ⟨w, -, rfl⟩ := hv
  rw [Value.storable_storable] at hadmitted
  exact hadmitted

/-- Whether a launch begins a turn and `p` holds of the turn and of the manager after it. -/
def launches (house : House) (m : Manager) (named : String) (p : Pending → Manager → Bool) : Bool :=
  match m.launch house (.text "c") named .null .null with
  | (.ok turn, next) => p turn next
  | _ => false

theorem exists_of_launches (house : House) (m : Manager) (named : String)
    (p : Pending → Manager → Bool) (h : launches house m named p = true) :
    ∃ turn next, m.launch house (.text "c") named .null .null = (.ok turn, next) ∧
      p turn next = true := by
  unfold launches at h
  split at h
  · exact ⟨_, _, ‹_›, h⟩
  · cases h

end Manager

namespace Sample

theorem survey_guards : survey.Guards "mail" address where
  undated := by
    constructor <;>
    · intro h
      simp [Value.field, address, Mapping.get?] at h
  unwritten node hn := by
    rcases List.mem_cons.1 hn with rfl | hn
    · exact id
    · obtain rfl := List.mem_singleton.1 hn
      exact id
  asked node hn hkind hslot := by
    rcases List.mem_cons.1 hn with rfl | hn
    · rfl
    · obtain rfl := List.mem_singleton.1 hn
      exact absurd hkind (by decide)

/-- The user answers the question with `text`. -/
def reply (text : String) : Move := .begin "s1" ⟨.text text, .null, .null, .null⟩

/-- The user fills a form in which the slot has the value `text`. -/
def fill (text : String) : Move :=
  .begin "s1" ⟨.null, .null, .object [("mail", .text text)], .null⟩

def monday : Date := ⟨2024, 1, 1⟩

def tuesday : Date := ⟨2024, 1, 2⟩

end Sample

theorem Manager.survey_slot_admitted :
    let days := [(Sample.monday, .settle 1), (Sample.monday, Sample.reply "a@b.c"),
      (Sample.tuesday, .settle 3)]
    ∃ turn next s v,
      Sample.start.launch Sample.office (.text "c") "survey" .null .null = (.ok turn, next) ∧
      (next.through Sample.office days).session? turn.marked.id = .ok (some s) ∧
      Mapping.get? s.slots "mail" = some v ∧
      ∀ setting, Rule.check setting v Sample.address = .ok .accepted := by
  intro days
  obtain ⟨turn, next, launched, hp⟩ := exists_of_launches Sample.office Sample.start "survey"
    (fun turn next => (turn.marked.scenario == "survey" &&
      (Mapping.get? turn.marked.slots "mail").isNone) &&
        (next.through Sample.office days).shows turn.marked.id
          fun s => (Mapping.get? s.slots "mail").isSome) (by decide +kernel)
  simp only [Bool.and_eq_true, beq_iff_eq, Option.isNone_iff_eq_none] at hp
  obtain ⟨⟨hscenario, absent⟩, hshows⟩ := hp
  obtain ⟨s, hs, hsome⟩ := exists_of_shows hshows
  obtain ⟨v, hv⟩ := Option.isSome_iff_exists.1 hsome
  have known : Sample.office.registry.require turn.marked.scenario = .ok Sample.survey := by
    rw [hscenario]
    rfl
  have respects : ∀ day ∈ days, day.2.Respects turn.marked.id "mail" Sample.address := by
    simp only [days, List.forall_mem_cons, List.not_mem_nil, false_implies, implies_true, and_true]
    refine ⟨trivial, ?_, trivial⟩
    rintro - input ⟨⟩ v hform
    cases hform
  exact ⟨turn, next, s, v, launched, hs, hv, guarded_slot_admitted ⟨_, _, [], rfl⟩ launched known
    Sample.survey_defects Sample.survey_guards absent days respects s hs v hv⟩

/-- A form brings the slot a value that its rule rejects. -/
theorem Manager.exists_slot_not_admitted :
    let days := [(Sample.monday, .settle 1), (Sample.monday, Sample.reply "a@b.c"),
      (Sample.monday, .settle 3), (Sample.monday, Sample.fill "x"), (Sample.monday, .settle 5)]
    ∃ turn next s v, Reachable Sample.office Sample.start ∧
      Sample.start.launch Sample.office (.text "c") "survey" .null .null = (.ok turn, next) ∧
      Sample.office.registry.require turn.marked.scenario = .ok Sample.survey ∧
      Sample.survey.defects = [] ∧ Sample.survey.Guards "mail" Sample.address ∧
      Mapping.get? turn.marked.slots "mail" = none ∧
      (next.through Sample.office days).session? turn.marked.id = .ok (some s) ∧
      Mapping.get? s.slots "mail" = some v ∧
      ∀ setting, Rule.check setting v Sample.address ≠ .ok .accepted := by
  intro days
  obtain ⟨turn, next, launched, hp⟩ := exists_of_launches Sample.office Sample.start "survey"
    (fun turn next => (turn.marked.scenario == "survey" &&
      (Mapping.get? turn.marked.slots "mail").isNone) &&
        (next.through Sample.office days).shows turn.marked.id
          fun s => (Mapping.get? s.slots "mail").any (·.isText "x")) (by decide +kernel)
  simp only [Bool.and_eq_true, beq_iff_eq, Option.isNone_iff_eq_none] at hp
  obtain ⟨⟨hscenario, absent⟩, hshows⟩ := hp
  obtain ⟨s, hs, hx⟩ := exists_of_shows hshows
  obtain ⟨v, hv, hx⟩ := (Option.any_eq_true _ _).1 hx
  have known : Sample.office.registry.require turn.marked.scenario = .ok Sample.survey := by
    rw [hscenario]
    rfl
  refine ⟨turn, next, s, v, ⟨_, _, [], rfl⟩, launched, known, Sample.survey_defects,
    Sample.survey_guards, absent, hs, hv, fun setting => ?_⟩
  rw [Value.isText_iff.1 hx]
  rintro ⟨⟩

end Dialogue
