import Dialogue.Proofs.Manager.Origin
/-!
Where sessions rest in a house whose scenarios have no defects and whose nodes have ids: a session
that is not over stands outside its scenario or at a node that waits for the user, and awaits an
answer exactly at a node that asks for a slot.
-/
namespace Dialogue

open Turn Run

/-- All scenarios are without defects, and all their nodes have ids. -/
def Registry.IsNamed (registry : Registry) : Prop :=
  ∀ id scenario, registry.require id = .ok scenario →
    scenario.defects = [] ∧ "" ∉ scenario.nodeIds

namespace Session

/-- The session stands outside its scenario, or at a node of it that waits for the user. -/
def Placed (registry : Registry) (s : Session) : Prop :=
  (s.node = none ∧ s.awaiting = false) ∨
    ∃ scenario node, registry.require s.scenario = .ok scenario ∧ s.node = some node.id ∧
      scenario.node? node.id = some node ∧ node.waitsForUser = true ∧
      s.awaiting = decide (node.kind? = some .slotfilling)

structure AtRest (registry : Registry) (s : Session) : Prop where
  placed : s.isTerminal = false → s.Placed registry
  ended : s.isTerminal = true → s.awaiting = false
  completed : s.status = .completed → s.node = none

variable {registry : Registry} {s : Session}

theorem Placed.atRest (h : s.Placed registry) (hgoing : s.isTerminal = false) :
    s.AtRest registry where
  placed _ := h
  ended hover := by
    rw [hgoing] at hover
    cases hover
  completed hover := by
    rw [isTerminal, hover] at hgoing
    cases hgoing

theorem atRest_stopped (hover : s.isTerminal = true) (hawaiting : s.awaiting = false)
    (hstatus : s.status ≠ .completed) : s.AtRest registry where
  placed hgoing := by
    rw [hover] at hgoing
    cases hgoing
  ended _ := hawaiting
  completed h := absurd h hstatus

theorem atRest_outside (hnode : s.node = none) (hawaiting : s.awaiting = false) :
    s.AtRest registry where
  placed _ := .inl ⟨hnode, hawaiting⟩
  ended _ := hawaiting
  completed _ := hnode

theorem Placed.asks {scenario : Scenario} (h : s.Placed registry)
    (known : registry.require s.scenario = .ok scenario) :
    State.Asks scenario ⟨s.node, s.awaiting, s.slots⟩ := by
  intro hawaits id hid current hcurrent
  rcases h with ⟨-, hawaiting⟩ | ⟨found, node, hfound, hnode, hsome, -, hawaiting⟩
  · cases hawaiting.symm.trans hawaits
  · cases hfound.symm.trans known
    cases hnode.symm.trans hid
    cases hsome.symm.trans hcurrent
    exact of_decide_eq_true (hawaiting.symm.trans hawaits)

end Session

namespace Manager

open Session

variable {house : House} {m : Manager} {turn : Pending} {s : Session}

/-- What a turn writes at its end leaves the session at rest if it began so. -/
theorem atRest_change (named : house.registry.IsNamed) (stems : turn.Stems house)
    (hmarked : turn.marked.Placed house.registry) {c : Close} (fits : c.Fits turn) (now : Moment) :
    (turn.marked.revise now (turn.change c)).AtRest house.registry := by
  cases c with
  | expired => exact Placed.atRest hmarked rfl
  | settled result =>
      cases result with
      | error fault => exact atRest_stopped rfl rfl Status.noConfusion
      | ok report =>
          obtain ⟨scenario, known, hplay⟩ := stems.report fits
          obtain ⟨hs, hnames⟩ := named _ _ known
          have hrests : report.Rests scenario fun _ => True := by
            refine hplay _ fun setting hsetting => ?_
            subst hsetting
            exact play_rests hs (lawful_true _) _ (hmarked.asks known) (keeps_true _) trivial
          obtain ⟨hlast, hneeds⟩ := hrests
          cases hr : report.last with
          | refused shown slots message =>
              simp only [Pending.change, Report.change, hr]
              exact Placed.atRest hmarked rfl
          | ended status message slots events steps =>
              simp only [Pending.change, Report.change, hr]
              exact atRest_outside rfl rfl
          | surfaced shown awaiting slots events steps =>
              rw [hr] at hlast
              obtain ⟨-, node, hn, hid, rfl⟩ := hlast
              have hne : node.id ≠ "" := fun hempty =>
                hnames (List.mem_map.2 ⟨node, hn, hempty⟩)
              have hwaits := (needsUser_iff hs hn hne hid).1 (hneeds _ _ _ _ _ hr)
              simp only [Pending.change, Report.change, hr]
              exact Placed.atRest (.inr ⟨scenario, node, known, congrArg some hid.symm,
                Scenario.node?_of_mem hs hn hne, hwaits, rfl⟩) rfl

theorem atRest_step (named : house.registry.IsNamed) (h : m.Sound)
    (hstems : ∀ turn ∈ m.pending, turn.Stems house)
    (hrest : ∀ id s, m.record? id = some s → s.AtRest house.registry) (move : Move) (id : String)
    (s : Session) (hs : (m.step house move).record? id = some s) : s.AtRest house.registry := by
  have hseen := seen h house move id
  have hfresh (fresh : ¬ m.store.Issued id) := fresh_record h fresh hs
  generalize m.step house move = n at hseen hs hfresh
  cases hseen with
  | kept _ _ record turns => exact hrest id s (record.symm.trans hs)
  | created _ _ r fresh =>
      obtain ⟨hnode, hawaiting, -⟩ := hfresh fresh
      exact atRest_outside hnode hawaiting
  | launched _ _ turn fresh =>
      obtain ⟨hnode, hawaiting, -⟩ := hfresh fresh
      exact atRest_outside hnode hawaiting
  | begun request _ r turn stored going free marked record turns =>
      cases record.symm.trans hs
      rw [marked]
      exact Placed.atRest ((hrest id r stored).placed going) rfl
  | closed _ _ turn mem ends c fits record turns =>
      obtain ⟨hmem, rfl⟩ := mem_turnsOf.1 mem
      rw [record] at hs
      obtain ⟨r, hr⟩ := written_record h hs
      by_cases hv : turn.marked.version = r.version
      · have hsame := (h.follows turn hmem r hr).same hv
        have hgoing : turn.marked.isTerminal = false := by
          rw [isTerminal, (h.proper turn hmem).generating]
          rfl
        have hplaced := (hrest _ r hr).placed (hsame ▸ hgoing)
        rw [record?_written_current h hr hv, Option.some.injEq] at hs
        rw [← hs, hsame]
        obtain ⟨placed, ended, completed⟩ :=
          atRest_change named (hstems turn hmem) (hsame ▸ hplaced) fits m.now
        exact ⟨placed, ended, completed⟩
      · rw [written_of_stale hr hv] at hs
        exact hrest _ s hs
  | canceled _ r stored going record turns =>
      cases record.symm.trans hs
      exact atRest_stopped rfl rfl Status.noConfusion
  | selected node value _ r selected stored accepted record turns =>
      cases record.symm.trans hs
      obtain ⟨placed, ended, completed⟩ := hrest id r stored
      exact ⟨placed, ended, completed⟩
  | deleted _ record turns => cases record.symm.trans hs

theorem atRest_after (named : house.registry.IsNamed) (h : m.Sound)
    (hstems : ∀ turn ∈ m.pending, turn.Stems house)
    (hrest : ∀ id s, m.record? id = some s → s.AtRest house.registry) (moves : List Move)
    (id : String) (s : Session) (hs : (m.after house moves).record? id = some s) :
    s.AtRest house.registry := by
  induction moves generalizing m with
  | nil => exact hrest id s hs
  | cons move rest ih =>
      exact ih (h.step house move) (stems_step h hstems move) (atRest_step named h hstems hrest move)
        hs

/-- An answer is awaited only by a session that goes on at a node that asks for a slot; an active
session waits for the user wherever it stands; a completed session stands nowhere. -/
theorem reachable_session_at_rest (named : house.registry.IsNamed) (hm : Reachable house m)
    (id : String) (s : Session) (hs : m.session? id = .ok (some s)) :
    (s.awaiting = true → (s.status = .active ∨ s.status = .generating) ∧
      ∃ scenario node, house.registry.require s.scenario = .ok scenario ∧ s.node = some node.id ∧
        scenario.node? node.id = some node ∧ node.kind? = some .slotfilling) ∧
    (s.status = .active → (s.node = none ∧ s.awaiting = false) ∨
      ∃ scenario node, house.registry.require s.scenario = .ok scenario ∧ s.node = some node.id ∧
        scenario.node? node.id = some node ∧ node.waitsForUser = true ∧
        (s.awaiting = true ↔ node.kind? = some .slotfilling)) ∧
    (s.status = .completed → s.node = none) := by
  have h := hm.sound
  rw [session?_eq h.orderly, Except.ok.injEq] at hs
  have hrest : s.AtRest house.registry := by
    obtain ⟨sink, now, moves, rfl⟩ := hm
    refine atRest_after named (sound_empty sink now) ?_ ?_ moves id s hs
    · rintro turn ⟨⟩
    · rintro id s ⟨⟩
  refine ⟨fun hawaits => ?_, fun hactive => ?_, hrest.completed⟩
  · have hgoing : s.isTerminal = false := by
      by_contra hover
      cases hawaits.symm.trans (hrest.ended (Bool.not_eq_false _ ▸ hover))
    constructor
    · unfold isTerminal at hgoing
      cases hstatus : s.status with
      | active => exact .inl rfl
      | generating => exact .inr rfl
      | completed =>
          rw [hstatus] at hgoing
          cases hgoing
      | failed =>
          rw [hstatus] at hgoing
          cases hgoing
      | canceled =>
          rw [hstatus] at hgoing
          cases hgoing
    · rcases hrest.placed hgoing with
        ⟨-, hawaiting⟩ | ⟨scenario, node, known, hnode, hfound, -, hawaiting⟩
      · cases hawaiting.symm.trans hawaits
      · exact ⟨scenario, node, known, hnode, hfound,
          of_decide_eq_true (hawaiting.symm.trans hawaits)⟩
  · have hgoing : s.isTerminal = false := by
      rw [isTerminal, hactive]
      rfl
    rcases hrest.placed hgoing with hout | ⟨scenario, node, known, hnode, hfound, hwaits, hawaiting⟩
    · exact .inl hout
    · refine .inr ⟨scenario, node, known, hnode, hfound, hwaits, ?_⟩
      rw [hawaiting, decide_eq_true_eq]

end Manager

/-! A house with one scenario, which asks for an address and then shows a form. -/
namespace Sample

def address : Value := .object [("type", .text "email")]

def survey : Scenario where
  id := "survey"
  name := "Survey"
  description := ""
  nodes := [
    ⟨"ask", "slotfilling", [("slot", .text "mail"), ("validation", address)]⟩,
    ⟨"more", "form", []⟩]
  edges := [⟨"e", "ask", "more", none⟩]
  start := some "ask"

def office : House := { house with registry := ⟨[("survey", survey)], []⟩ }

theorem survey_defects : survey.defects = [] := by
  rw [Scenario.defects_eq_nil_iff]
  decide

theorem office_isNamed : office.registry.IsNamed := by
  intro id scenario hknown
  simp only [Registry.require, Registry.get?, office, Mapping.get?] at hknown
  by_cases hid : "survey" = id
  · simp only [if_pos hid, Except.ok.injEq] at hknown
    rw [← hknown]
    exact ⟨survey_defects, by decide⟩
  · simp only [if_neg hid] at hknown
    cases hknown

end Sample

theorem Manager.survey_session_at_rest :
    let m := Sample.start.after Sample.office
      [.launch (.text "c") "survey" .null .null, .settle 1]
    Sample.office.registry.IsNamed ∧ Reachable Sample.office m ∧
      ∃ s, m.session? "s1" = .ok (some s) ∧ s.awaiting = true ∧
        ∃ (scenario : Scenario) (node : Node),
          Sample.office.registry.require s.scenario = .ok scenario ∧
            s.node = some node.id ∧ node.kind? = some .slotfilling := by
  intro m
  have hm : Reachable Sample.office m := ⟨_, _, _, rfl⟩
  obtain ⟨s, hs, hawaits⟩ : ∃ s, m.session? "s1" = .ok (some s) ∧ s.awaiting = true :=
    exists_of_shows (by decide +kernel)
  obtain ⟨hasks, -⟩ := reachable_session_at_rest Sample.office_isNamed hm "s1" s hs
  obtain ⟨-, scenario, node, known, hnode, -, hkind⟩ := hasks hawaits
  exact ⟨Sample.office_isNamed, hm, s, hs, hawaits, scenario, node, known, hnode, hkind⟩

end Dialogue
