import Dialogue.Proofs.Scenario.Graph
import Dialogue.Proofs.Slot.Coerced
import Dialogue.Proofs.Value.Written
import Mathlib.Data.List.Forall2
/-!
Assignments that copy what users typed. Every text can be copied but the integers that are too long
to be read.
-/
namespace Dialogue.Slot

open Dialogue.Text Dialogue.Template

variable {s t : String} {v : Value} {slots after : Slots} {name key : String}
  {copies : List (String × String)}

section Showing

/-- Numbers are written with few characters. -/
theorem not_overlong_of_mem {c : Char} (hc : c ∈ t.toList) (hblank : isBlank c = false)
    (hdecimal : isDecimal c = false) (hmark : c ∉ ['-', '+', '.', 'e', 'E']) : ¬ Overlong t := by
  rintro ⟨l, hl, -, hs, -⟩
  obtain ⟨lead, trail, ht, hlead, htrail⟩ := exists_strip t.toList
  rw [ht] at hc
  have hcore : c ∈ core t := by
    simp only [List.mem_append] at hc
    rcases hc with hc | hc | hc
    · exact absurd (hlead c hc) (Bool.eq_false_iff.1 hblank)
    · exact hc
    · exact absurd (htrail c hc) (Bool.eq_false_iff.1 hblank)
  rw [hs] at hcore
  rcases hl.mem_chars hcore with h | h
  · exact absurd h (Bool.eq_false_iff.1 hdecimal)
  · exact hmark h

/-- The value is shown as this text, which is no integer that is too long unless the value is the
text itself. -/
structure Shown (v : Value) (s : String) : Prop where
  not_null : v.isNull = false
  text : v.toText = .ok s
  same : Overlong s → v = .text s

theorem shown_text (s : String) : Shown (.text s) s := ⟨rfl, rfl, fun _ => rfl⟩

theorem shown_branch (hv : v.isBranch = true) (hprints : Json.Prints v) : ∃ s, Shown v s := by
  obtain ⟨s, htext⟩ := Value.toText_branch_eq_ok hv hprints
  have hnull : v.isNull = false := by
    cases v with
    | null => cases hv
    | _ => rfl
  have hnot : ¬ Overlong s := by
    rcases (toText_branch hv htext).2 with hhead | hhead
    · exact not_overlong_of_mem (List.mem_of_head? hhead) (by decide) (by decide) (by decide)
    · exact not_overlong_of_mem (List.mem_of_head? hhead) (by decide) (by decide) (by decide)
  exact ⟨_, hnull, htext, fun h => absurd h hnot⟩

theorem shown_int {n : Int} (h : n.natAbs < 10 ^ Numeral.maxDigits) : ∃ s, Shown (.int n) s := by
  obtain ⟨s, htext, hstands⟩ := stands_for_int h
  exact ⟨s, rfl, htext, fun hlong => absurd hlong hstands.not_overlong⟩

/-- On finite floats the layouts agree, so a float is shown as JSON has it. -/
theorem stands_for_print {x : Float} (h : x.isFinite = true) :
    Stands (Decimal.plain.print x) (.float x) := by
  obtain ⟨b, hb⟩ := Decimal.exists_of_isFinite h
  have hsame : Decimal.plain.print x = Decimal.json.print x := by
    simp only [Decimal.Layout.print, hb]
    rfl
  obtain ⟨l, hl, hchars, hvalue⟩ := Json.print_float h
  have hnumber := isNumber_of_sound hl
  rw [hsame]
  refine .number hnumber ?_ hvalue
  rw [core_eq_self (hchars ▸ hnumber.trimmed_chars), hchars]

theorem not_overlong_print (x : Float) : ¬ Overlong (Decimal.plain.print x) := by
  by_cases hfinite : x.isFinite = true
  · exact (stands_for_print hfinite).not_overlong
  · have hword : 'n' ∈ (Decimal.plain.print x).toList := by
      simp only [Decimal.Layout.print, Decimal.ofFloat?_of_not_isFinite hfinite]
      split
      · decide
      · split <;> decide
    exact not_overlong_of_mem hword (by decide) (by decide) (by decide)

theorem shown_float (x : Float) : ∃ s, Shown (.float x) s := by
  have htext : (Value.float x).toText = Value.floatText x := rfl
  unfold Value.floatText at htext
  cases hwhole : Decimal.integral? x with
  | some n =>
      rw [hwhole] at htext
      obtain ⟨s, hs, hstands⟩ := stands_for_int (Decimal.natAbs_integral?_short hwhole)
      exact ⟨s, rfl, htext.trans hs, fun hlong => absurd hlong hstands.not_overlong⟩
  | none =>
      rw [hwhole] at htext
      exact ⟨_, rfl, htext, fun hlong => absurd hlong (not_overlong_print x)⟩

theorem shown_value {l : Json.Literal} (h : l.value = .ok v) : ∃ s, Shown v s := by
  unfold Json.Literal.value at h
  split at h
  · split at h
    · cases h
    · rename_i hlength
      cases h
      have hbound := (decimalValue_lt l.whole).trans_le
        (Nat.pow_le_pow_right (by decide) (Nat.le_of_not_lt hlength))
      exact shown_int (by split <;> simpa using hbound)
  · cases h
    exact shown_float _

/-- Whatever a text stands for can be shown. -/
theorem Stands.shown (h : Stands s v) : ∃ t, Shown v t := by
  cases h with
  | branch json branch => exact shown_branch branch (Json.prints_of_read json)
  | @boolean b same =>
      refine ⟨word b, rfl, rfl, fun hlong => absurd hlong ?_⟩
      exact (Stands.boolean (b := b) (by cases b <;> decide)).not_overlong
  | number number same value => exact shown_value value
  | itself branch boolean number => exact ⟨s, shown_text s⟩

/-- A text that stands for itself is no integer that is too long. -/
theorem Stands.ne_overlong (h : Stands s v) (t : String) (hlong : Overlong t) : v ≠ .text t := by
  rintro rfl
  have hnot : s ≠ t := by
    rintro rfl
    exact h.not_overlong hlong
  cases h with
  | branch json branch => cases branch
  | number number same value =>
      unfold Json.Literal.value at value
      split at value
      · split at value <;> cases value
      · cases value
  | itself branch boolean number => exact hnot rfl

end Showing

/-- What the template for a name comes to: the text of the slot, or the template itself if there is
no such slot. -/
inductive Fills (slots : Slots) (name : String) : String → Prop where
  | slot {v : Value} {s : String} (found : Mapping.get? slots name = some v)
      (not_null : v.isNull = false) (text : v.toText = .ok s) : Fills slots name s
  | vacant (missing : Mapping.get? slots name = none) : Fills slots name (holeText name)

/-- The slots after copies, each from a name to a key and the key first. What is assigned is what
the text of the slot stands for. -/
inductive Assigned : Slots → List (String × String) → Slots → Prop where
  | done {slots : Slots} : Assigned slots [] slots
  | unnamed {slots after : Slots} {name : String} {copies : List (String × String)}
      (rest : Assigned slots copies after) : Assigned slots (("", name) :: copies) after
  | named {slots after : Slots} {key name s : String} {v : Value} {copies : List (String × String)}
      (keyed : key ≠ "") (fills : Fills slots name s) (stands : Stands s v)
      (rest : Assigned (Mapping.set slots key v) copies after) :
      Assigned slots ((key, name) :: copies) after

/-- One of the copies takes an integer that is too long, which no copy before it has written over. -/
def Breaks (slots : Slots) (copies : List (String × String)) : Prop :=
  ∃ front key name back s, copies = front ++ (key, name) :: back ∧ key ≠ "" ∧
    Mapping.get? slots name = some (.text s) ∧ Overlong s ∧ ∀ copy ∈ front, copy.1 ≠ name

section Copying

theorem Assigned.of_named (h : Assigned slots ((key, name) :: copies) after) (hkey : key ≠ "") :
    ∃ s v, Fills slots name s ∧ Stands s v ∧ Assigned (Mapping.set slots key v) copies after := by
  cases h with
  | unnamed rest => exact absurd rfl hkey
  | named keyed fills stands rest => exact ⟨_, _, fills, stands, rest⟩

theorem breaks_unnamed (hnames : ∀ copy ∈ copies, copy.2 ≠ "") :
    Breaks slots (("", name) :: copies) ↔ Breaks slots copies := by
  constructor
  · rintro ⟨front, key, other, back, s, heq, hkey, hfound, hlong, hfresh⟩
    cases front with
    | nil =>
        cases heq
        exact absurd rfl hkey
    | cons copy front =>
        cases heq
        exact ⟨front, key, other, back, s, rfl, hkey, hfound, hlong,
          fun copy hmem => hfresh copy (.tail _ hmem)⟩
  · rintro ⟨front, key, other, back, s, rfl, hkey, hfound, hlong, hfresh⟩
    have hother : other ≠ "" := hnames (key, other) (by simp)
    exact ⟨("", name) :: front, key, other, back, s, rfl, hkey, hfound, hlong,
      List.forall_mem_cons.2 ⟨Ne.symm hother, hfresh⟩⟩

/-- A copy breaks at once, or leaves slots that break what follows. What it stores breaks nothing. -/
theorem breaks_named (hkey : key ≠ "") (hv : ∀ t, Overlong t → v ≠ .text t) :
    Breaks slots ((key, name) :: copies) ↔
      (∃ s, Mapping.get? slots name = some (.text s) ∧ Overlong s) ∨
        Breaks (Mapping.set slots key v) copies := by
  constructor
  · rintro ⟨front, other, source, back, s, heq, hother, hfound, hlong, hfresh⟩
    cases front with
    | nil =>
        cases heq
        exact .inl ⟨s, hfound, hlong⟩
    | cons copy front =>
        cases heq
        have hne : key ≠ source := hfresh (key, name) (.head _)
        refine .inr ⟨front, other, source, back, s, rfl, hother, ?_, hlong,
          fun copy hmem => hfresh copy (.tail _ hmem)⟩
        rw [Mapping.get?_set, if_neg hne, hfound]
  · rintro (⟨s, hfound, hlong⟩ | ⟨front, other, source, back, s, rfl, hother, hfound, hlong, hfresh⟩)
    · exact ⟨[], key, name, copies, s, rfl, hkey, hfound, hlong, nofun⟩
    · rw [Mapping.get?_set] at hfound
      split at hfound
      · exact absurd (Option.some.inj hfound) (hv s hlong)
      · rename_i hne
        exact ⟨(key, name) :: front, other, source, back, s, rfl, hother, hfound, hlong,
          List.forall_mem_cons.2 ⟨hne, hfresh⟩⟩

/-- All slots can be shown. -/
def Showable (slots : Slots) : Prop :=
  ∀ name v, Mapping.get? slots name = some v → ∃ s, Shown v s

theorem Showable.set (h : Showable slots) (hv : ∃ s, Shown v s) (key : String) :
    Showable (Mapping.set slots key v) := by
  intro name w hw
  rw [Mapping.get?_set] at hw
  split at hw
  · cases hw
    exact hv
  · exact h name w hw

theorem not_overlong_holeText (name : String) : ¬ Overlong (holeText name) := by
  have hopen : '\x7b' ∈ (holeText name).toList := by
    rw [holeText, String.toList_ofList]
    exact .head _
  exact not_overlong_of_mem hopen (by decide) (by decide) (by decide)

/-- A name is filled in, and an integer that is too long comes from a slot that holds its text. -/
theorem Showable.fills (h : Showable slots) (name : String) :
    ∃ s, Fills slots name s ∧ (Overlong s → Mapping.get? slots name = some (.text s)) := by
  cases hfound : Mapping.get? slots name with
  | none =>
      exact ⟨_, .vacant hfound, fun hlong => absurd hlong (not_overlong_holeText name)⟩
  | some v =>
      obtain ⟨s, hs⟩ := h name v hfound
      exact ⟨s, .slot hfound hs.not_null hs.text, fun hlong => congrArg some (hs.same hlong)⟩

theorem Fills.fillText_eq (h : Fills slots name s) (hname : IsName name) :
    fillText (holeText name) (.object slots) false = .ok s := by
  cases h with
  | slot found not_null text => rw [hname.fillText_of_value found not_null, text]
  | vacant missing => exact hname.fillText_of_none missing

theorem Fills.eq_of_text (h : Fills slots name s) (hfound : Mapping.get? slots name = some (.text t)) :
    s = t := by
  cases h with
  | slot found not_null text =>
      cases found.symm.trans hfound
      exact (Except.ok.inj text).symm
  | vacant missing => cases missing.symm.trans hfound

theorem assign_of_fills {item : Value} (h : Copies item name key) (hkey : key ≠ "")
    (hname : IsName name) (hs : Fills slots name s) :
    Node.assign (.ofSlots slots) item = do
      let v ← coerceText s
      return .ofSlots (Mapping.set slots key v) := by
  rw [Node.assign_named h.key hkey, Draft.ofSlots, h.assigned_eq, hs.fillText_eq hname]
  rfl

/-- A copy stores what the text of the slot stands for, unless that is an integer that is too
long. -/
theorem assign_cases {item : Value} (h : Copies item name key) (hkey : key ≠ "")
    (hname : IsName name) (hslots : Showable slots) :
    (∃ s v, Fills slots name s ∧ Stands s v ∧
        Node.assign (.ofSlots slots) item = .ok (.ofSlots (Mapping.set slots key v))) ∨
      ∃ s n, Mapping.get? slots name = some (.text s) ∧ Overlong s ∧
        Node.assign (.ofSlots slots) item = .error (.malformed (.longInteger n)) := by
  obtain ⟨s, hs, hsame⟩ := hslots.fills name
  rw [assign_of_fills h hkey hname hs]
  rcases stands_or_overlong s with ⟨v, hv⟩ | hlong
  · rw [hv.coerceText_eq]
    exact .inl ⟨s, v, hs, hv, rfl⟩
  · obtain ⟨n, hn⟩ := hlong.coerceText_eq
    rw [hn]
    exact .inr ⟨s, n, hsame hlong, hlong, rfl⟩

/-- The copies are made one after the other up to the first that breaks, if there is one. -/
theorem foldlM_assign_cases {items : List Value}
    (h : List.Forall₂ (fun item copy => Copies item copy.2 copy.1) items copies)
    (hnames : ∀ copy ∈ copies, IsName copy.2) (hslots : Showable slots) :
    (¬ Breaks slots copies ∧ ∃ after, Assigned slots copies after ∧
        items.foldlM Node.assign (.ofSlots slots) = .ok (.ofSlots after)) ∨
      Breaks slots copies ∧ ∃ n,
        items.foldlM Node.assign (.ofSlots slots) = .error (.malformed (.longInteger n)) := by
  induction h generalizing slots with
  | nil =>
      refine .inl ⟨?_, slots, .done, rfl⟩
      rintro ⟨front, key, name, back, s, heq, -⟩
      cases front <;> cases heq
  | @cons item copy items copies hcopy _ ih =>
      obtain ⟨key, name⟩ := copy
      have hrest : ∀ copy ∈ copies, IsName copy.2 := fun copy hmem => hnames copy (.tail _ hmem)
      rw [List.foldlM_cons]
      by_cases hkey : key = ""
      · subst hkey
        have hne : ∀ copy ∈ copies, copy.2 ≠ "" := fun copy hmem => (hrest copy hmem).ne_empty
        rw [Node.assign_unnamed hcopy.key, breaks_unnamed hne]
        refine (ih hrest hslots).imp_left ?_
        rintro ⟨hnot, after, hafter, hrun⟩
        exact ⟨hnot, after, .unnamed hafter, hrun⟩
      · rcases assign_cases hcopy hkey (hnames (key, name) (.head _)) hslots with
          ⟨s, v, hs, hv, hstep⟩ | ⟨s, n, hfound, hlong, hstep⟩
        · rw [hstep, breaks_named hkey hv.ne_overlong]
          have hnow : ¬ ∃ t, Mapping.get? slots name = some (.text t) ∧ Overlong t := by
            rintro ⟨t, hfound, hlong⟩
            cases hs.eq_of_text hfound
            exact hv.not_overlong hlong
          rcases ih hrest (hslots.set hv.shown key) with ⟨hnot, after, hafter, hrun⟩ | ⟨hlater, hrun⟩
          · exact .inl ⟨fun h => h.elim hnow hnot, after, .named hkey hs hv hafter, hrun⟩
          · exact .inr ⟨.inr hlater, hrun⟩
        · rw [hstep]
          exact .inr ⟨⟨[], key, name, copies, s, rfl, hkey, hfound, hlong, nofun⟩, n, rfl⟩

/-- Nodes that assign slots find their way on, whatever is in the slots. -/
theorem leave_eq_ok {context : Node.Context} {node : Node} (hkind : node.kind? = some .setSlot)
    (haccepted : context.scenario.defects = []) (hids : "" ∉ context.scenario.nodeIds)
    (hmem : node ∈ context.scenario.nodes) (slots : Slots) :
    ∃ next, Node.leave context node none slots [] = .ok (.goTo next slots []) := by
  have hllm : node.kind? ≠ some .llm := by
    rw [hkind]
    nofun
  have hbranch : node.isConditionBranch = false := by
    rw [Node.isConditionBranch, hkind]
    rfl
  obtain ⟨next, hnext⟩ := Scenario.exists_next haccepted hids hmem
    (Scenario.edgeFrom_unauthored hllm hbranch none slots)
  exact ⟨next, by rw [Node.leave, hnext]; rfl⟩

/-- Exactly the integers that are too long break a node that copies texts: otherwise every slot that
it assigns is what the text stands for, which is the text itself if it is nothing else. -/
theorem texts_assigned_unless_overlong {node : Node} {items : List Value}
    (hkind : node.kind? = some .setSlot)
    (hitems : (node.get "assignments").elements = .ok items)
    (hcopies : List.Forall₂ (fun item copy => Copies item copy.2 copy.1) items copies)
    (hnames : ∀ copy ∈ copies, IsName copy.2)
    (htexts : ∀ name v, Mapping.get? slots name = some v → ∃ s, v = .text s)
    (context : Node.Context) :
    (¬ Breaks slots copies → ∃ after, Assigned slots copies after ∧
        node.execute context slots = Attempt.of (Node.leave context node none after [])) ∧
      (Breaks slots copies → ∃ n,
        node.execute context slots = Attempt.of (.error (.malformed (.longInteger n)))) ∧
      (context.scenario.defects = [] → "" ∉ context.scenario.nodeIds →
        node ∈ context.scenario.nodes → ∀ after, ∃ next,
          Node.leave context node none after [] = .ok (.goTo next after [])) := by
  have hshowable : Showable slots := fun name v hv => by
    obtain ⟨s, rfl⟩ := htexts name v hv
    exact ⟨s, shown_text s⟩
  have hexecute : node.execute context slots =
      Attempt.of (items.foldlM Node.assign (.ofSlots slots) >>=
        Node.leaveWith context node none) := by
    rw [Node.execute, hkind]
    exact congrArg Attempt.of (Node.executeSetSlot_eq hitems context slots)
  have hrun := foldlM_assign_cases hcopies hnames hshowable
  refine ⟨fun hnot => ?_, fun hbreaks => ?_, leave_eq_ok hkind⟩
  · obtain ⟨-, after, hafter, hrun⟩ := hrun.resolve_right fun h => hnot h.1
    exact ⟨after, hafter, by rw [hexecute, hrun]; rfl⟩
  · obtain ⟨-, n, hrun⟩ := hrun.resolve_left fun h => h.1 hbreaks
    exact ⟨n, by rw [hexecute, hrun]; rfl⟩

end Copying

namespace Sample

def reading : Node := puts "count" (.text (holeText "typed"))

/-- A one more often than an integer may have digits. -/
def ones : String := String.ofList ('1' :: List.replicate Numeral.maxDigits '1')

theorem coerceText_ones :
    coerceText ones = .error (.malformed (.longInteger (Numeral.maxDigits + 1))) := by
  let l : Json.Literal := ⟨false, '1' :: List.replicate Numeral.maxDigits '1', [], none⟩
  have hdigits : ∀ c ∈ List.replicate Numeral.maxDigits '1', isDecimal c = true := fun c hc => by
    rw [List.eq_of_mem_replicate hc]
    decide
  have hnumber : IsNumber l :=
    ⟨.inl (.inr ⟨'1', _, rfl, by decide, hdigits⟩), List.forall_mem_nil _, by rintro _ ⟨⟩⟩
  have hchars : ones.toList = l.chars := by
    rw [ones, String.toList_ofList]
    exact (List.append_nil _).symm
  have hcore : core ones = l.chars := by
    rw [core_eq_self (hchars ▸ hnumber.trimmed_chars), hchars]
  have hlength : l.whole.length = Numeral.maxDigits + 1 := by
    rw [List.length_cons, List.length_replicate]
  rw [coerceText_overlong hnumber ⟨rfl, rfl⟩ hcore (by omega), hlength]

end Sample

theorem typed_twelve_assigned :
    Sample.reading.execute (Sample.alone Sample.reading) [("typed", .text " 12 ")] =
      Attempt.of (.ok (.goTo none [("typed", .text " 12 "), ("count", .int 12)] [])) := by
  have htwelve : Stands " 12 " (.int 12) := coerceText_eq_ok_iff.1 rfl
  have htyped {name : String} {v : Value}
      (h : Mapping.get? [("typed", .text " 12 ")] name = some v) : v = .text " 12 " := by
    simp only [Mapping.get?] at h
    split at h <;> cases h
    rfl
  have hnot : ¬ Breaks [("typed", .text " 12 ")] [("count", "typed")] := by
    rintro ⟨front, key, name, back, s, -, -, hfound, hlong, -⟩
    cases htyped hfound
    exact htwelve.not_overlong hlong
  have hcopies : List.Forall₂ (fun item copy => Copies item copy.2 copy.1)
      [Sample.assignment "count" (.text (holeText "typed"))] [("count", "typed")] :=
    .cons ⟨rfl, rfl⟩ .nil
  have hitems : (Sample.reading.get "assignments").elements =
      .ok [Sample.assignment "count" (.text (holeText "typed"))] := rfl
  obtain ⟨after, hafter, hexecute⟩ := (texts_assigned_unless_overlong rfl hitems hcopies
    (by decide +kernel) (fun name v hv => ⟨_, htyped hv⟩) (Sample.alone Sample.reading)).1 hnot
  rw [hexecute]
  obtain ⟨s, v, hfills, hstands, hrest⟩ := hafter.of_named (by decide)
  cases hfills.eq_of_text (t := " 12 ") rfl
  cases hstands.coerceText_eq.symm.trans htwelve.coerceText_eq
  cases hrest
  rfl

/-- An integer that is too long fails the node instead of staying a text. -/
theorem ones_break_reading :
    Copies (Sample.assignment "count" (.text (holeText "typed"))) "typed" "count" ∧
      IsName "typed" ∧
      Sample.reading.execute (Sample.alone Sample.reading) [("typed", .text Sample.ones)] =
        Attempt.of (.error (.malformed (.longInteger (Numeral.maxDigits + 1)))) := by
  have hcopies : Copies (Sample.assignment "count" (.text (holeText "typed"))) "typed" "count" :=
    ⟨rfl, rfl⟩
  have hname : IsName "typed" := by decide +kernel
  refine ⟨hcopies, hname, ?_⟩
  have hitems : (Sample.reading.get "assignments").elements =
      .ok [Sample.assignment "count" (.text (holeText "typed"))] := rfl
  have hfills : Fills [("typed", .text Sample.ones)] "typed" Sample.ones := .slot rfl rfl rfl
  have hassign := assign_of_fills hcopies (by decide) hname hfills
  rw [Sample.coerceText_ones] at hassign
  rw [Node.execute]
  refine congrArg Attempt.of ?_
  rw [Node.executeSetSlot_eq hitems, List.foldlM_cons, hassign]
  rfl

end Dialogue.Slot
