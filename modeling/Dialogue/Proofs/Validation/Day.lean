import Dialogue.Proofs.Moment
import Dialogue.Proofs.Validation.Contact
/-!
Dates as answers. The rules for dates take the texts that name a day of the calendar, and order them
in one and the same way: from today on, up to today, and from one day to another.
-/
namespace Dialogue

open Dialogue.Text

namespace Moment

/-- Digits are those in which the number that they write is printed. -/
theorem digitsOf_decimalValue {width : Nat} {cs : List Char} (hwidth : cs.length = width)
    (h : ∀ c ∈ cs, isAsciiDigit c = true) : digitsOf width (decimalValue cs) = cs := by
  subst hwidth
  induction cs using List.reverseRecOn with
  | nil => rfl
  | append_singleton cs c ih =>
      have hc := h c (by simp)
      obtain ⟨hlow, hhigh⟩ := isAsciiDigit_iff.1 hc
      have hlast : decimalValue [c] = c.toNat - 48 := by
        simp [decimalValue, digit?_of_isAsciiDigit hc]
      have hfront : (decimalValue cs * 10 + (c.toNat - 48)) / 10 = decimalValue cs := by omega
      have hdigit : 48 + (decimalValue cs * 10 + (c.toNat - 48)) % 10 = c.toNat := by omega
      rw [decimalValue_append, hlast, List.length_append, List.length_singleton, pow_one, digitsOf,
        hfront, hdigit, ih fun d hd => h d (by simp [hd]), Char.ofNat_toNat]

end Moment

namespace Date

/-- A text writes a day of the calendar in four, two and two digits of ASCII between hyphens. -/
structure Names (cs : List Char) (d : Date) : Prop where
  real : d.exists? = true
  written : cs = Moment.printDate d

variable {cs : List Char} {d : Date}

theorem Names.length_eq (h : Names cs d) : cs.length = 10 := by
  simp [h.written, Moment.printDate]

theorem parse?_eq_some_iff : parse? cs = some d ↔ Names cs d := by
  refine ⟨fun h => ⟨exists?_of_parse? h, ?_⟩, fun h => h.written ▸ Moment.parse?_printDate h.real⟩
  unfold parse? at h
  split at h
  · rename_i y1 y2 y3 y4 m1 m2 d1 d2
    split at h
    · rename_i hdigits
      simp only [List.all_cons, List.all_nil, Bool.and_eq_true, and_true] at hdigits
      obtain ⟨h1, h2, h3, h4, h5, h6, h7, h8⟩ := hdigits
      have hyear : Moment.digitsOf 4 (decimalValue [y1, y2, y3, y4]) = [y1, y2, y3, y4] :=
        Moment.digitsOf_decimalValue rfl (by simp [h1, h2, h3, h4])
      have hmonth : Moment.digitsOf 2 (decimalValue [m1, m2]) = [m1, m2] :=
        Moment.digitsOf_decimalValue rfl (by simp [h5, h6])
      have hday : Moment.digitsOf 2 (decimalValue [d1, d2]) = [d1, d2] :=
        Moment.digitsOf_decimalValue rfl (by simp [h7, h8])
      unfold ofNumbers? at h
      split at h
      · cases h
        rw [Moment.printDate, hyear, hmonth, hday]
        rfl
      · cases h
    · cases h
  · cases h

theorem Names.unique {other : Date} (h : Names cs d) (h' : Names cs other) : d = other :=
  Option.some.inj ((parse?_eq_some_iff.2 h).symm.trans (parse?_eq_some_iff.2 h'))

end Date

namespace Rule

/-- The text is accepted as an answer. -/
def Accepts (setting : Setting) (rule : Mapping Value) (s : String) : Prop :=
  check setting (.text s) (.object rule) = .ok .accepted

/-- The rule comes to a verdict on every answer. -/
def Decides (setting : Setting) (rule : Mapping Value) : Prop :=
  ∀ s, ∃ verdict, check setting (.text s) (.object rule) = .ok verdict

/-- A rule that takes the days from `first` to `last`. -/
structure Spans (rule : Mapping Value) (first last : Date) : Prop where
  custom : Mapping.get? rule "type" = some (.text "custom")
  patternless : ((Mapping.get? rule "regex").getD .null).truthy = false
  start : Mapping.get? rule "startDate" = some (.text (String.ofList (Moment.printDate first)))
  stop : Mapping.get? rule "endDate" = some (.text (String.ofList (Moment.printDate last)))

variable {setting : Setting} {rule : Mapping Value} {s : String} {first last : Date}

section Today

variable {override : Value} {answer : List Char}

theorem isAccepted_checkToday {after : Bool} :
    (checkToday setting override after answer).isAccepted = true ↔
      ∃ d, Date.Names answer d ∧
        (if after then setting.today.upTo d else d.upTo setting.today) = true := by
  simp only [← Date.parse?_eq_some_iff]
  unfold checkToday
  cases Date.parse? answer with
  | none => simp [reject, Verdict.isAccepted]
  | some d =>
      simp only [Option.some.injEq, exists_eq_left']
      cases after <;> simp only [Bool.false_eq_true, ↓reduceIte, isAccepted_choice]

theorem accepts_of_isAccepted {verdict : Verdict}
    (h : check setting (.text s) (.object rule) = .ok verdict) :
    Accepts setting rule s ↔ verdict.isAccepted = true := by
  rw [Accepts, h, Except.ok.injEq]
  cases verdict <;> simp [Verdict.isAccepted]

theorem check_after (hrule : Mapping.get? rule "type" = some (.text "today after")) (s : String) :
    check setting (.text s) (.object rule) = .ok (checkToday setting
      ((Mapping.get? rule "errorMessage").getD .null) true s.toList) := by
  simp only [check, truthy_of_type hrule, Value.field, hrule]
  rfl

theorem check_before (hrule : Mapping.get? rule "type" = some (.text "today before"))
    (s : String) :
    check setting (.text s) (.object rule) = .ok (checkToday setting
      ((Mapping.get? rule "errorMessage").getD .null) false s.toList) := by
  simp only [check, truthy_of_type hrule, Value.field, hrule]
  rfl

theorem accepts_after_iff (hrule : Mapping.get? rule "type" = some (.text "today after")) :
    Accepts setting rule s ↔ ∃ d, Date.Names s.toList d ∧ setting.today.upTo d = true := by
  rw [accepts_of_isAccepted (check_after hrule s), isAccepted_checkToday]
  rfl

theorem accepts_before_iff (hrule : Mapping.get? rule "type" = some (.text "today before")) :
    Accepts setting rule s ↔ ∃ d, Date.Names s.toList d ∧ d.upTo setting.today = true := by
  rw [accepts_of_isAccepted (check_before hrule s), isAccepted_checkToday]
  rfl

end Today

section Span

theorem authoredDate_printDate (h : first.exists? = true) :
    authoredDate (.text (String.ofList (Moment.printDate first))) = .ok (some first) := by
  have hlength : (Moment.printDate first).length = 10 :=
    Date.Names.length_eq ⟨h, rfl⟩
  have hparse := Date.parse?_eq_some_iff.2 ⟨h, rfl⟩
  show Except.ok (Date.parse? ((String.ofList (Moment.printDate first)).toList.take 10)) = _
  rw [String.toList_ofList, List.take_of_length_le hlength.le, hparse]

/-- The notice that names both days has a text in every language. -/
theorem exists_render_dateRange (language a b : String) :
    ∃ text, Notice.dateRange.render language [("start_date", .text a), ("end_date", .text b)] =
      .ok text := by
  rw [Notice.render, Notice.template]
  split
  · exact ⟨_, rfl⟩
  · exact ⟨_, rfl⟩

theorem check_custom (hrule : Mapping.get? rule "type" = some (.text "custom")) (s : String) :
    check setting (.text s) (.object rule) = checkCustom setting (.object rule)
      ((Mapping.get? rule "errorMessage").getD .null) s.toList := by
  simp only [check, truthy_of_type hrule, Value.field, Value.toText, bind, Except.bind,
    Bool.not_true, Bool.false_eq_true, ↓reduceIte]
  -- Kept closed: the kernel would compare the two sides by running what the type calls for.
  generalize checkCustom setting (.object rule) _ s.toList = outcome
  rw [hrule]
  rfl

theorem check_span (setting : Setting) (hrule : Spans rule first last)
    (hfirst : first.exists? = true) (hlast : last.exists? = true) (s : String) :
    ∃ verdict, check setting (.text s) (.object rule) = .ok verdict ∧
      (verdict.isAccepted = true ↔
        ∃ d, Date.Names s.toList d ∧ first.upTo d = true ∧ d.upTo last = true) := by
  have hdates (d : Date) : (Value.text (String.ofList (Moment.printDate d))).truthy = true := by
    rw [Value.truthy_text_iff]
    intro hempty
    have hnil := congrArg String.toList hempty
    rw [String.toList_ofList] at hnil
    cases hnil
  have hcheck : check setting (.text s) (.object rule) =
      checkRange setting ((Mapping.get? rule "errorMessage").getD .null)
        (.text (String.ofList (Moment.printDate first)))
        (.text (String.ofList (Moment.printDate last))) s.toList := by
    rw [check_custom hrule.custom]
    simp only [checkCustom, Value.field, hrule.start, hrule.stop, bind, Except.bind,
      Option.getD_some, hrule.patternless, hdates]
    rfl
  rw [hcheck, checkRange, authoredDate_printDate hfirst, authoredDate_printDate hlast]
  simp only [← Date.parse?_eq_some_iff, bind, Except.bind]
  cases Date.parse? s.toList with
  | none => exact ⟨_, rfl, by simp [reject, Verdict.isAccepted]⟩
  | some d =>
      by_cases hinside : (first.upTo d && d.upTo last) = true
      · refine ⟨.accepted, by simp only [hinside]; rfl, ?_⟩
        simpa [Verdict.isAccepted] using hinside
      · obtain ⟨text, htext⟩ := exists_render_dateRange setting.language
          (String.ofList (Moment.printDate first)) (String.ofList (Moment.printDate last))
        refine ⟨.rejected (.text text), ?_, ?_⟩
        · simp only [Bool.not_eq_true _ ▸ hinside, rejectWith, htext]
          rfl
        · simpa [Verdict.isAccepted] using hinside

end Span

/-- Under the rules for dates an answer is accepted only if it names a day. From today on and up to
today such an answer is accepted, both ways only if it names today; and the days from one to another
are those from the one on that come up to the other. -/
theorem dates_are_ordered {after before span : Mapping Value} (hfirst : first.exists? = true)
    (hlast : last.exists? = true)
    (hafter : Mapping.get? after "type" = some (.text "today after"))
    (hbefore : Mapping.get? before "type" = some (.text "today before"))
    (hspan : Spans span first last) (language : String) (today : Date) (s : String) :
    (Accepts ⟨language, first⟩ after s ∨ Accepts ⟨language, first⟩ before s ↔
        ∃ d, Date.Names s.toList d) ∧
      (Accepts ⟨language, first⟩ after s ∧ Accepts ⟨language, first⟩ before s ↔
        Date.Names s.toList first) ∧
      (Accepts ⟨language, today⟩ span s ↔
        Accepts ⟨language, first⟩ after s ∧ Accepts ⟨language, last⟩ before s) ∧
      Decides ⟨language, today⟩ after ∧ Decides ⟨language, today⟩ before ∧
        Decides ⟨language, today⟩ span := by
  obtain ⟨verdict, hcheck, hverdict⟩ := check_span ⟨language, today⟩ hspan hfirst hlast s
  simp only [accepts_after_iff hafter, accepts_before_iff hbefore, accepts_of_isAccepted hcheck,
    hverdict]
  refine ⟨⟨?_, ?_⟩, ⟨?_, ?_⟩, ⟨?_, ?_⟩, fun s => ⟨_, check_after hafter s⟩,
    fun s => ⟨_, check_before hbefore s⟩, fun s => ?_⟩
  · rintro (⟨d, hd, -⟩ | ⟨d, hd, -⟩) <;> exact ⟨d, hd⟩
  · rintro ⟨d, hd⟩
    exact (Date.upTo_total first d).imp (fun h => ⟨d, hd, h⟩) fun h => ⟨d, hd, h⟩
  · rintro ⟨⟨d, hd, hfrom⟩, other, hother, hto⟩
    cases hd.unique hother
    exact Date.eq_of_upTo hfrom hto ▸ hd
  · intro h
    have hself : first.upTo first = true := (Date.upTo_total first first).elim id id
    exact ⟨⟨first, h, hself⟩, first, h, hself⟩
  · rintro ⟨d, hd, hfrom, hto⟩
    exact ⟨⟨d, hd, hfrom⟩, d, hd, hto⟩
  · rintro ⟨⟨d, hd, hfrom⟩, other, hother, hto⟩
    cases hd.unique hother
    exact ⟨d, hd, hfrom, hto⟩
  · obtain ⟨verdict, hcheck, -⟩ := check_span ⟨language, today⟩ hspan hfirst hlast s
    exact ⟨verdict, hcheck⟩

namespace Sample

def leapDay : Date := ⟨2024, 2, 29⟩

def lastDay : Date := ⟨2024, 12, 31⟩

def fromToday : Mapping Value := [("type", .text "today after")]

def upToToday : Mapping Value := [("type", .text "today before"), ("errorMessage", .text "No!")]

def season : Mapping Value := [
  ("type", .text "custom"), ("regex", .text ""), ("startDate", .text "2024-02-29"),
  ("endDate", .text "2024-12-31")]

end Sample

open Sample in
theorem leap_day_is_ordered :
    leapDay.exists? = true ∧ lastDay.exists? = true ∧
      Mapping.get? fromToday "type" = some (.text "today after") ∧
      Mapping.get? upToToday "type" = some (.text "today before") ∧ Spans season leapDay lastDay ∧
      Accepts ⟨"en", leapDay⟩ fromToday "2024-02-29" ∧
      Accepts ⟨"en", leapDay⟩ upToToday "2024-02-29" ∧
      Accepts ⟨"en", lastDay⟩ season "2024-02-29" := by
  have hfrom : Mapping.get? fromToday "type" = some (.text "today after") := rfl
  have hupTo : Mapping.get? upToToday "type" = some (.text "today before") := rfl
  have hseason : Spans season leapDay lastDay := ⟨rfl, rfl, rfl, rfl⟩
  have hnames : Date.Names "2024-02-29".toList leapDay := ⟨by decide, by decide⟩
  obtain ⟨-, hboth, hspan, -⟩ := dates_are_ordered (by decide) (by decide) hfrom hupTo hseason "en"
    lastDay "2024-02-29"
  obtain ⟨hafter, hbefore⟩ := hboth.2 hnames
  have hlast : Accepts ⟨"en", lastDay⟩ upToToday "2024-02-29" :=
    (accepts_before_iff hupTo).2 ⟨leapDay, hnames, by decide⟩
  exact ⟨by decide, by decide, hfrom, hupTo, hseason, hafter, hbefore, hspan.2 ⟨hafter, hlast⟩⟩

end Rule

end Dialogue
