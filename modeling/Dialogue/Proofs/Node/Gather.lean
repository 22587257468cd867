import Dialogue.Node.Execute
import Dialogue.Proofs.Program
import Dialogue.Script
import Mathlib.Data.List.Forall2
/-!
The requests of an api node, which are out together. What they write does not depend on the order in
which they are answered, and if one of them fails none writes anything.
-/
namespace Dialogue

namespace Node.Api

open Slot

/-- The failure of a request, and when it comes. -/
def Landing.failure? (landing : Landing) : Option (Nat × Fault) :=
  match landing.outcome with
  | .ok _ => none
  | .error fault => some (landing.time, fault)

/-- The requests in the order in which they come to an end, those at the same time in the order in
which they were sent. -/
def completions (landings : List Landing) : List Landing :=
  landings.mergeSort fun earlier later => earlier.time ≤ later.time

/-- What a request may come to: its answer is read under the slots of the node, and it ends when it
is answered. One that cannot be prepared ends at once. -/
inductive Lands (base : String) (slots : Slots) (config : Value) : Landing → Prop where
  | unsent {fault : Fault} (unprepared : Prepared.ofConfig base slots config = .error fault) :
      Lands base slots config ⟨.error fault, 0⟩
  | answered {prepared : Prepared} (sent : Prepared.ofConfig base slots config = .ok prepared)
      (arrival : Http.Arrival) :
      Lands base slots config ⟨arrival.reply.bind prepared.receive, arrival.delay⟩

section Landings

variable {landings : List Landing} {drafts : List Draft}

theorem failure?_eq_none_iff {landing : Landing} :
    landing.failure? = none ↔ ∃ draft, landing.outcome = .ok draft := by
  unfold Landing.failure?
  cases landing.outcome <;> simp

theorem failure?_eq_some_iff {landing : Landing} {time : Nat} {fault : Fault} :
    landing.failure? = some (time, fault) ↔
      landing.time = time ∧ landing.outcome = .error fault := by
  unfold Landing.failure?
  cases landing.outcome <;> simp

theorem exists_of_findSome?_failure? {time : Nat} {fault : Fault}
    (h : landings.findSome? Landing.failure? = some (time, fault)) :
    ∃ landing ∈ landings, landing.time = time ∧ landing.outcome = .error fault := by
  obtain ⟨landing, hlanding, hfailure⟩ := List.exists_of_findSome?_eq_some h
  exact ⟨landing, hlanding, failure?_eq_some_iff.1 hfailure⟩

theorem mem_completions {landing : Landing} :
    landing ∈ completions landings ↔ landing ∈ landings := List.mem_mergeSort

theorem completions_cons (landing : Landing) (rest : List Landing) :
    ∃ before after, completions (landing :: rest) = before ++ landing :: after ∧
      completions rest = before ++ after ∧ (∀ earlier ∈ before, earlier.time < landing.time) ∧
      ∀ later ∈ after, landing.time ≤ later.time := by
  have htrans (a b c : Landing) (hab : decide (a.time ≤ b.time) = true)
      (hbc : decide (b.time ≤ c.time) = true) : decide (a.time ≤ c.time) = true := by
    simp only [decide_eq_true_eq] at hab hbc ⊢
    exact Nat.le_trans hab hbc
  have htotal (a b : Landing) : (decide (a.time ≤ b.time) || decide (b.time ≤ a.time)) = true := by
    simpa using Nat.le_total a.time b.time
  have hsorted := List.pairwise_mergeSort htrans htotal (landing :: rest)
  obtain ⟨before, after, hall, hrest, hbefore⟩ := List.mergeSort_cons htrans htotal landing rest
  rw [hall, List.pairwise_append, List.pairwise_cons] at hsorted
  exact ⟨before, after, hall, hrest, fun earlier h => by simpa using hbefore earlier h,
    fun later h => by simpa using hsorted.2.1.1 later h⟩

/-- The search among the requests as they were sent finds the first failure among them as they come
to an end. -/
theorem firstFailure?_eq (landings : List Landing) :
    firstFailure? landings = (completions landings).findSome? Landing.failure? := by
  induction landings with
  | nil => simp [firstFailure?, completions]
  | cons landing rest ih =>
      obtain ⟨before, after, hall, hrest, hbefore, hafter⟩ := completions_cons landing rest
      rw [firstFailure?, ih, hall, hrest, List.findSome?_append, List.findSome?_append,
        List.findSome?_cons]
      cases houtcome : landing.outcome with
      | ok draft => rw [failure?_eq_none_iff.2 ⟨draft, houtcome⟩]
      | error fault =>
          rw [failure?_eq_some_iff.2 ⟨rfl, houtcome⟩]
          -- A failure of the rest comes first only if it stands before this one in the order.
          cases hfirst : before.findSome? Landing.failure? with
          | some failure =>
              obtain ⟨found, hfound, htime, -⟩ := exists_of_findSome?_failure? hfirst
              have hlt : failure.1 < landing.time := htime ▸ hbefore found hfound
              simp [hlt]
          | none =>
              cases hnext : after.findSome? Landing.failure? with
              | none => rfl
              | some failure =>
                  obtain ⟨found, hfound, htime, -⟩ := exists_of_findSome?_failure? hnext
                  have hle : landing.time ≤ failure.1 := htime ▸ hafter found hfound
                  simp [Nat.not_lt.2 hle]

theorem firstFailure?_of_ok (h : landings.map Landing.outcome = drafts.map .ok) :
    firstFailure? landings = none := by
  rw [firstFailure?_eq, List.findSome?_eq_none_iff]
  intro landing hlanding
  have hmem := List.mem_map_of_mem (f := Landing.outcome) (mem_completions.1 hlanding)
  rw [h] at hmem
  obtain ⟨draft, -, houtcome⟩ := List.mem_map.1 hmem
  exact failure?_eq_none_iff.2 ⟨draft, houtcome.symm⟩

theorem exists_firstFailure? (h : ∃ landing ∈ landings, ∃ fault, landing.outcome = .error fault) :
    ∃ before first later fault, completions landings = before ++ first :: later ∧
      (∀ earlier ∈ before, ∃ draft, earlier.outcome = .ok draft) ∧
      first.outcome = .error fault ∧ firstFailure? landings = some (first.time, fault) := by
  obtain ⟨landing, hlanding, fault, houtcome⟩ := h
  have hne : (completions landings).findSome? Landing.failure? ≠ none := by
    intro hnone
    obtain ⟨draft, hok⟩ := failure?_eq_none_iff.1
      (List.findSome?_eq_none_iff.1 hnone landing (mem_completions.2 hlanding))
    cases houtcome.symm.trans hok
  obtain ⟨⟨time, fault⟩, hfirst⟩ := Option.ne_none_iff_exists'.1 hne
  obtain ⟨before, first, later, horder, hfailure, hbefore⟩ := List.findSome?_eq_some_iff.1 hfirst
  obtain ⟨rfl, hfails⟩ := failure?_eq_some_iff.1 hfailure
  exact ⟨before, first, later, fault, horder,
    fun earlier hmem => failure?_eq_none_iff.1 (hbefore earlier hmem), hfails,
    (firstFailure?_eq landings).trans hfirst⟩

theorem foldl_update (drafts : List Draft) (draft : Draft) :
    drafts.foldl Draft.update draft =
      ⟨(drafts.map Draft.slots).foldl Mapping.update draft.slots,
        draft.misnamed || drafts.any Draft.misnamed⟩ := by
  induction drafts generalizing draft with
  | nil => simp
  | cons first rest ih => rw [List.foldl_cons, ih]; simp [Draft.update, Bool.or_assoc]

theorem merge_of_ok (h : landings.map Landing.outcome = drafts.map .ok) :
    merge landings = ⟨(drafts.map Draft.slots).foldl Mapping.update [],
      drafts.any Draft.misnamed⟩ := by
  let written (draft : Draft) (outcome : Except Fault Draft) : Draft :=
    draft.update (outcome.toOption.getD (.ofSlots []))
  calc merge landings
      = (landings.map Landing.outcome).foldl written (.ofSlots []) := by
        rw [List.foldl_map]
        rfl
    _ = drafts.foldl Draft.update (.ofSlots []) := by
        rw [h, List.foldl_map]
        rfl
    _ = ⟨(drafts.map Draft.slots).foldl Mapping.update [], drafts.any Draft.misnamed⟩ := by
        rw [foldl_update]
        simp [Draft.ofSlots]

end Landings

section Sending

variable {base : String} {slots : Slots}

theorem send_lands (config : Value) :
    (send (Prepared.ofConfig base slots config)).Always (Lands base slots config) := by
  cases hprepared : Prepared.ofConfig base slots config with
  | error fault => exact .unsent hprepared
  | ok prepared => exact fun arrival => .answered hprepared arrival

theorem sendAll_lands (configs : List Value) :
    (sendAll (configs.map (Prepared.ofConfig base slots))).Always
      (List.Forall₂ (Lands base slots) configs) := by
  induction configs with
  | nil => exact .nil
  | cons config rest ih =>
      refine Program.always_bind.2 ((send_lands config).mono fun landing hlanding => ?_)
      exact Program.always_bind.2 (ih.mono fun landings hlandings => .cons hlanding hlandings)

end Sending

section Outcome

variable {σ : Type} (world : σ → (c : Call) → c.Answer × σ) {context : Context} {node : Node}
  {configs : List Value}

/-- What the requests of a node come to together. -/
def gathered (landings : List Landing) : Except Fault Draft :=
  match firstFailure? landings with
  | some (_, fault) => .error fault
  | none => .ok (merge landings)

/-- What a node does about what its requests come to. -/
def settle (context : Context) (node : Node) (kept : Slots) :
    Except Fault Draft → Except Fault Effect
  | .ok changes => succeed context node kept changes
  | .error (.apiCall reason) | .error (.transport reason) => fail context node kept reason
  | .error fault => .error fault

theorem conclude_run (landings : List Landing) (s : σ) :
    ((conclude landings).run.run world s).1 = gathered landings := by
  unfold conclude gathered
  cases firstFailure? landings <;> rfl

theorem request_run (hconfigs : Api.configs node = .ok configs) (base : String) (slots : Slots)
    (s : σ) :
    ((request base node slots).run.run world s).1 =
      gathered ((sendAll (configs.map (Prepared.ofConfig base slots))).run world s).1 := by
  rw [request, hconfigs, Attempt.of_ok_bind, ExceptT.run_bind_lift]
  refine (congrArg Prod.fst (Program.run_bind world s _ _)).trans ?_
  exact conclude_run world _ _

theorem execute_run (hkind : node.kind? = some .api) (slots : Slots) (s : σ) :
    ((node.execute context slots).run.run world s).1 =
      settle context node (Mapping.erase slots Prepared.bodySlot)
        ((request context.apiBase node slots).run.run world s).1 := by
  rw [Node.execute, hkind]
  simp only [execute, ExceptT.run_bind_lift]
  refine (congrArg Prod.fst (Program.run_bind world s _ _)).trans ?_
  generalize (request context.apiBase node slots).run.run world s = told
  obtain ⟨outcome, later⟩ := told
  cases outcome with
  | ok changes => rfl
  | error fault => cases fault <;> rfl

end Outcome

theorem succeed_eq (context : Context) (node : Node) (kept merged : Slots) (misnamed : Bool) :
    let after := Mapping.set (Mapping.erase (Mapping.update kept merged) "apiError") "apiFailed"
      (.bool false)
    succeed context node kept ⟨merged, misnamed⟩ = do
      let next ← context.scenario.next (some node.id) (some "onSuccess") after
      if misnamed then throw .invalidRecord else return .goTo next after [] := by
  intro after
  simp only [succeed, leaveWith, Draft.finish, Draft.update, Draft.ofSlots, Bool.false_or]
  cases misnamed <;> rfl

/-- A failed request at which a node takes its error edge fails it with the text of the fault. -/
theorem settle_of_reason (context : Context) (node : Node) (kept : Slots) {fault : Fault}
    (h : ∃ reason, fault = .apiCall reason ∨ fault = .transport reason) :
    settle context node kept (.error fault) = fail context node kept fault.message := by
  obtain ⟨reason, rfl | rfl⟩ := h
  · rfl
  · rfl

/-- The requests of a node write all that they write, or nothing. If all succeed, what they write is
put together in the order of the requests, whenever each of them was answered; names that are no
texts leave no usable slots. If some fail, the one that does so first is told, if it is of those
that the error edge is for, and the slots are else as they were found. -/
theorem requests_all_or_nothing {σ : Type} (world : σ → (c : Call) → c.Answer × σ)
    (context : Context) {node : Node} (hkind : node.kind? = some .api) {configs : List Value}
    (hconfigs : Api.configs node = .ok configs) (slots : Slots) (s : σ) :
    let landings :=
      ((sendAll (configs.map (Prepared.ofConfig context.apiBase slots))).run world s).1
    let outcome := ((node.execute context slots).run.run world s).1
    let kept := Mapping.erase slots Prepared.bodySlot
    List.Forall₂ (Lands context.apiBase slots) configs landings ∧
      (∀ drafts : List Draft, landings.map Landing.outcome = drafts.map .ok →
        let merged := (drafts.map Draft.slots).foldl Mapping.update []
        let after := Mapping.set (Mapping.erase (Mapping.update kept merged) "apiError")
          "apiFailed" (.bool false)
        outcome = do
          let next ← context.scenario.next (some node.id) (some "onSuccess") after
          if drafts.any Draft.misnamed then throw .invalidRecord else return .goTo next after []) ∧
      ((∃ landing ∈ landings, ∃ fault, landing.outcome = .error fault) →
        ∃ before first later fault, completions landings = before ++ first :: later ∧
          (∀ earlier ∈ before, ∃ draft, earlier.outcome = .ok draft) ∧
          first.outcome = .error fault ∧
          ((∃ reason, fault = .apiCall reason ∨ fault = .transport reason) →
            let after := Mapping.set (Mapping.set kept "apiError" (.text fault.message)) "apiFailed"
              (.bool true)
            outcome = do
              let next ← context.scenario.next (some node.id) (some "onError") after
              return .goTo next after [])) := by
  intro landings outcome kept
  have houtcome : outcome = settle context node kept (gathered landings) := by
    rw [← request_run world hconfigs]
    exact execute_run world hkind slots s
  refine ⟨(sendAll_lands configs).run world s, fun drafts hdrafts => ?_, fun hsome => ?_⟩
  · rw [houtcome, gathered, firstFailure?_of_ok hdrafts, merge_of_ok hdrafts]
    exact succeed_eq context node kept _ _
  · obtain ⟨before, first, later, fault, horder, hbefore, hfails, hfirst⟩ :=
      exists_firstFailure? hsome
    refine ⟨before, first, later, fault, horder, hbefore, hfails, fun hreason => ?_⟩
    rw [houtcome, gathered, hfirst]
    exact settle_of_reason context node kept hreason

namespace Sample

/-- One slow and one fast request, which both write the slot for their body. -/
def requests : List Value := [
  .object [("method", .text "POST"), ("url", .text "/slow"), ("body", .text "one")],
  .object [("method", .text "POST"), ("url", .text "/fast"), ("body", .text "two")]]

def order : Node := ⟨"order", "api", [("isMulti", .bool true), ("apis", .list requests)]⟩

def counter : Context where
  scenario := ⟨"shop", "Shop", "", [order, ⟨"thanks", "message", []⟩, ⟨"trouble", "message", []⟩],
    [⟨"e1", "order", "thanks", some "onSuccess"⟩, ⟨"e2", "order", "trouble", some "onError"⟩],
    some "order"⟩
  session := "s1"
  language := "en"
  apiBase := "http://shop"

def serving (slow fast : Except Fault Http.Response) : Script :=
  { Script.empty with routes := [⟨"POST", "http://shop/slow", ⟨slow, 5⟩⟩,
      ⟨"POST", "http://shop/fast", ⟨fast, 1⟩⟩] }

def ann : Slots := [("name", .text "Ann")]

end Sample

/-- The fast request is answered first. What the slow one writes comes before what it writes, and
its failure before that of the slow one. -/
theorem order_is_all_or_nothing :
    let outcome (slow fast : Except Fault Http.Response) :=
      ((Sample.order.execute Sample.counter Sample.ann).run.run Script.answer
        (Sample.serving slow fast)).1
    (∃ next, next.id = "thanks" ∧ outcome (.ok ⟨200, ""⟩) (.ok ⟨200, ""⟩) =
        .ok (.goTo (some next) [("name", .text "Ann"), ("_lastApiRequestBody", .text "two"),
          ("apiFailed", .bool false)] [])) ∧
      ∃ next, next.id = "trouble" ∧ outcome (.error (.transport "down")) (.ok ⟨500, "no"⟩) =
        .ok (.goTo (some next) [("name", .text "Ann"),
          ("apiError", .text "API request failed with status 500. Body: no"),
          ("apiFailed", .bool true)] []) := by
  intro outcome
  have hkind : Sample.order.kind? = some .api := rfl
  have hconfigs : Api.configs Sample.order = .ok Sample.requests := rfl
  have hall (slow fast : Except Fault Http.Response) :=
    requests_all_or_nothing Script.answer Sample.counter hkind hconfigs Sample.ann
      (Sample.serving slow fast)
  constructor
  · obtain ⟨-, hsuccess, -⟩ := hall (.ok ⟨200, ""⟩) (.ok ⟨200, ""⟩)
    exact ⟨_, rfl, hsuccess [⟨[("_lastApiRequestBody", .text "one")], false⟩,
      ⟨[("_lastApiRequestBody", .text "two")], false⟩] rfl⟩
  · obtain ⟨-, -, hfailure⟩ := hall (.error (.transport "down")) (.ok ⟨500, "no"⟩)
    obtain ⟨before, first, later, fault, horder, hbefore, hfails, htold⟩ :=
      hfailure ⟨_, List.mem_cons_self, _, rfl⟩
    let slow : Landing := ⟨.error (.transport "down"), 5⟩
    let fast : Landing := ⟨.error (.apiCall "API request failed with status 500. Body: no"), 1⟩
    have hlandings : ((sendAll (Sample.requests.map
        (Prepared.ofConfig Sample.counter.apiBase Sample.ann))).run Script.answer
          (Sample.serving (.error (.transport "down")) (.ok ⟨500, "no"⟩))).1 = [slow, fast] := rfl
    have hswapped : completions [slow, fast] = [fast, slow] := by
      simp [completions, List.mergeSort, slow, fast]
    rw [hlandings, hswapped] at horder
    cases before with
    | nil =>
        obtain ⟨rfl, -⟩ := List.cons.inj horder
        cases hfails
        exact ⟨_, rfl, htold ⟨_, .inl rfl⟩⟩
    | cons earlier before =>
        obtain ⟨rfl, -⟩ := List.cons.inj horder
        obtain ⟨draft, hok⟩ := hbefore fast List.mem_cons_self
        cases hok

end Node.Api

end Dialogue
