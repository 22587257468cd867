import Dialogue.Proofs.Session.Param
import Dialogue.Proofs.Session.Record
import Dialogue.Run.Walk
/-!
Nodes that show a page of their own. The page learns the session when the node is executed and the
slots when it is shown, and the second sees only what the first has left of the template.
-/
namespace Dialogue.Node

open Template Url Session

section Rendering

variable {slots : Slots} {encodeQuery : Bool} {name : String} {data : Mapping Value}

/-- The field can be shown. -/
def Shows (slots : Slots) (encodeQuery : Bool) (name : String) (data : Mapping Value) : Prop :=
  ∀ v, Mapping.get? data name = some v → v.truthy = true →
    ∃ text, Template.fill v (.object slots) encodeQuery = .ok text

theorem fillField_shows (h : Shows slots encodeQuery name data) :
    ∃ filled, fillField slots encodeQuery name data = .ok filled ∧
      ∀ other, other ≠ name → Mapping.get? filled other = Mapping.get? data other := by
  unfold fillField
  cases hv : Mapping.get? data name with
  | none => exact ⟨data, rfl, fun _ _ => rfl⟩
  | some v =>
      by_cases htruthy : v.truthy = true
      · obtain ⟨text, htext⟩ := h v hv htruthy
        refine ⟨Mapping.set data name (.text text), ?_, ?_⟩
        · simp only [htruthy, htext, if_true]
          rfl
        intro other hother
        simp [Ne.symm hother]
      · exact ⟨data, by simp [htruthy], fun _ _ => rfl⟩

theorem fillField_text {s text : String} (hs : s ≠ "")
    (hdata : Mapping.get? data name = some (.text s))
    (htext : fillText s (.object slots) encodeQuery = .ok text) :
    fillField slots encodeQuery name data = .ok (Mapping.set data name (.text text)) := by
  have htruthy : (Value.text s).truthy = true := by simp [Value.truthy, hs]
  simp only [fillField, hdata, htruthy, if_true, Template.fill, htext]
  rfl

/-- A frame is shown with its url filled in. -/
theorem render_frame {node : Node} {url text : String} (hkind : node.kind? = some .iframe)
    (hcontent : Shows slots false "content" (Value.storableFields node.data)) (hsome : url ≠ "")
    (hurl : Mapping.get? node.data "url" = some (.text url))
    (htext : fillText url (.object slots) true = .ok text) :
    ∃ shown, node.render slots = .ok shown ∧ shown.get "url" = .text text := by
  obtain ⟨data, hdata, hothers⟩ := fillField_shows hcontent
  have hstored : Mapping.get? data "url" = some (.text url) := by
    rw [hothers "url" (by decide), Mapping.get?_storableFields, hurl]
    rfl
  have hfilled := fillField_text hsome hstored htext
  refine ⟨{ node with data := Mapping.set data "url" (.text text) }, ?_, ?_⟩
  · simp only [render, hdata, hkind, fillKind, bind, Except.bind, hfilled]
    rfl
  · simp [get]

end Rendering

theorem appendParam_ne_empty {url session marked : String} (hurl : url ≠ "")
    (h : appendParam url session = .ok marked) : marked ≠ "" := by
  have hsome : url.toList ≠ [] := by simpa [String.toList_eq_nil_iff] using hurl
  obtain ⟨parts, -, rfl⟩ := appendParam_cases h
  rw [Ne, String.ofList_eq_empty_iff]
  split
  · simp only [appendToQuery]
    split
    · exact hsome
    · simp [Parts.join]
  · unfold appendPlain
    split
    · exact hsome
    · simp

section Frames

variable {context : Context} {node : Node} {slots : Slots}

theorem execute_frame {url marked : String} (hkind : node.kind? = some .iframe)
    (hsession : context.session ≠ "") (hsome : url ≠ "") (hurl : node.get "url" = .text url)
    (hmarked : appendParam url context.session = .ok marked) :
    node.execute context slots = Attempt.of
      (.ok (.waitAt { node with data := Mapping.set node.data "url" (.text marked) } slots)) := by
  have htruthy : (Value.text url).truthy = true := by simp [Value.truthy, hsome]
  simp only [execute, hkind, executeIframe, hurl, htruthy, hsession, appendParamTo, hmarked]
  rfl

/-- A run that comes to a frame surfaces it. -/
theorem walk_frame {url marked text : String} (hkind : node.kind? = some .iframe)
    (hcontent : Shows slots false "content" (Value.storableFields node.data))
    (hsession : context.session ≠ "") (hsome : url ≠ "") (hurl : node.get "url" = .text url)
    (hmarked : appendParam url context.session = .ok marked) (hkept : marked ≠ "")
    (htext : fillText marked (.object slots) true = .ok text) (remaining steps : Nat)
    (events : List Event) :
    ∃ shown, (Run.walk context (remaining + 1) steps (some node) slots events).run =
        .done (.ok (.surfaced shown false slots events (steps + 1))) ∧
      shown.get "url" = .text text := by
  let framed : Node := { node with data := Mapping.set node.data "url" (.text marked) }
  have hframed : Shows slots false "content" (Value.storableFields framed.data) := by
    intro v hv
    rw [Mapping.get?_storableFields, Mapping.get?_set, if_neg (by decide),
      ← Mapping.get?_storableFields] at hv
    exact hcontent v hv
  have hset : Mapping.get? framed.data "url" = some (.text marked) := by simp [framed]
  obtain ⟨shown, hrender, hshown⟩ : ∃ shown, framed.render slots = .ok shown ∧
      shown.get "url" = .text text := render_frame hkind hframed hkept hset htext
  refine ⟨shown, ?_, hshown⟩
  have hasks : decide (framed.kind? = some .slotfilling) = false := by
    rw [show framed.kind? = node.kind? from rfl, hkind]
    rfl
  have hsurface : Run.surface context.language framed slots (events ++ []) (steps + 1) =
      .surfaced shown false slots events (steps + 1) := by
    rw [Run.surface, hrender, List.append_nil]
    simp only [hasks]
  rw [Run.walk, execute_frame hkind hsession hsome hurl hmarked]
  have hreturn := congrArg (fun result => (pure result : Attempt Run.Result).run) hsurface
  exact hreturn

/-- The page of a frame that a run surfaces is read back like the template filled in, with the
session after its pairs unless it is there already, just if the session is in the query already or
every value is read the same when its holes have been encoded. In single braces they are not. -/
theorem frame_composes_iff (context : Context) (remaining steps : Nat) (events : List Event)
    {p : Page} (hkind : node.kind? = some .iframe)
    (hurl : node.get "url" = .text (String.ofList p.text))
    (hcontent : Shows slots false "content" (Value.storableFields node.data))
    (hsession : context.session ≠ "")
    (hplain : plainBraces (encodeField context.session.toList) = encodeField context.session.toList)
    (hp : p.Fits) (hbare : p.Suits fun _ => none) (hclear : p.Clear)
    (hanswered : p.Answered (.object slots)) (hsuits : p.Suits (Page.said (.object slots))) :
    ∃ shown url template urlParts templateParts,
      (Run.walk context (remaining + 1) steps (some node) slots events).run =
          .done (.ok (.surfaced shown false slots events (steps + 1))) ∧
        shown.get "url" = .text url ∧
        fillText (String.ofList p.text) (.object slots) true = .ok template ∧
        split url.toList = .ok urlParts ∧ split template.toList = .ok templateParts ∧
        (decodeQuery urlParts.query =
            Page.withSession context.session.toList (decodeQuery templateParts.query) ↔
          paramName ∈ (decodeQuery templateParts.query).map Prod.fst ∨
            ∀ name value, .templated name value ∈ p.fields →
              reading (Page.said (.object slots)) (value.flatMap Piece.coded) =
                reading (Page.said (.object slots)) value) := by
  obtain ⟨marked, url, template, urlParts, templateParts, hmarked, hfilled, htemplate, hparts⟩ :=
    Page.appendParam_composes_iff hp hbare hclear hplain hanswered hsuits
  have hsome : String.ofList p.text ≠ "" := by
    simp [String.ofList_eq_empty_iff, Page.text, front]
  have hkept := appendParam_ne_empty hsome hmarked
  obtain ⟨shown, hwalk, hshown⟩ :=
    walk_frame hkind hcontent hsession hsome hurl hmarked hkept hfilled remaining steps events
  exact ⟨shown, url, template, urlParts, templateParts, hwalk, hshown, htemplate, hparts⟩

end Frames

namespace Sample

def orders : Page where
  scheme := "https".toList
  authority := .hole ⟨true, "shop".toList⟩ :: ".e.com".toList.map .plain
  path := "/orders/".toList.map .plain ++ [.hole ⟨false, "id".toList⟩]
  fields := [.templated ['q'] [.hole ⟨true, "term".toList⟩], .literal "lang=ko".toList]
  fragment := none

def frame (url : String) : Node := ⟨"page", "iframe", [("url", .text url)]⟩

def desk (url : String) : Context where
  scenario := ⟨"shop", "Shop", "", [frame url], [], some "page"⟩
  session := "s1"
  language := "en"
  apiBase := ""

def search : Slots := [("shop", .text "s7"), ("id", .int 7), ("term", .text "a b&c")]

theorem shows_frame (slots : Slots) (url : String) :
    Shows slots false "content" (Value.storableFields (frame url).data) := by
  intro v hv
  cases hv

theorem orders_query {name : List Char} {value : List Piece}
    (hfield : .templated name value ∈ orders.fields) {hole : Hole} (hhole : .hole hole ∈ value) :
    hole = ⟨true, "term".toList⟩ := by
  simp only [orders, List.mem_cons, Field.templated.injEq, reduceCtorEq, List.not_mem_nil,
    or_false] at hfield
  rw [hfield.2, List.mem_singleton] at hhole
  exact Piece.hole.inj hhole

theorem orders_answered : orders.Answered (.object search) where
  holes := by
    intro hole hhole
    rcases Page.hole_mem_pieces.1 hhole with h | h | ⟨name, value, hfield, h⟩ | ⟨_, hpieces, _⟩
    · simp only [orders, List.mem_cons, List.mem_map, reduceCtorEq, and_false, exists_false,
        or_false, Piece.hole.injEq] at h
      exact h ▸ ⟨"s7".toList, rfl⟩
    · simp only [orders, List.mem_append, List.mem_map, reduceCtorEq, and_false, exists_false,
        false_or, List.mem_singleton, Piece.hole.injEq] at h
      exact h ▸ ⟨['7'], rfl⟩
    · exact orders_query hfield h ▸ ⟨"a b&c".toList, rfl⟩
    · cases hpieces
  coded := by
    intro name value hfield hole hhole _ hsurvives
    rw [orders_query hfield hhole] at hsurvives
    exact absurd hsurvives (by decide)

end Sample

/-- Both the path and the query get their values, and the session comes after them. -/
theorem orders_compose :
    let context := Sample.desk (String.ofList Sample.orders.text)
    let node := Sample.frame (String.ofList Sample.orders.text)
    context.session ≠ "" ∧ Sample.orders.Answered (.object Sample.search) ∧
      ∃ shown url template urlParts templateParts,
        (Run.walk context 10 0 (some node) Sample.search []).run =
            .done (.ok (.surfaced shown false Sample.search [] 1)) ∧
          shown.get "url" = .text url ∧
          fillText (String.ofList Sample.orders.text) (.object Sample.search) true = .ok template ∧
          split url.toList = .ok urlParts ∧ split template.toList = .ok templateParts ∧
          decodeQuery urlParts.query =
            Page.withSession context.session.toList (decodeQuery templateParts.query) := by
  intro context node
  have hsession : context.session ≠ "" := by decide
  have hclear : Sample.orders.Clear := by decide +kernel
  have hsurvive (name : List Char) (value : List Piece)
      (hfield : .templated name value ∈ Sample.orders.fields) (hole : Hole)
      (hhole : .hole hole ∈ value) : hole.survives = true := by
    rw [Sample.orders_query hfield hhole]
    decide
  have hkind : node.kind? = some .iframe := rfl
  obtain ⟨shown, url, template, urlParts, templateParts, hwalk, hurl, htemplate, hsplit, hsplit',
      hiff⟩ :=
    frame_composes_iff context 9 0 [] (p := Sample.orders) hkind rfl
      (Sample.shows_frame _ _) hsession (by decide) (by decide) (by decide) hclear
      Sample.orders_answered (by decide +kernel)
  refine ⟨hsession, Sample.orders_answered, shown, url, template, urlParts, templateParts, hwalk,
    hurl, htemplate, hsplit, hsplit', hiff.2 (.inr fun name value hfield => ?_)⟩
  exact reading_of_survives (hclear.fields _ hfield).2.2 (hsurvive name value hfield)

theorem Sample.perform_desk (url : String) (slots : Slots) :
    Run.perform ⟨desk url, ⟨2024, 1, 1⟩, 10⟩ ⟨none, false, slots⟩ .none =
      Run.walk (desk url) 10 0 (some (frame url)) slots [] := by
  rfl

/-- A slot in single braces never comes to the page: it is asked for the braces. -/
theorem single_braces_stay :
    ∃ shown urlParts templateParts,
      (Run.perform ⟨Sample.desk "https://e.com/p?q=\x7bname\x7d", ⟨2024, 1, 1⟩, 10⟩
          ⟨none, false, [("name", .text "Ann")]⟩ .none).run =
          .done (.ok (.surfaced shown false [("name", .text "Ann")] [] 1)) ∧
        shown.get "url" = .text "https://e.com/p?q=%7Bname%7D&scenario_session_id=s1" ∧
        fillText "https://e.com/p?q=\x7bname\x7d" (.object [("name", .text "Ann")]) true =
          .ok "https://e.com/p?q=Ann" ∧
        split "https://e.com/p?q=%7Bname%7D&scenario_session_id=s1".toList = .ok urlParts ∧
        split "https://e.com/p?q=Ann".toList = .ok templateParts ∧
        decodeQuery urlParts.query = [("q".toList, "\x7bname\x7d".toList), (paramName, "s1".toList)] ∧
        Page.withSession "s1".toList (decodeQuery templateParts.query) =
          [("q".toList, "Ann".toList), (paramName, "s1".toList)] := by
  have hmarked : appendParam "https://e.com/p?q=\x7bname\x7d" "s1" =
      .ok "https://e.com/p?q=%7Bname%7D&scenario_session_id=s1" := by rfl
  have htext : fillText "https://e.com/p?q=%7Bname%7D&scenario_session_id=s1"
      (.object [("name", .text "Ann")]) true =
        .ok "https://e.com/p?q=%7Bname%7D&scenario_session_id=s1" := by rfl
  have hkind : (Sample.frame "https://e.com/p?q=\x7bname\x7d").kind? = some .iframe := rfl
  have hsession : (Sample.desk "https://e.com/p?q=\x7bname\x7d").session ≠ "" := by decide
  obtain ⟨shown, hwalk, hshown⟩ := walk_frame hkind (Sample.shows_frame _ _) hsession (by decide)
    rfl hmarked (by decide) htext 9 0 []
  rw [Sample.perform_desk]
  exact ⟨shown, ⟨"https".toList, "e.com".toList, "/p".toList,
      "q=%7Bname%7D&scenario_session_id=s1".toList, []⟩,
    ⟨"https".toList, "e.com".toList, "/p".toList, "q=Ann".toList, []⟩, hwalk, hshown, by rfl, by rfl,
    by rfl, by decide +kernel, by decide +kernel⟩

end Dialogue.Node
