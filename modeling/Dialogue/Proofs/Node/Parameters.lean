import Dialogue.Node.Request
import Dialogue.Proofs.Url.Appended
/-!
The parameters of a request that only asks. They are written behind its URL as it stands, so they
come to its query, after the pairs that it has already, unless the URL has a fragment.
-/
namespace Dialogue.Url

open Dialogue.Text

variable {param : Param}

theorem decodeQuery_encodeQuery_append (front : List Char) (param : Param) (params : List Param) :
    decodeQuery (front ++ encodeQuery (param :: params)) =
      decodeQuery (front ++ encodeParam param) ++ params := by
  cases params with
  | nil => simp [encodeQuery]
  | cons next params =>
      rw [encodeQuery, ← List.append_assoc, decodeQuery_append, decodeQuery_encodeQuery]
      simp

theorem decodeField_question (cs : List Char) : decodeField ('?' :: cs) = '?' :: decodeField cs := by
  rw [decodeField_eq, List.map_cons, show plusToSpace '?' = '?' from rfl, decode,
    octetsFrom_plain (by decide)]
  exact decodeOctets_append ['?'] _

/-- A question mark before a parameter is taken for a part of its name. -/
theorem decodeParam_question (param : Param) :
    decodeParam ('?' :: encodeParam param) = ('?' :: param.1, param.2) := by
  have hname : '=' ∉ '?' :: encodeField param.1 := by
    simp [not_mem_encodeField (show isUnreserved '=' = false by decide) (by decide) (by decide)]
  rw [encodeParam, ← List.cons_append, decodeParam_append hname, decodeField_question,
    decodeField_encodeField, decodeField_encodeField]

/-- Behind a second question mark the parameters do not come after the pairs before it. -/
theorem decodeQuery_question_ne (query : List Char) (param : Param) (params : List Param) :
    decodeQuery (query ++ '?' :: encodeQuery (param :: params)) ≠
      decodeQuery query ++ param :: params := by
  by_cases hand : '&' ∈ query
  · obtain ⟨front, back, rfl, -⟩ := List.eq_append_cons_of_mem hand
    rw [List.append_assoc, List.cons_append, decodeQuery_append, decodeQuery_append,
      List.append_assoc]
    exact fun heq => decodeQuery_question_ne back param params (List.append_cancel_left heq)
  · have hfield : '&' ∉ query ++ '?' :: encodeParam param := by
      simp [hand, not_mem_encodeParam (show isUnreserved '&' = false by decide) (by decide)
        (by decide) (by decide)]
    have hsome : query ++ '?' :: encodeParam param ≠ [] := by simp
    have hfront := decodeQuery_encodeQuery_append (query ++ ['?']) param params
    simp only [List.append_assoc, List.singleton_append] at hfront
    rw [hfront, decodeQuery_field hfield, if_neg hsome, decodeQuery_field hand]
    by_cases hquery : query = []
    · rw [if_pos hquery, hquery, List.nil_append, decodeParam_question]
      intro heq
      have hname := congrArg (fun param => param.1.length) (List.head_eq_of_cons_eq heq)
      simp at hname
    · rw [if_neg hquery]
      intro heq
      have hlength := congrArg List.length heq
      simp at hlength
termination_by query.length

end Dialogue.Url

namespace Dialogue.Node.Prepared

open Dialogue.Text Dialogue.Url

variable {base : String} {config fields : Mapping Value} {slots : Slots} {plain : String}
  {values : List String} {url : List Char} {stated : List Param}

/-- The names of parameters with their values, those left out whose value says nothing. -/
def pairs (fields : Mapping Value) (values : List String) : List Param :=
  ((fields.map fun field => field.1.toList).zip (values.map String.toList)).filter fun param =>
    param.2 ≠ []

theorem params_eq
    (h : fields.mapM (fun field => Template.fill field.2 (.object slots) false) = .ok values) :
    params slots fields = .ok (pairs fields values) := by
  induction fields generalizing values with
  | nil => rfl
  | cons field fields ih =>
      obtain ⟨name, template⟩ := field
      rw [List.mapM_cons] at h
      cases hvalue : Template.fill template (.object slots) false with
      | error fault =>
          rw [hvalue] at h
          cases h
      | ok value =>
          cases hothers : fields.mapM fun field => Template.fill field.2 (.object slots) false with
          | error fault =>
              rw [hvalue, hothers] at h
              cases h
          | ok others =>
              rw [hvalue, hothers] at h
              cases h
              simp only [params, hvalue, ih hothers, bind, Except.bind, pure, Except.pure]
              by_cases hempty : value.toList = [] <;> simp [pairs, hempty]

theorem addBase_append {mark : Char} (h : mark ≠ '/') (url text : List Char) :
    addBase base (url ++ mark :: text) = addBase base url ++ mark :: text := by
  cases url with
  | nil => simp [addBase, h]
  | cons c url =>
      by_cases hc : c = '/'
      · simp [addBase, hc]
      · simp [addBase, hc]

theorem mem_addBase {c : Char} (h : c ∈ url) : c ∈ addBase base url := by
  unfold addBase
  split
  · exact List.mem_append_right _ h
  · exact h

/-- Parameters stand at the end of the URL with its base, behind a mark that the URL without its
base decides. -/
theorem addBase_addParams (base : String) (url : List Char) (h : stated ≠ []) :
    ∃ mark, Joins (addBase base url) mark ∧ (mark = '&' ↔ '?' ∈ url) ∧
      addBase base (addParams url stated) = addBase base url ++ mark :: encodeQuery stated := by
  have hsome : stated.isEmpty = false := by simpa using h
  by_cases hquery : '?' ∈ url
  · refine ⟨'&', .inr ⟨rfl, mem_addBase hquery⟩, by simp [hquery], ?_⟩
    rw [addParams, hsome, ← addBase_append (by decide)]
    simp [hquery]
  · refine ⟨'?', .inl rfl, by simp [hquery], ?_⟩
    rw [addParams, hsome, ← addBase_append (by decide)]
    simp [hquery]

theorem url_eq {method : String}
    (hurl : Template.fill ((Mapping.get? config "url").getD (.text "")) (.object slots) true =
      .ok plain)
    (hstated : queryParams method config slots = .ok stated) :
    Prepared.url base method config slots =
      .ok (String.ofList (addBase base (addParams plain.toList stated))) := by
  simp only [Prepared.url, hurl, hstated, bind, Except.bind, pure, Except.pure]

/-- Parameters that are written behind a URL are read from its query exactly if it has no fragment,
and no question mark that is not seen where they are written. -/
theorem append_reads_iff {mark : Char} (hjoins : Joins url mark) (h : stated ≠ []) {parts : Parts}
    (hsplit : split url = .ok parts) :
    (decodeQuery (parts.append url mark (encodeQuery stated)).query =
          decodeQuery parts.query ++ stated ∧
        (parts.append url mark (encodeQuery stated)).fragment = parts.fragment) ↔
      '#' ∉ url ∧ ('?' ∈ url → mark = '&') := by
  obtain ⟨param, others, rfl⟩ := List.exists_cons_of_ne_nil h
  unfold Parts.append
  by_cases hhash : '#' ∈ url
  · simp [hhash]
  by_cases hquery : '?' ∈ url
  · simp only [hhash, hquery, if_true, if_false, and_true, not_false_eq_true, true_and, forall_const]
    rcases hjoins.cases with rfl | rfl
    · simp [decodeQuery_question_ne]
    · simp [decodeQuery_append, decodeQuery_encodeQuery]
  · have hnone : parts.query = [] := query_of_not_mem hsplit hquery
    simp [hhash, hquery, hnone, decodeQuery_encodeQuery, show decodeQuery [] = [] from rfl]

/-- The URL of a request that only asks is read back like its own URL with its base, and the
parameters that say something after the pairs of its query, in their order, exactly if there are
none or the URL has no fragment and no question mark comes with the base alone. In a URL with a
fragment the parameters go into the fragment. -/
theorem parameters_arrive_iff (base : String)
    (hurl : Template.fill ((Mapping.get? config "url").getD (.text "")) (.object slots) true =
      .ok plain)
    (hfields : fieldOf config "params" = .object fields)
    (hvalues : fields.mapM (fun field => Template.fill field.2 (.object slots) false) =
      .ok values) :
    ∃ built, Prepared.url base "GET" config slots = .ok built ∧
      (∀ fault, split (addBase base plain.toList) = .error fault →
        split built.toList = .error fault) ∧
      ∀ parts, split (addBase base plain.toList) = .ok parts →
        ∃ builtParts, split built.toList = .ok builtParts ∧ builtParts.path = parts.path ∧
          ((decodeQuery builtParts.query = decodeQuery parts.query ++ pairs fields values ∧
              builtParts.fragment = parts.fragment) ↔
            pairs fields values = [] ∨
              '#' ∉ addBase base plain.toList ∧
                ('?' ∈ addBase base plain.toList → '?' ∈ plain.toList)) := by
  have hstated : queryParams "GET" config slots = .ok (pairs fields values) := by
    rw [queryParams, hfields]
    exact params_eq hvalues
  refine ⟨_, url_eq hurl hstated, ?_⟩
  rw [String.toList_ofList]
  by_cases hnone : pairs fields values = []
  · rw [hnone, addParams, List.isEmpty_nil, if_pos rfl]
    exact ⟨fun fault h => h, fun parts hsplit => ⟨parts, hsplit, rfl, by simp⟩⟩
  · obtain ⟨mark, hjoins, hmark, hbuilt⟩ := addBase_addParams base plain.toList hnone
    rw [hbuilt, split_append hjoins (encodeQuery_chars _)]
    refine ⟨fun fault h => by rw [h]; rfl, fun parts hsplit => ?_⟩
    refine ⟨_, by rw [hsplit]; rfl, parts.path_append _ _ _, ?_⟩
    rw [append_reads_iff hjoins hnone hsplit, hmark]
    simp [hnone]

def lookup : Mapping Value :=
  [("url", .text "/search?lang={lang}"),
    ("params", .object [("q", .text "{term}"), ("page", .text ""), ("sort", .text "a+b")])]

def wishes : Slots := [("lang", .text "ko"), ("term", .text "50% off & more")]

theorem lookup_parameters_arrive :
    Template.fill ((Mapping.get? lookup "url").getD (.text "")) (.object wishes) true =
        .ok "/search?lang=ko" ∧
      ∃ built builtParts, Prepared.url "http://backend.test" "GET" lookup wishes = .ok built ∧
        split built.toList = .ok builtParts ∧ builtParts.path = "/search".toList ∧
        decodeQuery builtParts.query =
          [("lang".toList, "ko".toList), (['q'], "50% off & more".toList),
            ("sort".toList, "a+b".toList)] ∧
        builtParts.fragment = [] := by
  have hurl : Template.fill ((Mapping.get? lookup "url").getD (.text "")) (.object wishes) true =
      .ok "/search?lang=ko" := by rfl
  have hvalues : [("q", Value.text "{term}"), ("page", .text ""), ("sort", .text "a+b")].mapM
      (fun field => Template.fill field.2 (.object wishes) false) =
        .ok ["50% off & more", "", "a+b"] := by rfl
  let plain : Parts := ⟨"http".toList, "backend.test".toList, "/search".toList, "lang=ko".toList, []⟩
  have hplain : split (addBase "http://backend.test" "/search?lang=ko".toList) = .ok plain := by rfl
  obtain ⟨built, hbuilt, -, hparts⟩ :=
    parameters_arrive_iff "http://backend.test" hurl (show fieldOf lookup "params" = _ from rfl) hvalues
  obtain ⟨builtParts, hsplit, hpath, hiff⟩ := hparts plain hplain
  obtain ⟨hquery, hfragment⟩ := hiff.2 (.inr ⟨by decide, fun _ => by decide⟩)
  refine ⟨hurl, built, builtParts, hbuilt, hsplit, hpath, hquery.trans ?_, hfragment⟩
  decide +kernel

/-- The parameters of a URL with a fragment are no part of its query. -/
theorem fragment_takes_parameters :
    Prepared.url "" "GET"
        [("url", .text "https://e.com/p#top"), ("params", .object [("q", .text "{term}")])]
        [("term", .text "red shoes")] = .ok "https://e.com/p#top?q=red+shoes" ∧
      pairs [("q", .text "{term}")] ["red shoes"] = [(['q'], "red shoes".toList)] ∧
      ∃ parts builtParts, split "https://e.com/p#top".toList = .ok parts ∧
        split "https://e.com/p#top?q=red+shoes".toList = .ok builtParts ∧
        decodeQuery parts.query = [] ∧ decodeQuery builtParts.query = [] ∧
        parts.fragment = "top".toList ∧ builtParts.fragment = "top?q=red+shoes".toList := by
  refine ⟨by rfl, by decide, ⟨"https".toList, "e.com".toList, "/p".toList, [], "top".toList⟩,
    ⟨"https".toList, "e.com".toList, "/p".toList, [], "top?q=red+shoes".toList⟩, by rfl, by rfl, rfl,
    rfl, rfl, rfl⟩

end Dialogue.Node.Prepared
