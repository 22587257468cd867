import Dialogue.Proofs.Template.Sent
import Dialogue.Proofs.Url.Appended
import Dialogue.Session.Param
/-!
Web addresses with the parameter of a session, and templates of such addresses. What is filled in is
the template after its query has been read, extended and encoded again.
-/
namespace Dialogue.Session

open Dialogue.Text Dialogue.Url

section Adding

variable {url session : List Char} {parts : Parts}

/-- The parts of a URL with the parameter of a session at the end of the query. -/
def pushed (session : List Char) (parts : Parts) : Parts :=
  { parts with query := encodeQuery (decodeQuery parts.query ++ [(paramName, session)]) }

theorem any_paramName (params : List Param) :
    params.any (fun param => param.1 = paramName) = decide (paramName ∈ params.map Prod.fst) := by
  rw [List.any_eq]
  simp [eq_comm]

theorem appendToQuery_of_mem (h : paramName ∈ (decodeQuery parts.query).map Prod.fst) :
    appendToQuery url session parts = url := by
  rw [appendToQuery, any_paramName, decide_eq_true h]
  rfl

theorem appendToQuery_of_not_mem (h : paramName ∉ (decodeQuery parts.query).map Prod.fst) :
    appendToQuery url session parts = (pushed session parts).join := by
  rw [appendToQuery, any_paramName, decide_eq_false h]
  rfl

theorem appendParam_absolute (h : split url = .ok parts) (habsolute : parts.isAbsolute = true)
    (session : String) :
    appendParam (String.ofList url) session =
      .ok (String.ofList (appendToQuery url session.toList parts)) := by
  simp only [appendParam, String.toList_ofList, h, bind, Except.bind, habsolute, if_true]
  rfl

theorem appendParam_relative (h : split url = .ok parts) (hrelative : parts.isAbsolute = false)
    (session : String) :
    appendParam (String.ofList url) session =
      .ok (String.ofList (appendPlain url session.toList)) := by
  simp only [appendParam, String.toList_ofList, h, bind, Except.bind, hrelative,
    Bool.false_eq_true, if_false]
  rfl

theorem appendParam_cases {url session marked : String} (h : appendParam url session = .ok marked) :
    ∃ parts, split url.toList = .ok parts ∧
      marked = String.ofList (if parts.isAbsolute then appendToQuery url.toList session.toList parts
        else appendPlain url.toList session.toList) := by
  unfold appendParam at h
  cases hsplit : split url.toList with
  | error fault =>
      rw [hsplit] at h
      cases h
  | ok parts =>
      simp only [hsplit, bind, Except.bind] at h
      refine ⟨parts, rfl, ?_⟩
      split at h <;> rename_i habsolute
      · rw [if_pos habsolute]
        cases h
        rfl
      · rw [if_neg habsolute]
        cases h
        rfl

end Adding

end Dialogue.Session

namespace Dialogue.Template

open Dialogue.Text Dialogue.Url Dialogue.Session

section Urls

theorem plainBraces_cons {c : Char} (h : c ∉ ['%', '7', 'B', 'D']) (b : List Char) :
    plainBraces (c :: b) = c :: plainBraces b :=
  plainBraces_append h [] b

theorem plainBraces_part {mark : Char} (h : mark ∉ ['%', '7', 'B', 'D']) (a : List Char)
    (part : Option (List Char)) :
    plainBraces (a ++ part.elim [] (mark :: ·)) =
      plainBraces a ++ (part.map plainBraces).elim [] (mark :: ·) := by
  cases part with
  | none => simp
  | some b => exact plainBraces_append h a b

theorem plainBraces_intercalate (fields : List (List Char)) :
    plainBraces (['&'].intercalate fields) = ['&'].intercalate (fields.map plainBraces) := by
  induction fields with
  | nil => rfl
  | cons field fields ih =>
      cases fields with
      | nil => simp
      | cons next fields =>
          simp only [List.intercalate_cons_cons, List.map_cons, List.append_assoc,
            List.singleton_append] at ih ⊢
          rw [plainBraces_append (by decide), ih]

theorem plainBraces_url {scheme authority path : List Char} (hscheme : isScheme scheme = true)
    (hfront : plainBraces (authority ++ path) = authority ++ path)
    (query fragment : Option (List Char)) :
    plainBraces (front scheme authority ++ tail path query fragment) =
      front scheme authority ++ tail path (query.map plainBraces) (fragment.map plainBraces) := by
  have hplain : '%' ∉ scheme := fun hmem => absurd (isScheme_chars hscheme hmem) (by decide)
  have htext (query fragment : Option (List Char)) :
      front scheme authority ++ tail path query fragment =
        scheme ++ ':' :: '/' :: '/' :: (authority ++ path ++ query.elim [] ('?' :: ·) ++
          fragment.elim [] ('#' :: ·)) := by
    simp [front, tail]
  rw [htext, htext, plainBraces_append (by decide), plainBraces_of_plain hplain,
    plainBraces_cons (by decide), plainBraces_cons (by decide), plainBraces_part (by decide),
    plainBraces_part (by decide), hfront]

/-- A URL is put together from its parts as it was written, an empty fragment aside. -/
theorem join_parts (scheme authority : List Char) {path : List Char} (hpath : IsRooted path)
    {query : List Char} (hquery : query ≠ []) (fragment : List Char) :
    (Parts.mk scheme authority path query fragment).join =
      front scheme authority ++
        tail path (some query) (if fragment = [] then none else some fragment) := by
  have hrooted : (path.isEmpty || path.head? = some '/') = true := by
    rcases hpath with rfl | h
    · rfl
    · simp [h]
  unfold Parts.join
  rw [if_pos hrooted]
  by_cases hfragment : fragment = []
  · simp [marked, hquery, hfragment, front, tail]
  · simp [marked, hquery, hfragment, front, tail]

end Urls

namespace Page

variable {p : Page} {session : List Char} {texts : List Char → Option (List Char)}

/-- The page with the parameter of a session. -/
def sent (session : List Char) (p : Page) : Page where
  scheme := p.scheme.map Char.toLower
  authority := p.authority
  path := p.path
  fields := p.fields.flatMap Field.sent ++ [.literal (encodeParam (paramName, session))]
  fragment := p.fragment.filter fun pieces => written pieces ≠ []

/-- Only the holes of the page are in braces, written as such or encoded. -/
structure Clear (p : Page) : Prop where
  kept : ∀ c ∈ p.text, isKept c = true
  front : plainBraces (written p.authority ++ written p.path) = written p.authority ++ written p.path
  fields : ∀ field ∈ p.fields, field.Clear
  fragment : ∀ pieces ∈ p.fragment, plainBraces (written pieces) = written pieces

instance (p : Page) : Decidable p.Clear :=
  decidable_of_iff (p.text.all isKept = true ∧
      plainBraces (written p.authority ++ written p.path) = written p.authority ++ written p.path ∧
      (∀ field ∈ p.fields, field.Clear) ∧
      ∀ pieces ∈ p.fragment, plainBraces (written pieces) = written pieces)
    ⟨fun ⟨kept, front, fields, fragment⟩ => ⟨List.all_eq_true.1 kept, front, fields, fragment⟩,
      fun h => ⟨List.all_eq_true.2 h.kept, h.front, h.fields, h.fragment⟩⟩

theorem plainBraces_text (hp : p.Fits) (h : p.Clear) : plainBraces p.text = p.text := by
  have hquery : (p.query Field.text).map plainBraces = p.query Field.text := by
    unfold query
    split
    · rfl
    · rw [Option.map_some, plainBraces_intercalate, List.map_map]
      exact congrArg (fun fields => some (['&'].intercalate fields))
        (List.map_congr_left fun field hfield => Field.plainBraces_text (h.fields field hfield))
  have hfragment : (p.fragment.map written).map plainBraces = p.fragment.map written := by
    cases hpieces : p.fragment with
    | none => rfl
    | some pieces => exact congrArg some (h.fragment pieces hpieces)
  rw [text, plainBraces_url hp.scheme h.front, hquery, hfragment]

theorem written_rooted (hp : p.Fits) : IsRooted (written p.path) := by
  have h := path_rooted hp (fun _ => none)
  rwa [filledPath, Template.filled_none] at h

/-- The template is itself an address, and its query is cut at the fields. -/
theorem split_pieces (hp : p.Fits) (hs : p.Suits fun _ => none) (hclear : p.Clear) :
    ∃ parts, split p.text = .ok parts ∧
      parts = ⟨p.scheme.map Char.toLower, written p.authority, written p.path,
        (p.query Field.text).getD [], (p.fragment.map written).getD []⟩ ∧
      decodeQuery parts.query = p.fields.flatMap (Field.params fun _ => none) := by
  obtain ⟨parts, hsplit, hparts, hquery⟩ := split_filled hp hs
  have hfield : Field.filled (fun _ => none) = Field.text := funext Field.filled_none
  have hpieces : Template.filled true (fun _ => none) none = written :=
    funext (Template.filled_none _)
  have hkept (c : Char)
      (hc : c ∈ tail (written p.path) (p.query Field.text) (p.fragment.map written)) :
      isKept c = true :=
    hclear.kept c (List.mem_append_right _ hc)
  have hkeptPath : kept (written p.path) = written p.path :=
    kept_of_forall fun c hc => hkept c (List.mem_append_left _ hc)
  have hkeptFragment :
      kept ((p.fragment.map written).getD []) = (p.fragment.map written).getD [] := by
    refine kept_of_forall fun c hc => hkept c ?_
    cases hpieces : p.fragment.map written with
    | none => simp [hpieces] at hc
    | some pieces =>
        rw [hpieces] at hc
        simp [tail, show c ∈ pieces from hc]
  rw [filled_none] at hsplit
  rw [filledAuthority, filledPath, hfield, hpieces, hkeptPath, hkeptFragment] at hparts
  exact ⟨parts, hsplit, hparts, hquery⟩

theorem map_encodeParam (hp : p.Fits) (hclear : p.Clear)
    (hsession : plainBraces (encodeField session) = encodeField session) :
    (p.fields.flatMap (Field.params fun _ => none) ++ [(paramName, session)]).map
        (fun param => plainBraces (encodeParam param)) =
      (p.sent session).fields.map Field.text := by
  have hparam : plainBraces (encodeParam (paramName, session)) =
      encodeParam (paramName, session) := by
    have hname : plainBraces (encodeField paramName) = encodeField paramName :=
      plainBraces_of_plain (by decide)
    rw [encodeParam, plainBraces_append (by decide), hsession, hname]
  rw [List.map_append, sent, List.map_append, List.map_flatMap, List.map_flatMap]
  refine congr (congrArg HAppend.hAppend ?_) (congrArg ([·]) hparam)
  rw [List.flatMap_def, List.flatMap_def]
  refine congrArg List.flatten (List.map_congr_left fun field hfield => ?_)
  exact Field.plainBraces_params (hclear.fields field hfield) (hp.fields field hfield)

/-- With its braces read again, the template that got the session is the page that is sent. -/
theorem plainBraces_appendToQuery (hp : p.Fits) (hs : p.Suits fun _ => none) (hclear : p.Clear)
    (hsession : plainBraces (encodeField session) = encodeField session) {parts : Parts}
    (hsplit : split p.text = .ok parts)
    (hnew : paramName ∉ (decodeQuery parts.query).map Prod.fst) :
    plainBraces (appendToQuery p.text session parts) = (p.sent session).text := by
  obtain ⟨parts', hsplit', hparts, hquery⟩ := split_pieces hp hs hclear
  rw [hsplit] at hsplit'
  cases hsplit'
  have hencoded : plainBraces (encodeQuery (decodeQuery parts.query ++ [(paramName, session)])) =
      ['&'].intercalate ((p.sent session).fields.map Field.text) := by
    rw [hquery, encodeQuery_eq, plainBraces_intercalate, List.map_map,
      ← map_encodeParam hp hclear hsession]
    rfl
  have hsome : encodeQuery (decodeQuery parts.query ++ [(paramName, session)]) ≠ [] :=
    encodeQuery_ne_nil (by simp)
  have hfragment : (if parts.fragment = [] then none else some parts.fragment).map plainBraces =
      (p.sent session).fragment.map written := by
    rw [hparts, sent]
    cases hpieces : p.fragment with
    | none => rfl
    | some pieces =>
        by_cases hempty : written pieces = []
        · simp [Option.filter, hempty]
        · simp [Option.filter, hempty, hclear.fragment pieces hpieces]
  have hjoin : appendToQuery p.text session parts =
      front (p.scheme.map Char.toLower) (written p.authority) ++ tail (written p.path)
        (some (encodeQuery (decodeQuery parts.query ++ [(paramName, session)])))
        (if parts.fragment = [] then none else some parts.fragment) := by
    rw [appendToQuery_of_not_mem hnew, pushed, ← join_parts _ _ (written_rooted hp) hsome, hparts]
  have hfields : (p.sent session).fields ≠ [] := by simp [sent]
  rw [hjoin, plainBraces_url (isScheme_toLower hp.scheme) hclear.front, hfragment, Option.map_some,
    hencoded, text, query, if_neg hfields]
  rfl

theorem sent_fits (hp : p.Fits) (session : List Char) : (p.sent session).Fits where
  scheme := isScheme_toLower hp.scheme
  authority := hp.authority
  path := hp.path
  rooted := hp.rooted
  fields := by
    intro field hfield
    rcases List.mem_append.1 hfield with hfield | hfield
    · obtain ⟨f, hf, hfield⟩ := List.mem_flatMap.1 hfield
      exact Field.sent_fits (hp.fields f hf) field hfield
    · obtain rfl := List.mem_singleton.1 hfield
      exact braceFree_encodeParam _
  fragment := fun pieces hpieces => hp.fragment pieces (Option.filter_eq_some_iff.1 hpieces).1

theorem sent_suits (hs : p.Suits texts) (hclear : p.Clear)
    (hsilent : ∀ field ∈ p.fields, field.Silent texts) (session : List Char) :
    (p.sent session).Suits texts where
  origin := hs.origin.lower
  path := hs.path
  fields := by
    intro field hfield
    rcases List.mem_append.1 hfield with hfield | hfield
    · obtain ⟨f, hf, hfield⟩ := List.mem_flatMap.1 hfield
      exact Field.sent_chars (hclear.fields f hf) (hsilent f hf) (hs.fields f hf) field hfield
    · obtain rfl := List.mem_singleton.1 hfield
      exact isFieldChar_encodeParam _

theorem params_sent (p : Page) (session : List Char) (texts : List Char → Option (List Char)) :
    (p.sent session).fields.flatMap (Field.params texts) =
      p.fields.flatMap (Field.received texts) ++ [(paramName, session)] := by
  have hsome : encodeParam (paramName, session) ≠ [] := by simp [encodeParam]
  have hlast : (Field.literal (encodeParam (paramName, session))).params texts =
      [(paramName, session)] := by
    rw [Field.params, if_neg hsome, decodeParam_encodeParam]
  rw [sent, List.flatMap_append, List.flatMap_assoc, List.flatMap_singleton, hlast]
  rfl

theorem flatMap_received_iff (fields : List Field) (texts : List Char → Option (List Char)) :
    fields.flatMap (Field.received texts) = fields.flatMap (Field.params texts) ↔
      ∀ name value, .templated name value ∈ fields →
        reading texts (value.flatMap Piece.coded) = reading texts value := by
  have hfields : fields.flatMap (Field.received texts) = fields.flatMap (Field.params texts) ↔
      ∀ field ∈ fields, field.received texts = field.params texts := by
    induction fields with
    | nil => simp
    | cons field fields ih =>
        rw [List.flatMap_cons, List.flatMap_cons, List.forall_mem_cons, ← ih]
        constructor
        · exact fun h => List.append_inj h (field.received_length texts)
        · exact fun h => congr (congrArg HAppend.hAppend h.1) h.2
  rw [hfields]
  simp only [Field.received_eq_params_iff]
  constructor
  · exact fun h name value hfield => h _ hfield name value rfl
  · rintro h field hfield name value rfl
    exact h name value hfield

/-- What a path says, nothing where that cannot be told. -/
def said (data : Value) (path : List Char) : Option (List Char) := (data.textAt path).toOption.join

theorem said_of_ok {data : Value} {path : List Char} {text : Option (List Char)}
    (h : data.textAt path = .ok text) : said data path = text := by
  rw [said, h]
  rfl

/-- Each placeholder of the page has a value, and there is none where a path has been encoded. -/
structure Answered (p : Page) (data : Value) : Prop where
  holes : ∀ h, .hole h ∈ p.pieces → ∃ text, data.textAt h.path = .ok (some text)
  coded : ∀ name value, .templated name value ∈ p.fields → ∀ h, .hole h ∈ value →
    h.doubled = true → h.survives = false → data.textAt h.coded.path = .ok none

/-- The pairs of a query and the session after them, unless it is among them. -/
def withSession (session : List Char) (params : List Param) : List Param :=
  if paramName ∈ params.map Prod.fst then params else params ++ [(paramName, session)]

section Filling

variable {data : Value}

theorem Answered.asked (h : p.Answered data) {hole : Hole} (hhole : .hole hole ∈ p.pieces) :
    data.textAt hole.path = .ok (said data hole.path) := by
  obtain ⟨text, htext⟩ := h.holes hole hhole
  rw [said_of_ok htext, htext]

theorem Answered.sent (h : p.Answered data) (session : List Char) (hole : Hole)
    (hhole : .hole hole ∈ (p.sent session).pieces) :
    data.textAt hole.path = .ok (said data hole.path) := by
  rcases hole_mem_pieces.1 hhole with hauthority | hpath | ⟨name, value, hfield, hvalue⟩ |
    ⟨pieces, hpieces, hmem⟩
  · exact h.asked (hole_mem_pieces.2 (.inl hauthority))
  · exact h.asked (hole_mem_pieces.2 (.inr (.inl hpath)))
  · rcases List.mem_append.1 hfield with hfield | hfield
    · obtain ⟨field, hmember, hsent⟩ := List.mem_flatMap.1 hfield
      cases field with
      | literal text => by_cases htext : text = [] <;> simp [Field.sent, htext] at hsent
      | templated name value =>
          cases List.mem_singleton.1 hsent
          obtain ⟨piece, hpiece, hcoded⟩ := List.mem_flatMap.1 hvalue
          obtain ⟨original, rfl, hdoubled, rfl⟩ := Piece.hole_mem_coded hcoded
          by_cases hsurvives : original.survives = true
          · rw [Hole.coded_of_survives hsurvives]
            exact h.asked (hole_mem_pieces.2 (.inr (.inr (.inl ⟨_, _, hmember, hpiece⟩))))
          · have hnone := h.coded _ _ hmember original hpiece hdoubled
              (Bool.eq_false_iff.2 hsurvives)
            rw [said_of_ok hnone, hnone]
    · cases List.mem_singleton.1 hfield
  · have hfragment := (Option.filter_eq_some_iff.1 hpieces).1
    exact h.asked (hole_mem_pieces.2 (.inr (.inr (.inr ⟨pieces, hfragment, hmem⟩))))

theorem Answered.silent (h : p.Answered data) : ∀ field ∈ p.fields, field.Silent (said data) := by
  intro field hfield
  cases field with
  | literal text => trivial
  | templated name value =>
      exact fun hole hhole hdoubled hsurvives =>
        said_of_ok (h.coded name value hfield hole hhole hdoubled hsurvives)

theorem fillText_sent (hp : p.Fits) (h : p.Answered data) (session : List Char)
    {template : List Char} (htemplate : plainBraces template = (p.sent session).text) :
    fillText (String.ofList template) data true =
      .ok (String.ofList ((p.sent session).filled (said data))) := by
  have hsent := sent_fits hp session
  rw [fillText_written (pieces_fit hsent) (h.sent session)
    (htemplate.trans (written_pieces hsent).symm), filled_pieces hsent]

theorem fillText_page (hp : p.Fits) (hclear : p.Clear) (h : p.Answered data) :
    fillText (String.ofList p.text) data true = .ok (String.ofList (p.filled (said data))) := by
  rw [fillText_written (pieces_fit hp) (fun _ => h.asked)
    ((plainBraces_text hp hclear).trans (written_pieces hp).symm), filled_pieces hp]

/-- The page of a session is read back like the page without it, and the session after it, just if
the session is there already or every value is read the same when its holes have been encoded. -/
theorem appendParam_composes_iff (hp : p.Fits) (hs : p.Suits fun _ => none) (hclear : p.Clear)
    {session : String}
    (hsession : plainBraces (encodeField session.toList) = encodeField session.toList)
    (h : p.Answered data) (hsuits : p.Suits (said data)) :
    ∃ marked url template urlParts templateParts,
      appendParam (String.ofList p.text) session = .ok marked ∧
        fillText marked data true = .ok url ∧
        fillText (String.ofList p.text) data true = .ok template ∧
        split url.toList = .ok urlParts ∧ split template.toList = .ok templateParts ∧
        (decodeQuery urlParts.query = withSession session.toList (decodeQuery templateParts.query) ↔
          paramName ∈ (decodeQuery templateParts.query).map Prod.fst ∨
            ∀ name value, .templated name value ∈ p.fields →
              reading (said data) (value.flatMap Piece.coded) = reading (said data) value) := by
  obtain ⟨parts, hsplit, hparts, hquery⟩ := split_pieces hp hs hclear
  obtain ⟨filledParts, hfilledSplit, -, hfilled⟩ := split_filled hp hsuits
  have habsolute : parts.isAbsolute = true := by
    have hstated : p.filledAuthority (fun _ => none) ≠ [] := hs.origin.stated
    rw [filledAuthority, Template.filled_none] at hstated
    simp [hparts, Parts.isAbsolute, hs.origin.scheme_ne_nil, hstated]
  have hmarked := appendParam_absolute hsplit habsolute session
  have hnames : (decodeQuery parts.query).map Prod.fst =
      (decodeQuery filledParts.query).map Prod.fst := by
    rw [hquery, hfilled, List.map_flatMap, List.map_flatMap]
    exact congrArg p.fields.flatMap (funext fun field => Field.params_names field _ _)
  have htemplate := fillText_page hp hclear h
  by_cases hnew : paramName ∈ (decodeQuery filledParts.query).map Prod.fst
  · rw [appendToQuery_of_mem (hnames ▸ hnew)] at hmarked
    refine ⟨_, _, _, filledParts, filledParts, hmarked, htemplate, htemplate, ?_, ?_, ?_⟩
    · rw [String.toList_ofList]
      exact hfilledSplit
    · rw [String.toList_ofList]
      exact hfilledSplit
    · simp [withSession, hnew]
  · have hsent := plainBraces_appendToQuery hp hs hclear hsession hsplit (hnames ▸ hnew)
    obtain ⟨sentParts, hsentSplit, -, hsentQuery⟩ := split_filled (sent_fits hp session.toList)
      (sent_suits hsuits hclear h.silent session.toList)
    refine ⟨_, _, _, sentParts, filledParts, hmarked, fillText_sent hp h session.toList hsent,
      htemplate, ?_, ?_, ?_⟩
    · rw [String.toList_ofList]
      exact hsentSplit
    · rw [String.toList_ofList]
      exact hfilledSplit
    · rw [hsentQuery, params_sent, withSession, if_neg hnew, List.append_cancel_right_eq, hfilled,
        flatMap_received_iff, or_iff_right (hfilled ▸ hnew)]

end Filling

end Page

end Dialogue.Template

/-!
The parameter of a session is put into a URL once. An absolute URL keeps all its other parts, and its
query is read back with the session at the end; whatever has got a session is left as it is.
-/
namespace Dialogue.Session

open Dialogue.Text Dialogue.Url

variable {url session : List Char} {parts : Parts}

/-- The URL names a session already, in its query if it is absolute. -/
def Marked (url : List Char) : Prop :=
  ∃ parts, split url = .ok parts ∧
    if parts.isAbsolute then paramName ∈ (decodeQuery parts.query).map Prod.fst
    else occursIn (paramName ++ ['=']) url = true

theorem isAbsolute_pushed (session : List Char) (parts : Parts) :
    (pushed session parts).isAbsolute = parts.isAbsolute := rfl

theorem decodeQuery_pushed (session : List Char) (parts : Parts) :
    decodeQuery (pushed session parts).query = decodeQuery parts.query ++ [(paramName, session)] :=
  decodeQuery_encodeQuery _

theorem Marked.appendParam (h : Marked url) (session : String) :
    appendParam (String.ofList url) session = .ok (String.ofList url) := by
  obtain ⟨parts, hsplit, hmarked⟩ := h
  cases habsolute : parts.isAbsolute with
  | true =>
      rw [habsolute, if_pos rfl] at hmarked
      rw [appendParam_absolute hsplit habsolute, appendToQuery_of_mem hmarked]
  | false =>
      rw [habsolute, if_neg Bool.false_ne_true] at hmarked
      rw [appendParam_relative hsplit habsolute, appendPlain, if_pos hmarked]

/-- An absolute URL without a session is cut into its own parts again, with the session behind its
query. -/
theorem split_appendToQuery (h : split url = .ok parts) (habsolute : parts.isAbsolute = true)
    (hnew : paramName ∉ (decodeQuery parts.query).map Prod.fst) (session : List Char) :
    split (appendToQuery url session parts) = .ok (pushed session parts) := by
  have hsome : encodeQuery (decodeQuery parts.query ++ [(paramName, session)]) ≠ [] :=
    encodeQuery_ne_nil (by simp)
  obtain ⟨hrooted, hsplit⟩ := split_rejoined h habsolute
    (encodeQuery_chars (decodeQuery parts.query ++ [(paramName, session)]))
  rw [appendToQuery_of_not_mem hnew, pushed,
    Template.join_parts parts.scheme parts.authority hrooted hsome parts.fragment, hsplit]

theorem marked_appendToQuery (h : split url = .ok parts) (habsolute : parts.isAbsolute = true)
    (session : List Char) : Marked (appendToQuery url session parts) := by
  by_cases hnew : paramName ∈ (decodeQuery parts.query).map Prod.fst
  · rw [appendToQuery_of_mem hnew]
    exact ⟨parts, h, by rwa [if_pos habsolute]⟩
  · refine ⟨_, split_appendToQuery h habsolute hnew session, ?_⟩
    rw [isAbsolute_pushed, if_pos habsolute, decodeQuery_pushed]
    simp

theorem marked_appendPlain (h : split url = .ok parts) (hrelative : parts.isAbsolute = false)
    (session : List Char) : Marked (appendPlain url session) := by
  unfold appendPlain
  split
  · rename_i hoccurs
    exact ⟨parts, h, by rwa [hrelative, if_neg Bool.false_ne_true]⟩
  · obtain ⟨marked, hsplit, hmarked⟩ :=
      exists_split_append (joins_contains url) h (paramName ++ '=' :: session)
    refine ⟨marked, hsplit, ?_⟩
    rw [hmarked, hrelative, if_neg Bool.false_ne_true, occursIn_iff_infix]
    exact ⟨url ++ [if url.contains '?' then '&' else '?'], session, by simp⟩

theorem marked_of_appendParam {url session marked : String}
    (h : appendParam url session = .ok marked) : Marked marked.toList := by
  obtain ⟨parts, hsplit, rfl⟩ := appendParam_cases h
  rw [String.toList_ofList]
  cases habsolute : parts.isAbsolute with
  | true => exact marked_appendToQuery hsplit habsolute session.toList
  | false => exact marked_appendPlain hsplit habsolute session.toList

/-- What a URL comes to that gets the parameter of a session stays as it is when it should get one
again, of whatever session. If it is absolute and has no session in its query it keeps its parts,
and the session comes after the pairs that are read from its query. -/
theorem appendParam_adds_once {url session marked : String}
    (h : appendParam url session = .ok marked) :
    (∀ again, appendParam marked again = .ok marked) ∧
      ∀ parts, split url.toList = .ok parts → parts.scheme ≠ [] → parts.authority ≠ [] →
        paramName ∉ (decodeQuery parts.query).map Prod.fst →
          ∃ markedParts, split marked.toList = .ok markedParts ∧
            markedParts.scheme = parts.scheme ∧ markedParts.authority = parts.authority ∧
            markedParts.path = parts.path ∧ markedParts.fragment = parts.fragment ∧
            decodeQuery markedParts.query =
              decodeQuery parts.query ++ [(paramName, session.toList)] := by
  constructor
  · intro again
    have hmarked := (marked_of_appendParam h).appendParam again
    rwa [String.ofList_toList] at hmarked
  · intro parts hsplit hscheme hauthority hnew
    have habsolute : parts.isAbsolute = true := by simp [Parts.isAbsolute, hscheme, hauthority]
    obtain ⟨parts', hsplit', rfl⟩ := appendParam_cases h
    obtain rfl := Except.ok.inj (hsplit.symm.trans hsplit')
    rw [if_pos habsolute, String.toList_ofList]
    exact ⟨_, split_appendToQuery hsplit habsolute hnew session.toList, rfl, rfl, rfl, rfl,
      decodeQuery_pushed _ _⟩

/-- A blank value, an escape that is none and a name that is given twice are kept, and so is what
the session is called. -/
theorem visit_marked_once :
    ∃ marked,
      appendParam "https://x.test/p?a=&b=%zz&b=1+2#top" "s 1&" = .ok marked ∧
        (∀ again, appendParam marked again = .ok marked) ∧
          ∃ markedParts, split marked.toList = .ok markedParts ∧
            markedParts.authority = "x.test".toList ∧ markedParts.fragment = "top".toList ∧
            decodeQuery markedParts.query =
              [(['a'], []), (['b'], "%zz".toList), (['b'], "1 2".toList),
                (paramName, "s 1&".toList)] := by
  let visit : Parts :=
    ⟨"https".toList, "x.test".toList, "/p".toList, "a=&b=%zz&b=1+2".toList, "top".toList⟩
  have hvisit : split "https://x.test/p?a=&b=%zz&b=1+2#top".toList = .ok visit := by rfl
  have hquery : decodeQuery visit.query =
      [(['a'], []), (['b'], "%zz".toList), (['b'], "1 2".toList)] := by decide +kernel
  have hmarked : appendParam "https://x.test/p?a=&b=%zz&b=1+2#top" "s 1&" =
      .ok "https://x.test/p?a=&b=%25zz&b=1+2&scenario_session_id=s+1%26#top" := by rfl
  obtain ⟨hagain, hparts⟩ := appendParam_adds_once hmarked
  obtain ⟨markedParts, hsplit, -, hauthority, -, hfragment, hdecoded⟩ :=
    hparts visit hvisit (by decide) (by decide) (by rw [hquery]; decide)
  rw [hquery] at hdecoded
  exact ⟨_, hmarked, hagain, markedParts, hsplit, hauthority, hfragment, hdecoded⟩

end Dialogue.Session
