import Dialogue.Completion.Engine
import Dialogue.Proofs.Json.Written
import Dialogue.Proofs.Node.Recovery
/-!
An answer in one piece and the same answer in tokens. An endpoint that is asked for tokens sends
events, one a line, and the texts of its token events make up the answer. An llm node comes to the
same both ways as long as the answer says something: one piece that is empty is a failure, and a
stream of no tokens is none.
-/
namespace Dialogue

namespace Completion

open Dialogue.Text Endpoint

/-- The event on a line is a token with this text. -/
def IsToken (line : List Char) (piece : String) : Prop :=
  startsWith "message:" (strip line) = false ∧ ∃ fields,
    Json.read (String.ofList (lineData (strip line))) = .ok (.object fields) ∧
      Mapping.get? fields "event" = some (.text "token") ∧
      Mapping.get? fields "data" = some (.text piece)

/-- The tokens on lines that hold other events as well. -/
inductive Tokens : List (List Char) → List String → Prop where
  | nil : Tokens [] []
  | token {line : List Char} {piece : String} {lines : List (List Char)} {pieces : List String}
      (here : IsToken line piece) (rest : Tokens lines pieces) :
      Tokens (line :: lines) (piece :: pieces)
  | other {line : List Char} {lines : List (List Char)} {pieces : List String}
      (here : ∀ piece, ¬ IsToken line piece) (rest : Tokens lines pieces) :
      Tokens (line :: lines) pieces

/-- A body in one piece says a text; beside the empty text it has no other answer. -/
def SaysWhole (body text : String) : Prop :=
  ∃ fields, Json.readBody body = .ok (.object fields) ∧
    Mapping.get? fields "text" = some (.text text) ∧
      (text = "" → Mapping.get? fields "answer" = none)

/-- The tokens on the lines of a body make up a text. -/
def SaysInTokens (body text : String) : Prop :=
  ∃ pieces, Tokens (lines body.toList) pieces ∧ String.join pieces = text

/-- The server answers every question that is put to the endpoint, and answers it with `body`. -/
def Delivers (settings : CompletionSettings) (server : Http.Server) (streaming : Bool)
    (body : String) : Prop :=
  ∃ url, url? settings = some url ∧ ∀ prompt, ∃ response next,
    post url prompt streaming server = (.ok response, next) ∧ response.text = body

section Delivery

variable {settings : CompletionSettings} {url : String} {address : Http.Address}

/-- A question can be put to every server that an address names. -/
theorem exists_ofRequest (haddress : Http.Address.parse? url.toList = some address)
    (hserver : address.isAbsolute = true) (prompt : String) (streaming : Bool) :
    ∃ outgoing, Http.Outgoing.ofRequest (request url prompt streaming) = .ok outgoing ∧
      outgoing.address.scheme.isEmpty = false := by
  obtain ⟨text, hbody⟩ : ∃ text, Http.Outgoing.bodyOf (request url prompt streaming).body =
      .ok (text, some "application/json") := by
    cases streaming <;> exact ⟨_, rfl⟩
  have hsent : address.sent = address := by
    rw [Http.Address.sent, hserver]
    rfl
  have hscheme : address.scheme.isEmpty = false := by
    simp only [Http.Address.isAbsolute, Bool.and_eq_true, Bool.not_eq_true'] at hserver
    exact hserver.1
  have hheaders : Http.Outgoing.headersOf [] = some [] := rfl
  simp only [Http.Outgoing.ofRequest, hbody]
  simp only [request, haddress, hheaders, hsent, Except.ok.injEq, exists_eq_left', hscheme]

/-- A server that always gives the same good answer. -/
def steady (body : String) : Http.Server := .ofScript [] (.ok ⟨⟨200, body⟩, none⟩)

theorem delivers_steady (hurl : url? settings = some url)
    (haddress : Http.Address.parse? url.toList = some address)
    (hserver : address.isAbsolute = true) (streaming : Bool) (body : String) :
    Delivers settings (steady body) streaming body := by
  refine ⟨url, hurl, fun prompt => ?_⟩
  obtain ⟨outgoing, hsent, hscheme⟩ := exists_ofRequest haddress hserver prompt streaming
  have hpost : (post url prompt streaming (steady body)).1 = .ok ⟨200, body⟩ := by
    simp only [post, hsent, Http.exchange, steady, Peer.ofScript, Peer.ask, hscheme]
    rfl
  exact ⟨⟨200, body⟩, _, Prod.ext hpost rfl, rfl⟩

end Delivery

section Lines

variable {line : List Char} {piece : String} {pieces : List String}

theorem lineToken_of_isToken (h : IsToken line piece) : lineToken (String.ofList line) = piece := by
  obtain ⟨hmessage, fields, hread, hevent, hdata⟩ := h
  have hsome : (strip line).isEmpty = false := by
    cases hline : strip line with
    | nil =>
        rw [hline] at hread
        cases hread
    | cons c cs => rfl
  unfold lineToken
  rw [String.toList_ofList]
  simp only [hsome, hmessage, hread, hevent, hdata]
  rfl

theorem lineToken_of_other (h : ∀ piece, ¬ IsToken line piece) :
    lineToken (String.ofList line) = "" := by
  unfold lineToken
  rw [String.toList_ofList]
  show (if ((strip line).isEmpty || startsWith "message:" (strip line)) = true then _ else _) = _
  split
  · rfl
  · rename_i hspeaks
    split
    · rename_i fields hread
      split
      · rename_i piece hevent hdata
        have hmessage : startsWith "message:" (strip line) = false := by simp_all
        exact absurd ⟨hmessage, fields, hread, hevent, hdata⟩ (h piece)
      · rfl
    · rfl

theorem join_lineTokens {lines : List (List Char)} (h : Tokens lines pieces) :
    String.join (lines.map fun line => lineToken (String.ofList line)) = String.join pieces := by
  induction h with
  | nil => rfl
  | token here rest ih =>
      rw [List.map_cons, String.join_cons, lineToken_of_isToken here, ih, String.join_cons]
  | other here rest ih =>
      rw [List.map_cons, String.join_cons, lineToken_of_other here, ih, String.empty_append]

theorem join_filter (texts : List String) :
    String.join (texts.filter (· ≠ "")) = String.join texts := by
  induction texts with
  | nil => rfl
  | cons text texts ih =>
      by_cases htext : text = ""
      · simpa [htext] using ih
      · simpa [htext] using ih

/-- Tokens without text are passed over, which nobody can tell from the whole. -/
theorem join_tokens {body text : String} (h : SaysInTokens body text) :
    String.join (tokens body) = text := by
  obtain ⟨pieces, htokens, rfl⟩ := h
  rw [tokens, join_filter, join_lineTokens htokens]

end Lines

section Answers

variable {settings : CompletionSettings} {server : Http.Server} {body text : String}

theorem read_of_saysWhole (h : SaysWhole body text) : Endpoint.read body = .ok (.text text) := by
  obtain ⟨fields, hread, htext, hanswer⟩ := h
  rw [Endpoint.read, hread]
  show Except.ok (((Mapping.get? fields "text").getD .null).orElse
    (((Mapping.get? fields "answer").getD .null).orElse (.text ""))) = _
  rw [htext]
  by_cases hempty : text = ""
  · rw [hanswer hempty, hempty]
    rfl
  · simp [Value.orElse, Value.truthy, hempty]

theorem complete_of_ok {σ : Type} {wait : σ → Nat → σ} {attempt : σ → Except Failure Value × σ}
    {s : σ} {v : Value} (h : (attempt s).1 = .ok v) :
    (Completion.complete wait attempt s).1 = if v.truthy then .ok v else .error .empty := by
  obtain ⟨next, hattempt⟩ : ∃ next, attempt s = (.ok v, next) := ⟨_, Prod.ext h rfl⟩
  simp only [Completion.complete, thrice, retry, hattempt]
  rfl

theorem attempt_of_saysWhole (hdelivers : Delivers settings server false body)
    (htold : SaysWhole body text) (prompt : String) :
    (attempt settings prompt server).1 = .ok (.text text) := by
  obtain ⟨url, hurl, hposts⟩ := hdelivers
  obtain ⟨response, next, hpost, rfl⟩ := hposts prompt
  simp only [attempt, hurl]
  rw [hpost]
  show (Endpoint.read response.text).mapError Failure.unreadable = _
  rw [read_of_saysWhole htold]
  rfl

/-- What a node is told that asks for the answer in one piece. -/
theorem complete_whole (hdelivers : Delivers settings server false body)
    (htold : SaysWhole body text) (prompt language : String) :
    ((Node.Llm.complete false prompt language).run (answer settings) server).1 =
      if text = "" then .error (.completion "LLM returned an empty response") else .ok text := by
  show ((Endpoint.complete settings prompt server).1.mapError Failure.fault).bind Value.display = _
  rw [Endpoint.complete, complete_of_ok (attempt_of_saysWhole hdelivers htold prompt)]
  by_cases hempty : text = ""
  · rw [if_pos hempty, hempty]
    rfl
  · have htruthy : (Value.text text).truthy = true := by simp [Value.truthy, hempty]
    rw [if_pos htruthy, if_neg hempty]
    rfl

/-- What a node is told that asks for the answer in tokens. -/
theorem complete_stream (hdelivers : Delivers settings server true body)
    (htold : SaysInTokens body text) (prompt language : String) :
    ((Node.Llm.complete true prompt language).run (answer settings) server).1 = .ok text := by
  obtain ⟨url, hurl, hposts⟩ := hdelivers
  obtain ⟨response, next, hpost, rfl⟩ := hposts prompt
  have hstream : stream settings prompt server = ((tokens response.text, none), next) := by
    simp only [stream, hurl, hpost]
  show ((stream settings prompt server).1.2.elim (.ok (stream settings prompt server).1.1)
    fun failure => .error failure.fault : Except Fault (List String)).map String.join = _
  rw [hstream]
  exact congrArg Except.ok (join_tokens htold)

end Answers

end Completion

namespace Node

/-- The node with streaming on or off. -/
def streamed (node : Node) (on : Bool) : Node :=
  { node with data := Mapping.set node.data "streaming" (.bool on) }

namespace Llm

variable {context : Context} {node : Node} {slots : Slots}

theorem field_streamed (on : Bool) {name : String} (h : name ≠ "streaming") :
    Mapping.get? (node.streamed on).data name = Mapping.get? node.data name := by
  simp [streamed, Ne.symm h]

theorem get_streamed (on : Bool) {name : String} (h : name ≠ "streaming") :
    (node.streamed on).get name = node.get name := by
  rw [Node.get, Node.get, field_streamed on h]

theorem settle_streamed (on : Bool) (answer : Except Fault String) :
    settle context (node.streamed on) slots answer = settle context node slots answer := by
  cases answer with
  | error fault => cases fault <;> rfl
  | ok output =>
      have hread : read (node.streamed on) output = read node output := by
        rw [read, read, get_streamed on (by decide)]
      simp only [settle, succeed, hread, get_streamed on (show "outputVar" ≠ "streaming" by decide)]
      rfl

/-- What the node comes to when `server` answers what it asks for. -/
def outcomeWith (settings : CompletionSettings) (server : Http.Server) (context : Context)
    (node : Node) (slots : Slots) : Except Fault Effect :=
  ((node.execute context slots).run.run (Completion.Endpoint.answer settings) server).1

theorem outcomeWith_eq {settings : CompletionSettings} {server : Http.Server} {on : Bool}
    {prompt : String} (hkind : node.kind? = some .llm)
    (hprompt : Template.fill ((Mapping.get? node.data "prompt").getD (.text "")) (.object slots)
      false = .ok prompt) :
    outcomeWith settings server context (node.streamed on) slots =
      settle context node slots ((complete on prompt context.language).run
        (Completion.Endpoint.answer settings) server).1 := by
  have hkind' : (node.streamed on).kind? = some .llm := hkind
  have hstreaming : ((node.streamed on).get "streaming").truthy = on := by
    simp [Node.get, streamed, Value.truthy]
  rw [← settle_streamed on, outcomeWith, Node.execute, hkind']
  simp only [execute, field_streamed on (show "prompt" ≠ "streaming" by decide), hprompt,
    Attempt.of_ok_bind, ExceptT.run_bind_lift, hstreaming]
  show (Program.run _ server (Program.bind _ _)).1 = _
  rw [Program.run_bind]
  generalize ((complete on prompt context.language).run _ server).1 = answer
  cases answer with
  | ok output => rfl
  | error fault => cases fault <;> rfl

theorem outcomeWith_unfilled {settings : CompletionSettings} {server : Http.Server} {on : Bool}
    {fault : Fault} (hkind : node.kind? = some .llm)
    (hprompt : Template.fill ((Mapping.get? node.data "prompt").getD (.text "")) (.object slots)
      false = .error fault) :
    outcomeWith settings server context (node.streamed on) slots = .error fault := by
  have hkind' : (node.streamed on).kind? = some .llm := hkind
  rw [outcomeWith, Node.execute, hkind']
  simp only [execute, field_streamed on (show "prompt" ≠ "streaming" by decide), hprompt]
  rfl

theorem slots_read_empty : (read node "").slots = [] := by
  unfold read
  split <;> rfl

/-- A failure is flagged twice, and an empty completion is stored once at most. -/
theorem fail_ne_succeed {reason : String} {effect : Effect}
    (h : fail context node slots reason = .ok effect) :
    succeed context node slots "" ≠ .ok effect := by
  intro hsucceed
  have hname (flag : String) (hflag : flag ∈ flags) : node.get "outputVar" = .text flag := by
    have hnames := (mem_keys_succeed hflag hsucceed).1 (mem_keys_fail hflag h)
    rw [Names, slots_read_empty] at hnames
    exact hnames.resolve_right List.not_mem_nil
  have hflags := (hname "llmError" (by decide)).symm.trans (hname "llmFailed" (by decide))
  exact absurd (Value.text.inj hflags) (by decide)

/-- The node comes to the same with its answer in one piece and in tokens exactly if the answer says
something, or nothing leads on from the node either way. For the empty answer it fails one way, and
goes on with it the other way. -/
theorem streaming_agrees_iff {settings : CompletionSettings} {whole events : Http.Server}
    {body stream text : String} (hkind : node.kind? = some .llm)
    (hwhole : Completion.Delivers settings whole false body)
    (hbody : Completion.SaysWhole body text)
    (hevents : Completion.Delivers settings events true stream)
    (hstream : Completion.SaysInTokens stream text) :
    (outcomeWith settings events context (node.streamed true) slots =
        outcomeWith settings whole context (node.streamed false) slots ↔
      text ≠ "" ∨ ∃ fault,
        outcomeWith settings whole context (node.streamed false) slots = .error fault ∧
          outcomeWith settings events context (node.streamed true) slots = .error fault) ∧
    (text = "" → ∀ prompt,
      Template.fill ((Mapping.get? node.data "prompt").getD (.text "")) (.object slots) false =
        .ok prompt →
      outcomeWith settings whole context (node.streamed false) slots =
          fail context node slots "LLM returned an empty response" ∧
        outcomeWith settings events context (node.streamed true) slots =
          succeed context node slots "") := by
  cases hprompt : Template.fill ((Mapping.get? node.data "prompt").getD (.text "")) (.object slots)
      false with
  | error fault =>
      rw [outcomeWith_unfilled hkind hprompt, outcomeWith_unfilled hkind hprompt]
      exact ⟨iff_of_true rfl (.inr ⟨fault, rfl, rfl⟩), nofun⟩
  | ok prompt =>
      rw [outcomeWith_eq hkind hprompt, outcomeWith_eq hkind hprompt,
        Completion.complete_whole hwhole hbody, Completion.complete_stream hevents hstream]
      by_cases hempty : text = ""
      · rw [if_pos hempty, hempty]
        refine ⟨⟨fun hsame => .inr ?_, ?_⟩, fun _ _ _ => ⟨rfl, rfl⟩⟩
        · cases hfail : fail context node slots "LLM returned an empty response" with
          | ok effect => exact absurd (hsame.trans hfail) (fail_ne_succeed hfail)
          | error fault => exact ⟨fault, hfail, hsame.trans hfail⟩
        · rintro (hne | ⟨fault, hsingle, hstreamed⟩)
          · exact absurd rfl hne
          · exact hstreamed.trans hsingle.symm
      · rw [if_neg hempty]
        exact ⟨iff_of_true rfl (.inl hempty), fun h => absurd h hempty⟩

namespace Sample

def flow : CompletionSettings :=
  { Settings.defaultCompletion with
    provider := .text "flowise"
    flowiseUrl := .text "http://flow/ask" }

def whole (text : String) : String := "\x7b\"text\": \"" ++ text ++ "\"\x7d"

def token (piece : String) : String :=
  "\x7b\"event\": \"token\", \"data\": \"" ++ piece ++ "\"\x7d"

/-- Two tokens with other events around them. -/
def events : String :=
  "message: 1\ndata: " ++ token "Yes" ++ "\ndata: " ++ token ", Ann" ++ "\ndata: [DONE]\n"

def noEvents : String := "data: [DONE]"

def chatting : Context := ⟨chat "regret", "s1", "en", "http://chat"⟩

theorem flow_delivers (streaming : Bool) (body : String) :
    Completion.Delivers flow (Completion.steady body) streaming body := by
  have haddress : Http.Address.parse? "http://flow/ask".toList =
      some ⟨"http".toList, [], "flow".toList, none, "/ask".toList, none, none⟩ := by decide +kernel
  exact Completion.delivers_steady rfl haddress rfl streaming body

theorem read_of_write {v : Value} {text : String} (hv : v.IsJson)
    (hwrite : Json.write Json.spaced v = .ok text) : Json.read text = .ok v := by
  obtain ⟨other, hother, hread⟩ := Json.read_write Json.sound_spaced hv
  cases hwrite.symm.trans hother
  exact hread

theorem readBody_whole {v : Value} {text : String} (hread : Json.read (whole text) = .ok v) :
    Json.readBody (whole text) = .ok v := by
  have hwhole : (whole text).toList = '\x7b' :: ("\"text\": \"" ++ text ++ "\"\x7d").toList := by
    simp [whole]
  rw [Json.readBody, hwhole]
  exact hread

theorem whole_spoken : Completion.SaysWhole (whole "Yes, Ann") "Yes, Ann" := by
  have hfields : (Value.object [("text", .text "Yes, Ann")]).IsJson :=
    .object (by decide) (by simpa using .text _)
  have hwrite : Json.write Json.spaced (.object [("text", .text "Yes, Ann")]) =
      .ok (whole "Yes, Ann") := by decide +kernel
  exact ⟨_, readBody_whole (read_of_write hfields hwrite), rfl, nofun⟩

theorem isToken_of_write {line : List Char} {piece : String}
    (hmessage : Completion.startsWith "message:" (Text.strip line) = false)
    (hline : Completion.lineData (Text.strip line) = (token piece).toList)
    (hwrite : Json.write Json.spaced (.object [("event", .text "token"), ("data", .text piece)]) =
      .ok (token piece)) : Completion.IsToken line piece := by
  have hfields : (Value.object [("event", .text "token"), ("data", .text piece)]).IsJson :=
    .object (by simp [Mapping.keys]) (by simpa using ⟨.text _, .text _⟩)
  refine ⟨hmessage, [("event", .text "token"), ("data", .text piece)], ?_, rfl, rfl⟩
  rw [hline, String.ofList_toList]
  exact read_of_write hfields hwrite

theorem not_isToken_of_unreadable {line : List Char}
    (h : (Json.read (String.ofList (Completion.lineData (Text.strip line)))).toOption.isNone = true)
    (piece : String) : ¬ Completion.IsToken line piece := by
  rintro ⟨-, fields, hread, -⟩
  rw [hread] at h
  cases h

theorem events_say : Completion.SaysInTokens events "Yes, Ann" := by
  have hlines : Text.lines events.toList = ["message: 1".toList, ("data: " ++ token "Yes").toList,
      ("data: " ++ token ", Ann").toList, "data: [DONE]".toList, []] := by decide +kernel
  refine ⟨["Yes", ", Ann"], hlines ▸ .other ?_ (.token ?_ (.token ?_ (.other ?_ (.other ?_ .nil)))),
    by decide +kernel⟩
  · exact not_isToken_of_unreadable (by decide +kernel)
  · exact isToken_of_write (by decide +kernel) (by decide +kernel) (by decide +kernel)
  · exact isToken_of_write (by decide +kernel) (by decide +kernel) (by decide +kernel)
  · exact not_isToken_of_unreadable (by decide +kernel)
  · exact not_isToken_of_unreadable (by decide +kernel)

end Sample

open Sample in
theorem yes_streams_alike :
    ask.kind? = some .llm ∧
      Completion.Delivers flow (Completion.steady (whole "Yes, Ann")) false (whole "Yes, Ann") ∧
      Completion.SaysWhole (whole "Yes, Ann") "Yes, Ann" ∧
      Completion.Delivers flow (Completion.steady events) true events ∧
      Completion.SaysInTokens events "Yes, Ann" ∧
      outcomeWith flow (Completion.steady events) chatting (ask.streamed true) answered =
        outcomeWith flow (Completion.steady (whole "Yes, Ann")) chatting (ask.streamed false)
          answered := by
  have hkind : ask.kind? = some .llm := rfl
  refine ⟨hkind, flow_delivers _ _, whole_spoken, flow_delivers _ _, events_say, ?_⟩
  exact (streaming_agrees_iff hkind (flow_delivers _ _) whole_spoken (flow_delivers _ _)
    events_say).1.2 (.inl (by decide))

open Sample in
/-- The empty answer is regretted in one piece, and cheered in no tokens. -/
theorem empty_answer_streams_apart :
    Completion.SaysWhole (whole "") "" ∧ Completion.SaysInTokens noEvents "" ∧
      outcomeWith flow (Completion.steady (whole "")) chatting (ask.streamed false)
          [("name", .text "Ann")] =
        .ok (.goTo (some ⟨"regret", "message", []⟩) [("name", .text "Ann"),
          ("llmError", .text "LLM returned an empty response"), ("llmFailed", .bool true)] []) ∧
      outcomeWith flow (Completion.steady noEvents) chatting (ask.streamed true)
          [("name", .text "Ann")] =
        .ok (.goTo (some ⟨"cheer", "message", []⟩) [("name", .text "Ann"), ("reply", .text "")]
          []) := by
  have hfields : (Value.object [("text", .text "")]).IsJson :=
    .object (by decide) (by simpa using .text _)
  have hwrite : Json.write Json.spaced (.object [("text", .text "")]) = .ok (whole "") := by
    decide +kernel
  have hwhole : Completion.SaysWhole (whole "") "" :=
    ⟨_, readBody_whole (read_of_write hfields hwrite), rfl, fun _ => rfl⟩
  have hlines : Text.lines noEvents.toList = [noEvents.toList] := by decide +kernel
  have hevents : Completion.SaysInTokens noEvents "" :=
    ⟨[], hlines ▸ .other (not_isToken_of_unreadable (by decide +kernel)) .nil, rfl⟩
  have hprompt : Template.fill ((Mapping.get? ask.data "prompt").getD (.text ""))
      (.object [("name", .text "Ann")]) false = .ok "Hi Ann" := by decide +kernel
  refine ⟨hwhole, hevents, ?_, ?_⟩
  · rw [outcomeWith_eq rfl hprompt, Completion.complete_whole (flow_delivers _ _) hwhole]
    rfl
  · rw [outcomeWith_eq rfl hprompt, Completion.complete_stream (flow_delivers _ _) hevents]
    rfl

end Llm

end Node

end Dialogue
