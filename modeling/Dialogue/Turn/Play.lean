import Dialogue.Run.Walk
import Dialogue.Session.Basic
/-!
A turn: runs that follow each other until the user is needed or the scenario ends. Nodes that only
show something are passed without waiting for the user.
-/
namespace Dialogue.Turn

/-- What the runs of a turn came to, with the transcript as it stands after them. -/
structure Report where
  earlier : List Run.Result
  last : Run.Result
  events : List Event
  messages : List Message

namespace Report

def results (report : Report) : List Run.Result := report.earlier ++ [report.last]

/-- What a turn that went well changes in its session. A refused answer only shows in the
transcript. -/
def change (report : Report) : Session.Change :=
  match report.last with
  | .refused _ _ _ => { messages := some report.messages, status := some .active }
  | .ended status _ slots _ _ =>
      { messages := some report.messages, status := some status, slots := some slots,
        node := some none, awaiting := some false }
  | .surfaced shown awaiting slots _ _ =>
      { messages := some report.messages, status := some .active, slots := some slots,
        node := some (some shown.id), awaiting := some awaiting }

end Report

/-- What the user typed, as an entry of the transcript; nothing for an empty text. -/
def said (input : Run.Input) : List Message :=
  match input.text.filter (· ≠ "") with
  | some text => [.said text]
  | none => []

/-- Whether a node that is shown needs the user before the scenario goes on. -/
def needsUser (scenario : Scenario) (shown : Node) (awaiting : Bool) : Bool :=
  awaiting || ((scenario.node? shown.id).map Node.waitsForUser).getD true

/-- The end of a turn that has had too many runs. -/
def exhausted (language : String) (slots : Slots) : Run.Result :=
  .ended .failed (Notice.unexpected.text language) slots [] 0

/-- Goes on after `last`, with at most `runs` further runs. -/
def proceed (setting : Run.Setting) :
    (runs : Nat) → List Run.Result → (last : Run.Result) → List Event → List Message →
      Attempt Report
  | runs, earlier, last, events, messages =>
    let all := events ++ last.events
    match last with
    | .refused _ _ message =>
        let toast := Event.toast setting.context.session message "error"
        return ⟨earlier, last, all ++ [toast], messages⟩
    | .ended _ message _ _ _ => return ⟨earlier, last, all, messages ++ [.answered message]⟩
    | .surfaced shown awaiting slots _ _ =>
        let shownTo := messages ++ [.shown shown]
        if needsUser setting.context.scenario shown awaiting then
          return ⟨earlier, last, all, shownTo⟩
        else
          match runs with
          | 0 =>
              let final := exhausted setting.context.language slots
              return ⟨earlier ++ [last], final, all, shownTo ++ [.answered final.message]⟩
          | runs + 1 => do
              let next ← Run.perform setting last.state .none
              proceed setting runs (earlier ++ [last]) next all shownTo

/-- The turn of a session under `input`, with at most `maxRuns` runs after the first. -/
def play (setting : Run.Setting) (maxRuns : Nat) (session : Session) (input : Run.Input) :
    Attempt Report := do
  let first ← Run.perform setting ⟨session.node, session.awaiting, session.slots⟩ input
  proceed setting maxRuns [] first [] (session.messages ++ said input)

end Dialogue.Turn
