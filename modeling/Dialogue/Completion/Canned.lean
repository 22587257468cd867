import Dialogue.Completion.Token
/-!
Canned completions: texts that are given out one by one, whatever the prompts. They may be empty.
-/
namespace Dialogue.Completion

/-- Texts to give out, and the prompts that were answered with them. -/
abbrev Canned := Peer String String

namespace Canned

def ofTexts (texts : List String) (fallback : String) : Canned := .ofScript texts fallback

def complete (prompt : String) (canned : Canned) : Except Failure Value × Canned :=
  let (text, next) := canned.ask prompt
  (.ok (.text text), next)

/-- A stream of one chunk. -/
def stream (prompt : String) (canned : Canned) : (List String × Option Failure) × Canned :=
  let (text, next) := canned.ask prompt
  (([text], none), next)

end Canned

end Dialogue.Completion
