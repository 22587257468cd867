import Dialogue.Moment
import Dialogue.Text.Case
import Dialogue.Value.Basic
/-!
Log lines: which entries are written, and what a line says. A line is never written below the
threshold that the log was set to.
-/
namespace Dialogue.Log

open Dialogue.Text

inductive Level where
  | debug
  | info
  | warning
  | error
  | critical
  deriving DecidableEq, Repr

namespace Level

def all : List Level := [.debug, .info, .warning, .error, .critical]

def name : Level → String
  | .debug => "debug"
  | .info => "info"
  | .warning => "warning"
  | .error => "error"
  | .critical => "critical"

def rank : Level → Nat
  | .debug => 10
  | .info => 20
  | .warning => 30
  | .error => 40
  | .critical => 50

/-- The level of a name; two levels have a second one. -/
def ofName? (s : String) : Option Level :=
  if s = "warn" then some .warning else if s = "fatal" then some .critical
  else all.find? (·.name = s)

end Level

/-- Whether a setting is the name `s`, in whatever case. -/
def isNamed (setting s : String) : Bool := upper setting.toList = upper s.toList

/-- The least rank that is written under a setting. One that names no level stands for `info`. -/
def threshold (setting : String) : Nat :=
  if isNamed setting "notset" then 0
  else if isNamed setting "warn" then Level.warning.rank
  else if isNamed setting "fatal" then Level.critical.rank
  else ((Level.all.find? fun level => isNamed setting level.name).getD .info).rank

/-- Lines are JSON objects under the format of this name; any other name stands for plain text. -/
def jsonFormat : String := "json"

/-- Something that a part of the service reports, with the details it adds. -/
structure Entry where
  level : Level
  event : String
  details : Mapping Value

def Entry.isWritten (entry : Entry) (least : Nat) : Bool := least ≤ entry.level.rank

/-- The entries that a log with this setting writes. -/
def written (setting : String) (entries : List Entry) : List Entry :=
  entries.filter (·.isWritten (threshold setting))

/-- The fields of a line. Details win over the context in which an entry was made, and what the line
says about itself wins over both. -/
def Entry.line (context : Mapping Value) (now : Moment) (entry : Entry) : Mapping Value :=
  let said := Mapping.set (Mapping.update context entry.details) "event" (.text entry.event)
  Mapping.set (Mapping.set said "level" (.text entry.level.name)) "timestamp" (.text now.print)

end Dialogue.Log
