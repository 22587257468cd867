import Dialogue.Completion.Canned
import Dialogue.Completion.Engine
import Dialogue.Log
import Dialogue.Service.Basic
import Dialogue.Session.Backend
import Dialogue.Session.File
import Dialogue.Proofs.Url.Query
import Dialogue.Proofs.Node.Frame
import Dialogue.Proofs.Program
import Dialogue.Proofs.Value.Fault
import Dialogue.Proofs.Scenario.Graph
import Dialogue.Proofs.Run.Order
import Dialogue.Proofs.Validation.Undated
import Dialogue.Proofs.Node.Ways
import Dialogue.Proofs.Node.Writes
import Dialogue.Proofs.Turn.Report
import Dialogue.Proofs.Turn.Rest
import Dialogue.Proofs.Turn.Retold
import Dialogue.Proofs.Run.Logged
import Dialogue.Proofs.Run.Footprint
import Dialogue.Proofs.Turn.Bounded
import Dialogue.Proofs.Turn.Unguarded
import Dialogue.Proofs.Session.Record
import Dialogue.Proofs.Session.Fields
import Dialogue.Proofs.Session.History
import Dialogue.Proofs.Session.File
import Dialogue.Proofs.Session.Listing
import Dialogue.Proofs.Session.Beside
import Dialogue.Proofs.Session.Whole
import Dialogue.Proofs.Session.Damage
import Dialogue.Proofs.Manager.Operation
import Dialogue.Proofs.Manager.Ending
import Dialogue.Proofs.Manager.Move
import Dialogue.Proofs.Manager.Sound
import Dialogue.Proofs.Manager.Revision
import Dialogue.Proofs.Manager.Window
import Dialogue.Proofs.Manager.Outcome
import Dialogue.Proofs.Manager.Generating
import Dialogue.Proofs.Manager.Choice
import Dialogue.Proofs.Manager.Transcript
import Dialogue.Proofs.Manager.Origin
import Dialogue.Proofs.Manager.Rest
import Dialogue.Proofs.Manager.Telling
import Dialogue.Proofs.Manager.Validated
import Dialogue.Proofs.Manager.Tidy
import Dialogue.Proofs.Manager.Deletion
import Dialogue.Proofs.Manager.Exclusion
import Dialogue.Proofs.Manager.View
import Dialogue.Proofs.Manager.Alike
import Dialogue.Proofs.Manager.Isolation
import Dialogue.Proofs.Event.Retention
import Dialogue.Proofs.Run.Failure
import Dialogue.Proofs.Run.Limit
import Dialogue.Proofs.Node.Gather
import Dialogue.Proofs.Node.Recovery
import Dialogue.Proofs.Turn.Encounter
import Dialogue.Proofs.Manager.Unrecovered
import Dialogue.Proofs.Scenario.Precedence
import Dialogue.Proofs.Template.Contained
import Dialogue.Proofs.Completion.Streaming
import Dialogue.Proofs.Node.Headers
import Dialogue.Proofs.Url.Appended
import Dialogue.Proofs.Session.Param
import Dialogue.Proofs.Node.Parameters
import Dialogue.Proofs.Template.Substitution
import Dialogue.Proofs.Slot.Assigned
import Dialogue.Proofs.Slot.Unwrapped
import Dialogue.Proofs.Value.Path
import Dialogue.Proofs.Value.Address
import Dialogue.Proofs.Condition
import Dialogue.Proofs.Validation.Contact
import Dialogue.Proofs.Validation.Day
import Dialogue.Proofs.Node.Shown
import Dialogue.Proofs.Http.Attempt
