import Dialogue.Session.Store
import Dialogue.Json.Reader
/-!
Stores that keep their sessions in a file. Each change is written at once, or after a while together
with those that follow it. If the records have no text the file stays as it is.
-/
namespace Dialogue

/-- What the file of a store holds. -/
inductive Disk where
  | missing
  | text (content : String)

/-- The records of a file; one that holds no object, or no JSON, holds none. -/
def Disk.entries : Disk → Except Fault (Mapping Entry)
  | .missing => .ok []
  | .text content =>
      match Json.read content with
      | .ok (.object fields) => .ok (fields.map fun field => (field.1, .unread field.2))
      | .ok _ | .error (.invalidJson _) => .ok []
      | .error fault => .error fault

/-- With `deferred` changes wait until they are flushed. -/
structure FileStore where
  memory : Store
  disk : Disk
  deferred : Bool
  pending : Bool

namespace FileStore

/-- Opens the store on a file; `given` ids have been given out before. -/
def open? (disk : Disk) (deferred : Bool) (given : Nat) : Except Fault FileStore := do
  return ⟨⟨← disk.entries, given⟩, disk, deferred, false⟩

def content (store : Store) : Value :=
  .object (store.entries.map fun entry => (entry.1, entry.2.toValue))

def flush (files : FileStore) : Except Fault Unit × FileStore :=
  match Json.write Json.indented (content files.memory) with
  | .ok text => (.ok (), { files with disk := .text text, pending := false })
  | .error fault => (.error fault, { files with pending := false })

/-- Keeps a changed store. -/
def keep (files : FileStore) (memory : Store) : Except Fault Unit × FileStore :=
  let changed := { files with memory := memory }
  if files.deferred then (.ok (), { changed with pending := true }) else changed.flush

/-- Writes the changes that wait. -/
def flushPending (files : FileStore) : FileStore :=
  if files.pending then files.flush.2 else files

def reopen (files : FileStore) : Except Fault FileStore :=
  open? files.disk files.deferred files.memory.given

def create (files : FileStore) (now : Moment) (conversation scenario slots language : Value) :
    Except Fault String × FileStore :=
  match files.memory.create now conversation scenario slots language with
  | (.ok id, memory) =>
      let (kept, next) := files.keep memory
      (kept.map fun _ => id, next)
  | (.error fault, memory) => (.error fault, { files with memory := memory })

def read (files : FileStore) (now : Moment) (id : String) : Except Fault (Option Session) :=
  files.memory.read now id

def updateFields (files : FileStore) (now : Moment) (id : String) (expected : Value)
    (fields : Mapping Value) : Except Fault Session × FileStore :=
  match files.memory.updateFields now id expected fields with
  | .ok (session, memory) =>
      let (kept, next) := files.keep memory
      (kept.map fun _ => session, next)
  | .error fault => (.error fault, files)

def delete (files : FileStore) (id : String) : Except Fault Bool × FileStore :=
  match files.memory.delete id with
  | (true, memory) =>
      let (kept, next) := files.keep memory
      (kept.map fun _ => true, next)
  | (false, memory) => (.ok false, { files with memory := memory })

def list (files : FileStore) (conversation : String) : Except Fault (List Summary) :=
  files.memory.list conversation

end FileStore

end Dialogue
