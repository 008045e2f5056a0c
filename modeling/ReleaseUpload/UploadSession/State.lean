import ReleaseUpload.Json.Typed

/-!
The states of an upload session and the events that move it. A session takes files while it is
pending or in error, and ends published or canceled.
-/

namespace ReleaseUpload.UploadSession

inductive State where
  | pending
  | published
  | error
  | canceled
  deriving DecidableEq, Repr

inductive Event where
  | createFile
  | publish
  | markPublished
  | cancel
  | clearErrors
  | revalidate
  | fail
  | extend
  deriving DecidableEq, Repr

namespace State

def all : List State := [.pending, .published, .error, .canceled]

def name : State → String
  | .pending => "pending"
  | .published => "published"
  | .error => "error"
  | .canceled => "canceled"

def ofName? (name : String) : Option State := all.find? (·.name = name)

theorem ofName?_name (state : State) : ofName? state.name = some state := by
  cases state <;> decide +kernel

/-- No event is taken any more. -/
def isTerminal : State → Bool
  | .published | .canceled => true
  | _ => false

/-- Where an event leads, if the state takes it. -/
def next? : State → Event → Option State
  | .pending, .createFile | .pending, .publish | .pending, .extend => some .pending
  | .error, .createFile | .error, .revalidate => some .error
  | .pending, .markPublished => some .published
  | .pending, .fail | .error, .fail => some .error
  | .pending, .cancel | .error, .cancel => some .canceled
  | .error, .clearErrors => some .pending
  | _, _ => none

def toNode (state : State) : Json.Node := .ofString state.name

def ofNode? (node : Json.Node) : Option State := node.tag?.bind ofName?

end State

namespace Event

def all : List Event :=
  [.createFile, .publish, .markPublished, .cancel, .clearErrors, .revalidate, .fail, .extend]

def name : Event → String
  | .createFile => "create_file_upload_session"
  | .publish => "publish"
  | .markPublished => "mark_published"
  | .cancel => "cancel"
  | .clearErrors => "clear_errors"
  | .revalidate => "revalidate"
  | .fail => "fail"
  | .extend => "extend"

def ofName? (name : String) : Option Event := all.find? (·.name = name)

end Event

end ReleaseUpload.UploadSession
