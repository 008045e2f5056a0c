import ReleaseUpload.Json.Typed

/-!
The states of a file and the events that move it. A file waits for its bytes, may be processed, and
ends complete, in error or canceled; until it is canceled it can be.
-/

namespace ReleaseUpload.FileUpload

inductive State where
  | pending
  | processing
  | complete
  | error
  | canceled
  deriving DecidableEq, Repr

inductive Event where
  | prepare
  | ready
  | process
  | complete
  | cancel
  | fail
  | extend
  deriving DecidableEq, Repr

namespace State

def all : List State := [.pending, .processing, .complete, .error, .canceled]

def name : State → String
  | .pending => "pending"
  | .processing => "processing"
  | .complete => "complete"
  | .error => "error"
  | .canceled => "canceled"

def ofName? (name : String) : Option State := all.find? (·.name = name)

theorem ofName?_name (state : State) : ofName? state.name = some state := by
  cases state <;> decide +kernel

/-- Nothing can change the content of the file any more. -/
def isTerminal : State → Bool
  | .complete | .canceled => true
  | _ => false

/-- Where an event leads, if the state takes it. -/
def next? : State → Event → Option State
  | .pending, .prepare | .pending, .ready | .pending, .extend => some .pending
  | .pending, .process => some .processing
  | .pending, .complete | .processing, .complete => some .complete
  | .pending, .fail | .processing, .fail => some .error
  | .pending, .cancel | .processing, .cancel | .complete, .cancel | .error, .cancel =>
    some .canceled
  | _, _ => none

def toNode (state : State) : Json.Node := .ofString state.name

def ofNode? (node : Json.Node) : Option State := node.tag?.bind ofName?

end State

namespace Event

def all : List Event := [.prepare, .ready, .process, .complete, .cancel, .fail, .extend]

def name : Event → String
  | .prepare => "prepare"
  | .ready => "ready"
  | .process => "process"
  | .complete => "complete"
  | .cancel => "cancel"
  | .fail => "fail"
  | .extend => "extend"

def ofName? (name : String) : Option Event := all.find? (·.name = name)

end Event

end ReleaseUpload.FileUpload
