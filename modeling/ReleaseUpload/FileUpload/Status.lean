import ReleaseUpload.FileUpload

/-!
The status of a file as clients see it: seconds left, instructions under the name of the mechanism,
and the state.
-/

namespace ReleaseUpload.FileUpload

structure Status where
  validFor : Int64
  /-- Instructions by the name of their mechanism. -/
  mechanism : Dictionary Instructions
  status : State

/-- The status at an instant; a file that is not prepared has empty instructions. -/
def statusAt (file : FileUpload) (now : Instant) : Status where
  validFor := .ofInt (file.validFor now)
  mechanism := .singleton file.mechanism.name (file.instructions.getD .empty)
  status := file.state

namespace Status

def toNode (status : Status) : Json.Node := .ofFields [
  ("valid-for", .ofInt status.validFor.toInt),
  ("mechanism", .ofFields (status.mechanism.map Json.Record.toNode).entries),
  ("status", status.status.toNode)]

/-- Reads a status that may hold lists and records `room` deep, itself included. -/
def ofNode? (room : Nat) (node : Json.Node) : Option Status := do
  let part ← node.fields? ["valid-for", "mechanism", "status"]
  let validFor ← Json.Node.required? (part "valid-for") (·.int64?)
  let mechanism ← Json.Node.required? (part "mechanism")
    (·.dictionaryOf? (Json.Record.ofNode? (room - 2)))
  let status ← Json.Node.required? (part "status") State.ofNode?
  return { validFor, mechanism, status }

end Status

end ReleaseUpload.FileUpload
