import ReleaseUpload.UploadSession
import ReleaseUpload.FileUpload.Status

/-!
The status of a session as clients see it: the mechanisms on offer, the token, seconds left, and
the status of every file under its name. Of two files of one name the later is shown.
-/

namespace ReleaseUpload.UploadSession

structure Status where
  mechanisms : List String
  token : String
  validFor : Int64
  files : Dictionary FileUpload.Status
  notices : List String
  status : State

def statusAt (policy : Policy) (now : Instant) (session : UploadSession) : Status where
  mechanisms := policy.mechanisms.names
  token := session.token.toHex
  validFor := .ofInt (session.validFor now)
  files := .ofList (session.files.map fun file => (file.declaration.filename, file.statusAt now))
  notices := session.notices
  status := session.state

/-- Shows the status, and with it the token, which is fixed from here on. -/
def showStatus (policy : Policy) (now : Instant) : Action Status := do
  modify seeToken
  return (← get).statusAt policy now

namespace Status

def textsNode (texts : List String) : Json.Node := .list (texts.map .ofString)

def toNode (status : Status) : Json.Node := .ofFields [
  ("mechanisms", textsNode status.mechanisms),
  ("session-token", .ofString status.token),
  ("valid-for", .ofInt status.validFor.toInt),
  ("files", .ofFields (status.files.map FileUpload.Status.toNode).entries),
  ("notices", textsNode status.notices),
  ("status", status.status.toNode)]

/-- Reads a status that may hold lists and records `room` deep, itself included. -/
def ofNode? (room : Nat) (node : Json.Node) : Option Status := do
  let part ← node.fields?
    ["mechanisms", "session-token", "valid-for", "files", "notices", "status"]
  let mechanisms ← Json.Node.required? (part "mechanisms") (·.listOf? (·.string?))
  let token ← Json.Node.required? (part "session-token") (·.string?)
  let validFor ← Json.Node.required? (part "valid-for") (·.int64?)
  let files ← Json.Node.required? (part "files")
    (·.dictionaryOf? (FileUpload.Status.ofNode? (room - 2)))
  let notices ← Json.Node.required? (part "notices") (·.listOf? (·.string?))
  let status ← Json.Node.required? (part "status") State.ofNode?
  return { mechanisms, token, validFor, files, notices, status }

end Status

end ReleaseUpload.UploadSession
