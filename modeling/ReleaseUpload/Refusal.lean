import ReleaseUpload.FileUpload.State
import ReleaseUpload.UploadSession.State

/-!
Refusals: an event that the current state of a file or of a session does not take.
-/

namespace ReleaseUpload

/-- The state that an event met, and the event. -/
inductive Refusal where
  | file (state : FileUpload.State) (event : FileUpload.Event)
  | session (state : UploadSession.State) (event : UploadSession.Event)
  deriving DecidableEq, Repr

namespace Refusal

def machine : Refusal → String
  | .file .. => "file upload session"
  | .session .. => "upload session"

def operation : Refusal → String
  | .file _ event => event.name
  | .session _ event => event.name

def state : Refusal → String
  | .file state _ => state.name
  | .session state _ => state.name

def message (refusal : Refusal) : String :=
  refusal.machine ++ " cannot " ++ refusal.operation ++ " while " ++ refusal.state

end Refusal

end ReleaseUpload
