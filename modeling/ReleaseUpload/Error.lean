import ReleaseUpload.Identifier.Reading
import ReleaseUpload.Refusal
import ReleaseUpload.Token

/-!
Errors that callers see, and their wording. A `StoreError` either comes from a store or passes an
`UploadError` on as it is.
-/

namespace ReleaseUpload

inductive UploadError where
  | invalidTransition (refusal : Refusal)
  | invalidId (reason : String)
  | invalidToken (reason : String)
  | configuration (reason : String)
  deriving DecidableEq, Repr

namespace UploadError

def message : UploadError → String
  | .invalidTransition refusal => "invalid transition: " ++ refusal.message
  | .invalidId reason => "invalid session ID: " ++ reason
  | .invalidToken reason => "invalid session token: " ++ reason
  | .configuration reason => "configuration error: " ++ reason

def isInvalidTransition : UploadError → Bool
  | .invalidTransition _ => true
  | _ => false

def ofTokenText (error : Token.TextError) : UploadError := .invalidToken error.message

def ofIdFault (kind : IdKind) (fault : Id.Fault) : UploadError :=
  match kind with
  | .session => .invalidId ("invalid upload session ID: " ++ fault.message)
  | .file => .invalidId ("invalid file upload session ID: " ++ fault.message)

end UploadError

inductive StoreError where
  | notFound (what : String)
  | alreadyExists (what : String)
  | upload (error : UploadError)
  deriving DecidableEq, Repr

namespace StoreError

def message : StoreError → String
  | .notFound what => "not found: " ++ what
  | .alreadyExists what => "already exists: " ++ what
  | .upload error => error.message

def isInvalidTransition : StoreError → Bool
  | .upload error => error.isInvalidTransition
  | _ => false

end StoreError

end ReleaseUpload
