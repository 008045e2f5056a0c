import ReleaseUpload.FileUpload
import ReleaseUpload.Policy
import ReleaseUpload.Token

/-!
Upload sessions: one attempt to publish a release. A session holds its files in the order of their
creation, the failures since its notices were last cleared, and a token that is fixed the first time
anyone sees it. As for a file there are an `Action` that answers or is refused, a `Request` for what
can be asked, and an `Edit` for what the owner may write.
-/

namespace ReleaseUpload

structure UploadSession where
  id : SessionId
  project : String
  version : String
  /-- Sets the token apart from that of other attempts at the same release. -/
  nonce : String
  createdAt : Instant
  expiration : Instant
  /-- The token, once somebody has seen it. -/
  seenToken : Option Token
  /-- In the order of their creation. -/
  files : List FileUpload
  /-- Failures, oldest first. -/
  notices : List String
  state : UploadSession.State

namespace UploadSession

def new (now : Instant) (lifetime : Span) (id : SessionId) (project version nonce : String) :
    UploadSession where
  id := id
  project := project
  version := version
  nonce := nonce
  createdAt := now
  expiration := now.add lifetime
  seenToken := none
  files := []
  notices := []
  state := .pending

def isExpired (session : UploadSession) (now : Instant) : Bool := session.expiration < now

/-- Whole seconds left, zero after the deadline. -/
def validFor (session : UploadSession) (now : Instant) : Int := session.expiration.secondsUntil now

/-- The token that has been seen, or the one that would be seen now. -/
def token (session : UploadSession) : Token :=
  session.seenToken.getD (.derive session.project session.version session.nonce)

def seeToken (session : UploadSession) : UploadSession :=
  { session with seenToken := some session.token }

def hasErrors (session : UploadSession) : Bool := !session.notices.isEmpty

/-- A file in this state keeps its session from being published. -/
def blocksPublication : FileUpload.State → Bool
  | .pending | .error => true
  | _ => false

def canPublish (session : UploadSession) : Bool :=
  session.files.all fun file => !blocksPublication file.state

/-- The first file with an identifier. -/
def file? (session : UploadSession) (id : FileId) : Option FileUpload :=
  session.files.find? (·.id = id)

def addNotice (notice : String) (session : UploadSession) : UploadSession :=
  { session with notices := session.notices ++ [notice] }

def addFile (file : FileUpload) (session : UploadSession) : UploadSession :=
  { session with files := session.files ++ [file] }

abbrev Action := EStateM Refusal UploadSession

def fire (event : Event) : Action State := do
  let session ← get
  match session.state.next? event with
  | some state =>
    set { session with state }
    return state
  | none => throw (.session session.state event)

def fail (notice : String) : Action State := do
  let state ← fire .fail
  modify (addNotice notice)
  return state

def unknownMechanismNotice (name : String) : String := "Unknown upload mechanism: " ++ name

/-- Runs an action on a record of its own; a refusal is handed on. -/
def runOn {α : Type} (file : FileUpload) (action : FileUpload.Action α) :
    Action (α × FileUpload) :=
  match action.run file with
  | .ok answer file => return (answer, file)
  | .error refusal _ => throw refusal

/-- Adds a prepared file. If the mechanism is not on offer that is a failure of the session, there
is no file, and `id` is not used. -/
def create (policy : Policy) (now : Instant) (id : FileId) (declaration : FileUpload.Declaration)
    (mechanism : String) : Action (Option FileUpload) := do
  let _ ← fire .createFile
  match policy.mechanisms.get? mechanism with
  | none =>
    let _ ← fail (unknownMechanismNotice mechanism)
    return none
  | some found =>
    let lifetime := policy.uploads.span .fileLifetime
    let (_, file) ← runOn (.new now lifetime id declaration found) FileUpload.prepare
    modify (addFile file)
    return some file

/-- The outcome of an action on the first file with an identifier, and all files after it. -/
def runOnFirst {α : Type} (id : FileId) (action : FileUpload.Action α) :
    List FileUpload → Option (EStateM.Result Refusal (List FileUpload) α)
  | [] => none
  | file :: rest =>
    if file.id = id then
      match action.run file with
      | .ok answer file => some (.ok answer (file :: rest))
      | .error refusal file => some (.error refusal (file :: rest))
    else
      match runOnFirst id action rest with
      | some (.ok answer rest) => some (.ok answer (file :: rest))
      | some (.error refusal rest) => some (.error refusal (file :: rest))
      | none => none

/-- An action on the first file with an identifier, if there is one. -/
def onFile {α : Type} (id : FileId) (action : FileUpload.Action α) : Action (Option α) := do
  let session ← get
  match runOnFirst id action session.files with
  | none => return none
  | some (.ok answer files) =>
    set { session with files }
    return some answer
  | some (.error refusal files) =>
    set { session with files }
    throw refusal

def blockedNotice : String := "Upload Session could not be published"

def publish : Action State := do
  let _ ← fire .publish
  if (← get).canPublish then fire .markPublished else fail blockedNotice

/-- Ends the session and leaves its files alone. -/
def cancel : Action State := fire .cancel

/-- Leaves the error state if no notices are left. -/
def revalidate : Action State := do
  let state ← fire .revalidate
  if (← get).hasErrors then return state else fire .clearErrors

def expiredNotice : String := "Expired Upload Sessions cannot be extended"

/-- Moves the deadline on; after the deadline that is a failure. -/
def extend (settings : UploadSettings) (now : Instant) (seconds : UInt64) : Action State := do
  let state ← fire .extend
  if (← get).isExpired now then fail expiredNotice
  else
    modify fun session =>
      { session with expiration := session.expiration.add (settings.extension seconds) }
    return state

/-- The token, which is fixed from here on. -/
def readToken : Action Token := do
  modify seeToken
  return (← get).token

/-- Cancels files one after another; counts those that are there. -/
def cancelFiles : List FileId → Action Nat
  | [] => return 0
  | id :: rest => do
    let canceled ← onFile id FileUpload.cancel
    let others ← cancelFiles rest
    return if canceled.isSome then others + 1 else others

/-- A file that the reaper has to cancel: expired and neither complete nor canceled. -/
def isOverdue (now : Instant) (file : FileUpload) : Bool :=
  file.isExpired now && !file.state.isTerminal

/-- Identifiers of the overdue files in order, as often as they occur. -/
def overdue (session : UploadSession) (now : Instant) : List FileId :=
  (session.files.filter (isOverdue now)).map (·.id)

/-- Cancels the overdue files and then the session; answers how many files it canceled. -/
def cancelExpired (now : Instant) : Action Nat := do
  let canceled ← cancelFiles ((← get).overdue now)
  let _ ← cancel
  return canceled

inductive Request where
  | create (id : FileId) (declaration : FileUpload.Declaration) (mechanism : String)
  | publish
  | cancel
  | fail (notice : String)
  | revalidate
  | extend (seconds : UInt64)
  | file (id : FileId) (request : FileUpload.Request)
  deriving DecidableEq

inductive Reply where
  | state (state : State)
  | created (file : Option FileUpload)
  | file (state : Option FileUpload.State)

def perform (policy : Policy) (now : Instant) : Request → Action Reply
  | .create id declaration mechanism =>
    return .created (← create policy now id declaration mechanism)
  | .publish => return .state (← publish)
  | .cancel => return .state (← cancel)
  | .fail notice => return .state (← fail notice)
  | .revalidate => return .state (← revalidate)
  | .extend seconds => return .state (← extend policy.uploads now seconds)
  | .file id request => return .file (← onFile id (FileUpload.perform policy.uploads now request))

/-- What the owner of a record may write into it. -/
inductive Edit where
  | clearNotices
  | nonce (nonce : String)
  | expiration (expiration : Instant)
  | id (id : SessionId)
  | file (id : FileId) (edit : FileUpload.Edit)

def edit (session : UploadSession) : Edit → UploadSession
  | .clearNotices => { session with notices := [] }
  | .nonce nonce => { session with nonce }
  | .expiration expiration => { session with expiration }
  | .id id => { session with id }
  | .file id edit => { session with files := session.files.modify (position id) (·.edit edit) }
where
  position (id : FileId) : Nat := session.files.findIdx (·.id = id)

end UploadSession

namespace Policy

def newSession (policy : Policy) (now : Instant) (id : SessionId)
    (project version nonce : String) : UploadSession :=
  .new now (policy.uploads.span .sessionLifetime) id project version nonce

end Policy

end ReleaseUpload
