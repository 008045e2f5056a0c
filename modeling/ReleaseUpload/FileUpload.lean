import ReleaseUpload.FileUpload.Declaration
import ReleaseUpload.Refusal
import ReleaseUpload.Settings

/-!
The upload of one file. An `Action` on a file either answers or is refused, and leaves a record in
both cases; what a client or the service can ask for is a `Request`, and what the owner of the
record may write into it directly is an `Edit`.
-/

namespace ReleaseUpload

open FileUpload (Declaration)

structure FileUpload where
  id : FileId
  declaration : Declaration
  mechanism : Mechanism
  createdAt : Instant
  expiration : Instant
  /-- What the mechanism told the client; nothing before the file is prepared. -/
  instructions : Option Instructions
  /-- Failures, oldest first. -/
  notices : List String
  state : FileUpload.State

namespace FileUpload

def new (now : Instant) (lifetime : Span) (id : FileId) (declaration : Declaration)
    (mechanism : Mechanism) : FileUpload where
  id := id
  declaration := declaration
  mechanism := mechanism
  createdAt := now
  expiration := now.add lifetime
  instructions := none
  notices := []
  state := .pending

def isExpired (file : FileUpload) (now : Instant) : Bool := file.expiration < now

/-- Whole seconds left, zero after the deadline. -/
def validFor (file : FileUpload) (now : Instant) : Int := file.expiration.secondsUntil now

/-- Asks the mechanism for instructions unless they are there already. -/
def fillInstructions (file : FileUpload) : FileUpload :=
  match file.instructions with
  | some _ => file
  | none => { file with instructions := some (file.mechanism.instructions file.id) }

def addNotice (notice : String) (file : FileUpload) : FileUpload :=
  { file with notices := file.notices ++ [notice] }

abbrev Action := EStateM Refusal FileUpload

def fire (event : Event) : Action State := do
  let file ← get
  match file.state.next? event with
  | some state =>
    set { file with state }
    return state
  | none => throw (.file file.state event)

def prepare : Action State := do
  let state ← fire .prepare
  modify fillInstructions
  return state

def process : Action State := fire .process

def complete : Action State := fire .complete

/-- The bytes have arrived: on to processing where the mechanism wants it, or done. -/
def ready : Action State := do
  let _ ← fire .ready
  if (← get).mechanism.requiresProcessing then process else complete

def fail (notice : String) : Action State := do
  let state ← fire .fail
  modify (addNotice notice)
  return state

def cancel : Action State := fire .cancel

def expiredNotice : String := "Expired File Upload Sessions cannot be extended"

/-- Moves the deadline on; after the deadline that is a failure. -/
def extend (settings : UploadSettings) (now : Instant) (seconds : UInt64) : Action State := do
  let state ← fire .extend
  if (← get).isExpired now then fail expiredNotice
  else
    modify fun file =>
      { file with expiration := file.expiration.add (settings.extension seconds) }
    return state

inductive Request where
  | prepare
  | ready
  | process
  | complete
  | fail (notice : String)
  | cancel
  | extend (seconds : UInt64)
  deriving DecidableEq, Repr

/-- The event by which a request enters the table of transitions. -/
def Request.event : Request → Event
  | .prepare => .prepare
  | .ready => .ready
  | .process => .process
  | .complete => .complete
  | .fail _ => .fail
  | .cancel => .cancel
  | .extend _ => .extend

def perform (settings : UploadSettings) (now : Instant) : Request → Action State
  | .prepare => prepare
  | .ready => ready
  | .process => process
  | .complete => complete
  | .fail notice => fail notice
  | .cancel => cancel
  | .extend seconds => extend settings now seconds

/-- What the owner of a record may write into it. -/
inductive Edit where
  | instructions
  | filename (filename : String)
  | expiration (expiration : Instant)
  | id (id : FileId)
  | mechanism (mechanism : Mechanism)

def edit (file : FileUpload) : Edit → FileUpload
  | .instructions => file.fillInstructions
  | .filename filename => { file with declaration := { file.declaration with filename } }
  | .expiration expiration => { file with expiration }
  | .id id => { file with id }
  | .mechanism mechanism => { file with mechanism }

end FileUpload

end ReleaseUpload
