import ReleaseUpload.Error
import ReleaseUpload.UploadSession

/-!
A store of upload sessions, found by identifier and by token. Whoever inserts or looks up a session
gets a `Handle` to it, and the handle stays good after the session has left the store. The two
indexes keep the identifier and the token that a session came in with. Where a limit makes it matter
in which order the sessions are visited, the order is a parameter.
-/

namespace ReleaseUpload

/-- A session's place among all that were ever inserted. -/
abbrev Handle := Nat

/-- An identifier that is taken, and the session under it. -/
abbrev Store.Entry := SessionId × Handle

structure Store where
  /-- Every session that was ever inserted, whether the store still has it or not. -/
  records : List UploadSession
  /-- Sessions of the store by the identifier they came in with. -/
  sessions : List Store.Entry
  /-- The same sessions by their token. -/
  tokens : List (Token × SessionId)

namespace Store

def empty : Store := ⟨[], [], []⟩

instance : EmptyCollection Store := ⟨empty⟩

instance : Inhabited Store := ⟨empty⟩

abbrev Action := EStateM StoreError Store

def record? (store : Store) (handle : Handle) : Option UploadSession := store.records[handle]?

def setRecord (store : Store) (handle : Handle) (session : UploadSession) : Store :=
  { store with records := store.records.set handle session }

def get? (store : Store) (id : SessionId) : Option Handle := store.sessions.lookup id

def find? (store : Store) (token : Token) : Option Handle :=
  (store.tokens.lookup token).bind store.get?

/-- What a refused insertion says about a token that is taken. -/
def takenRelease (session : UploadSession) : String :=
  "upload session for " ++ session.project ++ "==" ++ session.version

def sessionName (id : SessionId) : String := "upload session " ++ id.toString

/-- Takes a session in, which fixes its token. The token must be free, and then the identifier. -/
def insert (session : UploadSession) : Action Handle := do
  let store ← get
  if (store.tokens.lookup session.token).isSome then
    throw (.alreadyExists (takenRelease session))
  else if (store.get? session.id).isSome then
    throw (.alreadyExists (sessionName session.id))
  else
    set ({
      records := store.records ++ [session.seeToken]
      sessions := store.sessions ++ [(session.id, store.records.length)]
      tokens := store.tokens ++ [(session.token, session.id)] } : Store)
    return store.records.length

/-- Takes a session out of both indexes. Its token is fixed and leads to `id`. -/
def drop (store : Store) (entry : Entry) : Store :=
  let tokens :=
    match store.record? entry.2 with
    | some session => store.tokens.filter fun pair => ¬(pair.1 = session.token ∧ pair.2 = entry.1)
    | none => store.tokens
  { store with sessions := store.sessions.filter (·.1 ≠ entry.1), tokens }

def remove (id : SessionId) : Action Unit := do
  let store ← get
  match store.get? id with
  | none => throw (.notFound (sessionName id))
  | some handle => set (store.drop (id, handle))

/-- An order in which to visit the sessions of a store. -/
structure Visit where
  arrange : List Entry → List Entry
  perm : ∀ entries, (arrange entries).Perm entries

/-- Visits sessions in the order of their insertion. -/
def Visit.inOrder : Visit := ⟨id, fun _ => .rfl⟩

/-- Whether the record behind an entry has a property. -/
def holds (store : Store) (property : UploadSession → Bool) (entry : Entry) : Bool :=
  (store.record? entry.2).any property

/-- Past its deadline and still open. -/
def isOverdue (now : Instant) (session : UploadSession) : Bool :=
  session.isExpired now && !session.state.isTerminal

/-- Past its deadline and settled. -/
def isEvictable (now : Instant) (session : UploadSession) : Bool :=
  session.isExpired now && session.state.isTerminal

/-- The first overdue sessions of a visit, up to a limit. -/
def expired (store : Store) (visit : Visit) (now : Instant) (limit : Nat) : List Handle :=
  (((visit.arrange store.sessions).filter (store.holds (isOverdue now))).take limit).map (·.2)

/-- The first evictable sessions of a visit, up to a limit. -/
def evictable (store : Store) (visit : Visit) (now : Instant) (limit : Nat) : List Entry :=
  ((visit.arrange store.sessions).filter (store.holds (isEvictable now))).take limit

/-- Drops evictable sessions up to a limit; answers how many. -/
def evictTerminal (visit : Visit) (now : Instant) (limit : Nat) : Action Nat := do
  let entries := (← get).evictable visit now limit
  modify fun store => entries.foldl drop store
  return entries.length

def countActive (store : Store) : Nat :=
  (store.sessions.filter (store.holds fun session => !session.state.isTerminal)).length

end Store

end ReleaseUpload
