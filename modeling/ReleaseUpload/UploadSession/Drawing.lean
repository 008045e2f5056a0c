import ReleaseUpload.UploadSession

/-!
Creation where identifiers are drawn from a source. One is drawn when it is certain that there will
be a file to bear it: `createDrawn_run` says that this is `create` with the identifier that the
source gives next, and that the source moves on exactly if a file comes of it.
-/

namespace ReleaseUpload.UploadSession

variable {World α : Type}

/-- An action on a session, with a world around it that it has no part in. -/
def inWorld (action : Action α) : EStateM Refusal (UploadSession × World) α := fun scene =>
  match action.run scene.1 with
  | .ok answer session => .ok answer (session, scene.2)
  | .error refusal session => .error refusal (session, scene.2)

/-- The next identifier of a source. -/
def draw (source : World → FileId × World) : EStateM Refusal (UploadSession × World) FileId :=
  modifyGet fun scene =>
    let (id, world) := source scene.2
    (id, scene.1, world)

/-- Adds a prepared file under the identifier that comes next. -/
def createDrawn (source : World → FileId × World) (policy : Policy) (now : Instant)
    (declaration : FileUpload.Declaration) (mechanism : String) :
    EStateM Refusal (UploadSession × World) (Option FileUpload) := do
  let _ ← inWorld (fire .createFile)
  match policy.mechanisms.get? mechanism with
  | none =>
    let _ ← inWorld (fail (unknownMechanismNotice mechanism))
    return none
  | some found =>
    let id ← draw source
    let lifetime := policy.uploads.span .fileLifetime
    let (_, file) ← inWorld (runOn (.new now lifetime id declaration found) FileUpload.prepare)
    inWorld (modify (addFile file))
    return some file

theorem inWorld_run (action : Action α) (session : UploadSession) (world : World) :
    (inWorld action).run (session, world) =
      match action.run session with
      | .ok answer session => .ok answer (session, world)
      | .error refusal session => .error refusal (session, world) := rfl

theorem createDrawn_run (source : World → FileId × World) (policy : Policy) (now : Instant)
    (declaration : FileUpload.Declaration) (mechanism : String) (session : UploadSession)
    (world : World) :
    (createDrawn source policy now declaration mechanism).run (session, world) =
      match (create policy now (source world).1 declaration mechanism).run session with
      | .ok (some file) after => .ok (some file) (after, (source world).2)
      | .ok none after => .ok none (after, world)
      | .error refusal after => .error refusal (after, world) := by
  simp only [createDrawn, create, EStateM.run_bind, inWorld_run]
  cases (fire .createFile).run session with
  | error refusal after => rfl
  | ok state entered =>
    cases policy.mechanisms.get? mechanism with
    | none =>
      simp only [EStateM.run_bind, inWorld_run]
      cases (fail (unknownMechanismNotice mechanism)).run entered <;> rfl
    -- A new file is pending, so it cannot be refused once its identifier has been drawn.
    | some found => rfl

end ReleaseUpload.UploadSession
