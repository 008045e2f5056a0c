import Mathlib.Tactic.SplitIfs
import ReleaseUpload.Proofs.UploadSession.Files

/-!
What each request does to a session. As for a file, `refusal?` says whether a request is turned away
and with which refusal, `accepted` is the answer to one that is not with the record after it, and
`perform_run` ties both to the action behind the request. No compound request is refused half way.
-/

namespace ReleaseUpload.UploadSession

/-- The event by which a request to the session itself enters the table of transitions. -/
def Request.event? : Request → Option Event
  | .create .. => some .createFile
  | .publish => some .publish
  | .cancel => some .cancel
  | .fail _ => some .fail
  | .revalidate => some .revalidate
  | .extend _ => some .extend
  | .file .. => none

theorem Request.exists_event {request : Request} (own : ∀ id asked, request ≠ .file id asked) :
    ∃ event, request.event? = some event := by
  cases request with
  | file id asked => exact absurd rfl (own id asked)
  | _ => exact ⟨_, rfl⟩

/-- The refusal of an event that the state does not take. -/
def eventRefusal? (session : UploadSession) (event : Event) : Option Refusal :=
  match session.state.next? event with
  | some _ => none
  | none => some (.session session.state event)

/-- The refusal of a request, which for a file of the session is the refusal of that file. -/
def refusal? (session : UploadSession) : Request → Option Refusal
  | .create .. => session.eventRefusal? .createFile
  | .publish => session.eventRefusal? .publish
  | .cancel => session.eventRefusal? .cancel
  | .fail _ => session.eventRefusal? .fail
  | .revalidate => session.eventRefusal? .revalidate
  | .extend _ => session.eventRefusal? .extend
  | .file id request => (session.file? id).bind (·.refusal? request)

/-- The record after a recorded failure. -/
def failed (notice : String) (session : UploadSession) : UploadSession :=
  addNotice notice { session with state := .error }

/-- A new file with its instructions filled in. -/
def preparedFile (policy : Policy) (now : Instant) (id : FileId)
    (declaration : FileUpload.Declaration) (mechanism : Mechanism) : FileUpload :=
  (FileUpload.new now (policy.uploads.span .fileLifetime) id declaration mechanism).fillInstructions

/-- The answer to a request that is not refused, and the record after it. -/
def accepted (policy : Policy) (now : Instant) (session : UploadSession) :
    Request → Reply × UploadSession
  | .create id declaration mechanism =>
    match policy.mechanisms.get? mechanism with
    | none => (.created none, session.failed (unknownMechanismNotice mechanism))
    | some found =>
      let file := preparedFile policy now id declaration found
      (.created (some file), session.addFile file)
  | .publish =>
    if session.canPublish then (.state .published, { session with state := .published })
    else (.state .error, session.failed blockedNotice)
  | .cancel => (.state .canceled, { session with state := .canceled })
  | .fail notice => (.state .error, session.failed notice)
  | .revalidate =>
    if session.hasErrors then (.state .error, session)
    else (.state .pending, { session with state := .pending })
  | .extend seconds =>
    if session.isExpired now then (.state .error, session.failed expiredNotice)
    else (.state .pending,
      { session with expiration := session.expiration.add (policy.uploads.extension seconds) })
  | .file id request =>
    match session.file? id with
    | none => (.file none, session)
    | some file =>
      (.file (some (file.accepted policy.uploads now request).state),
        session.modifyFile id (·.accepted policy.uploads now request))

theorem refusal?_of_event {session : UploadSession} {request : Request} {event : Event}
    (entry : request.event? = some event) :
    session.refusal? request = session.eventRefusal? event := by
  cases request <;> cases entry <;> rfl

theorem fire_run (event : Event) (session : UploadSession) :
    (fire event).run session =
      match session.state.next? event with
      | some state => .ok state { session with state }
      | none => .error (.session session.state event) session := by
  simp only [fire, EStateM.run_bind, EStateM.run_get]
  cases session.state.next? event <;> rfl

theorem runOn_prepare_new (policy : Policy) (now : Instant) (id : FileId)
    (declaration : FileUpload.Declaration) (mechanism : Mechanism) (session : UploadSession) :
    (runOn (.new now (policy.uploads.span .fileLifetime) id declaration mechanism)
        FileUpload.prepare).run session =
      .ok (.pending, preparedFile policy now id declaration mechanism) session := rfl

section

variable {policy : Policy} {now : Instant} {request : Request} {session : UploadSession}

/-- Every action on the session itself fires the event of its request before anything else. -/
theorem perform_run_of_none {event : Event} (entry : request.event? = some event)
    (refused : session.state.next? event = none) :
    (perform policy now request).run session = .error (.session session.state event) session := by
  cases request <;> cases entry <;>
    simp only [perform, create, publish, cancel, fail, revalidate, extend, EStateM.run_bind,
      fire_run, refused]

theorem perform_run_of_some {event : Event} (entry : request.event? = some event) {next : State}
    (taken : session.state.next? event = some next) :
    (perform policy now request).run session =
      .ok (session.accepted policy now request).1 (session.accepted policy now request).2 := by
  obtain ⟨id, project, version, nonce, createdAt, expiration, seenToken, files, notices, state⟩ :=
    session
  cases request with
  | create id declaration mechanism =>
    cases entry
    cases found : policy.mechanisms.get? mechanism <;>
      cases state <;> cases taken <;>
      simp only [perform, create, fail, EStateM.run_bind, EStateM.run_pure, EStateM.run_modify,
        fire_run, State.next?, accepted, found, runOn_prepare_new] <;>
      rfl
  | publish =>
    cases entry
    cases state <;> cases taken
    simp only [perform, publish, EStateM.run_bind, EStateM.run_get, fire_run, State.next?, accepted]
    split_ifs <;> rfl
  | cancel => cases entry; cases state <;> cases taken <;> rfl
  | fail notice => cases entry; cases state <;> cases taken <;> rfl
  | revalidate =>
    cases entry
    cases state <;> cases taken
    simp only [perform, revalidate, EStateM.run_bind, EStateM.run_get, fire_run, State.next?,
      accepted]
    split_ifs <;> rfl
  | extend seconds =>
    cases entry
    cases state <;> cases taken
    simp only [perform, extend, EStateM.run_bind, EStateM.run_get, fire_run, State.next?, accepted]
    split_ifs <;> rfl
  | file id request => cases entry

theorem perform_file_run (id : FileId) (asked : FileUpload.Request) :
    (perform policy now (.file id asked)).run session =
      match session.refusal? (.file id asked) with
      | some refusal => .error refusal session
      | none => .ok (session.accepted policy now (.file id asked)).1
          (session.accepted policy now (.file id asked)).2 := by
  simp only [perform, EStateM.run_bind, onFile_run, refusal?, accepted]
  cases found : session.file? id with
  | none => rfl
  | some file =>
    have unchanged : session.modifyFile id (fun _ => file) = session :=
      modifyFile_eq_self found rfl
    have changed : session.modifyFile id (fun _ => file.accepted policy.uploads now asked) =
        session.modifyFile id (·.accepted policy.uploads now asked) := modifyFile_congr found rfl
    simp only [FileUpload.perform_run, Option.bind_some]
    cases file.refusal? asked with
    | none => simp only [changed, EStateM.run_pure]
    | some refusal => simp only [unchanged]

end

variable (policy : Policy) (now : Instant) (request : Request) (session : UploadSession)

theorem perform_run :
    (perform policy now request).run session =
      match session.refusal? request with
      | some refusal => .error refusal session
      | none => .ok (session.accepted policy now request).1
          (session.accepted policy now request).2 := by
  cases entry : request.event? with
  | none =>
    cases request with
    | file id asked => exact perform_file_run id asked
    | _ => cases entry
  | some event =>
    rw [refusal?_of_event entry, eventRefusal?]
    cases taken : session.state.next? event with
    | none => exact perform_run_of_none entry taken
    | some next => exact perform_run_of_some entry taken

theorem leaves_perform :
    leaves (perform policy now request) session =
      match session.refusal? request with
      | some _ => session
      | none => (session.accepted policy now request).2 := by
  have run := perform_run policy now request session
  cases refused : session.refusal? request <;> rw [refused] at run
  · exact leaves_of_ok run
  · exact leaves_of_error run

theorem leaves_perform_file (id : FileId) (asked : FileUpload.Request) :
    leaves (perform policy now (.file id asked)) session =
      session.modifyFile id (leaves (FileUpload.perform policy.uploads now asked)) := by
  rw [← leaves_onFile]
  simp only [leaves, perform, EStateM.run_bind]
  cases (onFile id (FileUpload.perform policy.uploads now asked)).run session <;> rfl

end ReleaseUpload.UploadSession
