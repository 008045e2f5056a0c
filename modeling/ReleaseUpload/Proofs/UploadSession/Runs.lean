import ReleaseUpload.Proofs.UploadSession.Cancellation
import ReleaseUpload.Store
import ReleaseUpload.UploadSession.Status

/-!
Runs of one session. A `Step` is anything that can happen to its record: a request, a write by the
owner, a look at the token or at the status, and a visit of the reaper. A run is a list of steps.
-/

namespace ReleaseUpload.UploadSession

inductive Step where
  | ask (policy : Policy) (now : Instant) (request : Request)
  | write (edit : Edit)
  | readToken
  | showStatus (policy : Policy) (now : Instant)
  | reap (now : Instant)

/-- The record after a step, which may have been refused. The reaper leaves a session alone unless
it is overdue. -/
def apply (session : UploadSession) : Step → UploadSession
  | .ask policy now request => leaves (perform policy now request) session
  | .write edit => session.edit edit
  | .readToken => leaves readToken session
  | .showStatus policy now => leaves (showStatus policy now) session
  | .reap now =>
    if Store.isOverdue now session then leaves (cancelExpired now) session else session

/-- The record after a run. -/
def after (session : UploadSession) (steps : List Step) : UploadSession := steps.foldl apply session

@[simp] theorem after_nil (session : UploadSession) : session.after [] = session := rfl

@[simp] theorem after_cons (session : UploadSession) (step : Step) (rest : List Step) :
    session.after (step :: rest) = (session.apply step).after rest := rfl

theorem after_append (session : UploadSession) (first second : List Step) :
    session.after (first ++ second) = (session.after first).after second :=
  List.foldl_append

theorem apply_readToken (session : UploadSession) :
    session.apply .readToken = session.seeToken := rfl

theorem apply_showStatus (session : UploadSession) (policy : Policy) (now : Instant) :
    session.apply (.showStatus policy now) = session.seeToken := rfl

theorem seeToken_of_seen {session : UploadSession} {token : Token}
    (seen : session.seenToken = some token) : session.seeToken = session := by
  cases session
  cases seen
  rfl

/-- A visit of the reaper cancels and does nothing else. -/
theorem reaped_apply_reap (session : UploadSession) (now : Instant) :
    Reaped session (session.apply (.reap now)) := by
  rw [apply]
  split
  · exact reaped_cancelExpired now session
  · exact .refl session

/-- What a request can change at all. -/
theorem accepted_same (session : UploadSession) (policy : Policy) (now : Instant)
    (request : Request) :
    let after := (session.accepted policy now request).2
    after = { session with
      expiration := after.expiration, files := after.files, notices := after.notices,
      state := after.state } := by
  cases request with
  | cancel => rfl
  | fail notice => rfl
  | _ =>
    simp only [accepted]
    split <;> rfl

theorem apply_ask_same (session : UploadSession) (policy : Policy) (now : Instant)
    (request : Request) :
    let asked := session.apply (.ask policy now request)
    asked = { session with
      expiration := asked.expiration, files := asked.files, notices := asked.notices,
      state := asked.state } := by
  rw [apply, leaves_perform]
  split
  · rfl
  · exact session.accepted_same policy now request

/-- Project and version of a session cannot be written. -/
theorem release_apply (session : UploadSession) (step : Step) :
    (session.apply step).project = session.project ∧
      (session.apply step).version = session.version := by
  cases step with
  | ask policy now request =>
    rw [apply_ask_same]
    exact ⟨rfl, rfl⟩
  | write edit => cases edit <;> exact ⟨rfl, rfl⟩
  | readToken => exact ⟨rfl, rfl⟩
  | showStatus policy now => exact ⟨rfl, rfl⟩
  | reap now =>
    rw [(session.reaped_apply_reap now).same]
    exact ⟨rfl, rfl⟩

theorem release_after (session : UploadSession) (steps : List Step) :
    (session.after steps).project = session.project ∧
      (session.after steps).version = session.version := by
  induction steps generalizing session with
  | nil => exact ⟨rfl, rfl⟩
  | cons step rest inductionHypothesis =>
    obtain ⟨project, version⟩ := inductionHypothesis (session.apply step)
    obtain ⟨projectKept, versionKept⟩ := session.release_apply step
    exact ⟨project.trans projectKept, version.trans versionKept⟩

/-- A token that has been seen stays. -/
theorem apply_seenToken {session : UploadSession} {token : Token}
    (seen : session.seenToken = some token) (step : Step) :
    (session.apply step).seenToken = some token := by
  cases step with
  | ask policy now request => rw [apply_ask_same, seen]
  | write edit => cases edit <;> exact seen
  | readToken => rw [apply_readToken, seeToken_of_seen seen, seen]
  | showStatus policy now => rw [apply_showStatus, seeToken_of_seen seen, seen]
  | reap now => rw [(session.reaped_apply_reap now).same, seen]

theorem after_seenToken {session : UploadSession} {token : Token}
    (seen : session.seenToken = some token) (steps : List Step) :
    (session.after steps).seenToken = some token := by
  induction steps generalizing session with
  | nil => exact seen
  | cons step rest inductionHypothesis => exact inductionHypothesis (apply_seenToken seen step)

theorem token_of_seen {session : UploadSession} {token : Token}
    (seen : session.seenToken = some token) : session.token = token := by
  rw [UploadSession.token, seen, Option.getD_some]

end ReleaseUpload.UploadSession
