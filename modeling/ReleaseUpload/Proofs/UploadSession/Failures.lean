import ReleaseUpload.Proofs.UploadSession.Runs

/-!
Failures. A request that a session takes can still fail, and then the session keeps a notice of it.
`notices_apply` says that a step leaves one notice for the failure that it records, if any, and
`notices_eq_standing` that over a whole run the notices are the failures since the last clearing.
-/

namespace ReleaseUpload.UploadSession

/-- The owner clears the notices. -/
def Step.clears : Step → Bool
  | .write .clearNotices => true
  | _ => false

theorem Step.eq_of_clears {step : Step} (clears : step.clears = true) :
    step = .write .clearNotices := by
  cases step with
  | write edit =>
    cases edit with
    | clearNotices => rfl
    | _ => cases clears
  | _ => cases clears

/-- The notice of a request that fails where the session takes it. -/
def fault? (session : UploadSession) (policy : Policy) (now : Instant) : Request → Option String
  | .create _ _ mechanism =>
    if (policy.mechanisms.get? mechanism).isNone then
      some ("Unknown upload mechanism: " ++ mechanism)
    else none
  | .publish => if session.canPublish then none else some blockedNotice
  | .fail notice => some notice
  | .extend _ => if session.isExpired now then some expiredNotice else none
  | .cancel | .revalidate | .file .. => none

/-- The notice of the failure that a step records. A refused request records none. -/
def failure? (session : UploadSession) : Step → Option String
  | .ask policy now request =>
    match (perform policy now request).run session with
    | .ok _ _ => session.fault? policy now request
    | .error _ _ => none
  | _ => none

/-- The failures of a run that no later step has cleared, oldest first. -/
def standing (session : UploadSession) : List Step → List String
  | [] => []
  | step :: rest =>
    (if rest.any Step.clears then [] else (session.failure? step).toList) ++
      (session.apply step).standing rest

section

variable (session : UploadSession) (policy : Policy) (now : Instant) (request : Request)

theorem failure?_ask :
    session.failure? (.ask policy now request) =
      match session.refusal? request with
      | some _ => none
      | none => session.fault? policy now request := by
  rw [failure?, perform_run]
  cases session.refusal? request with
  | none => simp only
  | some refusal => simp only

theorem notices_accepted :
    (session.accepted policy now request).2.notices =
      session.notices ++ (session.fault? policy now request).toList := by
  cases request with
  | create id declaration mechanism =>
    cases found : policy.mechanisms.get? mechanism with
    | none =>
      simp only [accepted, fault?, found, failed, addNotice]
      rfl
    | some mechanism => simp [accepted, fault?, found, addFile]
  | publish =>
    cases ready : session.canPublish <;> simp [accepted, fault?, ready, failed, addNotice]
  | cancel => simp [accepted, fault?]
  | fail notice => simp [accepted, fault?, failed, addNotice]
  | revalidate =>
    cases noted : session.hasErrors <;> simp [accepted, fault?, noted]
  | extend seconds =>
    cases late : session.isExpired now <;> simp [accepted, fault?, late, failed, addNotice]
  | file id asked =>
    cases found : session.file? id <;> simp [accepted, fault?, found, modifyFile]

theorem state_accepted_of_fault {notice : String}
    (fault : session.fault? policy now request = some notice) :
    (session.accepted policy now request).2.state = .error := by
  cases request with
  | create id declaration mechanism =>
    cases found : policy.mechanisms.get? mechanism with
    | none => simp [accepted, found, failed, addNotice]
    | some mechanism => simp [fault?, found] at fault
  | publish =>
    cases ready : session.canPublish with
    | false => simp [accepted, ready, failed, addNotice]
    | true => simp [fault?, ready] at fault
  | fail notice => rfl
  | extend seconds =>
    cases late : session.isExpired now with
    | false => simp [fault?, late] at fault
    | true => simp [accepted, late, failed, addNotice]
  | _ => cases fault

end

/-- A step adds a notice for the failure that it records, and nothing else but clearing them touches
the notices. -/
theorem notices_apply (session : UploadSession) (step : Step) :
    (session.apply step).notices =
      if step.clears then [] else session.notices ++ (session.failure? step).toList := by
  cases step with
  | ask policy now request =>
    rw [apply, leaves_perform, failure?_ask]
    cases session.refusal? request with
    | none => exact session.notices_accepted policy now request
    | some refusal => exact (List.append_nil _).symm
  | write edit =>
    cases edit with
    | clearNotices => rfl
    | _ => exact (List.append_nil _).symm
  | readToken => exact (List.append_nil _).symm
  | showStatus policy now => exact (List.append_nil _).symm
  | reap now =>
    rw [(session.reaped_apply_reap now).same]
    exact (List.append_nil _).symm

theorem state_apply_of_failure {session : UploadSession} {step : Step} {notice : String}
    (failure : session.failure? step = some notice) : (session.apply step).state = .error := by
  cases step with
  | ask policy now request =>
    rw [failure?_ask] at failure
    rw [apply, leaves_perform]
    cases refused : session.refusal? request with
    | none =>
      rw [refused] at failure
      exact session.state_accepted_of_fault policy now request failure
    | some refusal =>
      rw [refused] at failure
      cases failure
  | _ => cases failure

/-- After a run there are the failures that still stand, behind the notices that there were before
unless these have been cleared. -/
theorem notices_after (session : UploadSession) (steps : List Step) :
    (session.after steps).notices =
      (if steps.any Step.clears then [] else session.notices) ++ session.standing steps := by
  induction steps generalizing session with
  | nil => exact (List.append_nil _).symm
  | cons step rest inductionHypothesis =>
    rw [after_cons, inductionHypothesis, notices_apply, standing, List.any_cons]
    cases rest.any Step.clears with
    | true => simp
    | false =>
      cases clears : step.clears with
      | false => simp
      | true =>
        obtain rfl := Step.eq_of_clears clears
        simp [failure?]

/-- The notices of a session are the failures of its run since they were last cleared, one for each
and oldest first. -/
theorem notices_eq_standing (created : Instant) (lifetime : Span) (id : SessionId)
    (project version nonce : String) (steps : List Step) :
    ((new created lifetime id project version nonce).after steps).notices =
      (new created lifetime id project version nonce).standing steps := by
  rw [notices_after]
  exact congrArg (· ++ _) (ite_self [])

/-- An unknown mechanism is noted in error as it is while pending. -/
example :
    let now : Instant := .ofParts 1700000000 0
    ((new now (.ofSeconds 60) ⟨0#128⟩ "demo" "1.0" "").after
      [.ask .standard now (.fail "first"), .write .clearNotices,
        .ask .standard now (.create ⟨1#128⟩ { filename := "demo.zip", size := 7 } "ftp"),
        .ask .standard now (.fail "last")]).notices =
      ["Unknown upload mechanism: ftp", "last"] := by
  rfl

end ReleaseUpload.UploadSession
