import ReleaseUpload.Proofs.UploadSession.Runs

/-!
Settled sessions. Published and canceled are states that no event leaves, so every request to a
settled session is refused under the name of its state, and no step changes that state or adds a
file.
-/

namespace ReleaseUpload.UploadSession

theorem next?_of_isTerminal {state : State} (settled : state.isTerminal = true) (event : Event) :
    state.next? event = none := by
  cases state <;> cases settled <;> rfl

section

variable {session : UploadSession} (settled : session.state.isTerminal = true)
include settled

theorem perform_run_of_settled {request : Request} {event : Event}
    (entry : request.event? = some event) (policy : Policy) (now : Instant) :
    (perform policy now request).run session = .error (.session session.state event) session :=
  perform_run_of_none entry (next?_of_isTerminal settled event)

theorem apply_ask_of_settled {request : Request} {event : Event}
    (entry : request.event? = some event) (policy : Policy) (now : Instant) :
    session.apply (.ask policy now request) = session :=
  leaves_of_error (perform_run_of_settled settled entry policy now)

theorem apply_reap_of_settled (now : Instant) : session.apply (.reap now) = session := by
  rw [apply, if_neg]
  simp [Store.isOverdue, settled]

theorem apply_settled (step : Step) :
    (session.apply step).state = session.state ∧
      (session.apply step).files.length = session.files.length := by
  cases step with
  | ask policy now request =>
    cases entry : request.event? with
    | some event =>
      rw [apply_ask_of_settled settled entry]
      exact ⟨rfl, rfl⟩
    | none =>
      cases request with
      | file id asked =>
        rw [apply, leaves_perform_file]
        exact ⟨rfl, length_modifyFirst⟩
      | _ => cases entry
  | write edit =>
    cases edit with
    | file id edit =>
      rw [apply, edit_file]
      exact ⟨rfl, length_modifyFirst⟩
    | _ => exact ⟨rfl, rfl⟩
  | readToken => exact ⟨rfl, rfl⟩
  | showStatus policy now => exact ⟨rfl, rfl⟩
  | reap now =>
    rw [apply_reap_of_settled settled]
    exact ⟨rfl, rfl⟩

theorem after_settled (steps : List Step) :
    (session.after steps).state = session.state ∧
      (session.after steps).files.length = session.files.length := by
  induction steps generalizing session with
  | nil => exact ⟨rfl, rfl⟩
  | cons step rest inductionHypothesis =>
    obtain ⟨state, length⟩ := apply_settled settled step
    have still : (session.apply step).state.isTerminal = true := by
      rw [state]
      exact settled
    obtain ⟨laterState, laterLength⟩ := inductionHypothesis still
    exact ⟨laterState.trans state, laterLength.trans length⟩

end

end ReleaseUpload.UploadSession
