import ReleaseUpload.Proofs.UploadSession.Failures
import ReleaseUpload.Proofs.UploadSession.Settlement

/-!
Recovery. `moves_apply` lists the ways in which a step can move the state of a session, each with
what it says of the notices. A session that failed therefore has notices, and gets back to work only
by a revalidation after these have been cleared; `notices_agree` says so for whole runs.
-/

namespace ReleaseUpload.UploadSession

/-- The ways in which a step moves the state of a session. -/
inductive Moves (session : UploadSession) (step : Step) : State → Prop
  | failed {notice : String} (failure : session.failure? step = some notice) :
      Moves session step .error
  | stayed (silent : session.failure? step = none) : Moves session step session.state
  | canceled (silent : session.failure? step = none) : Moves session step .canceled
  | published (pending : session.state = .pending) (silent : session.failure? step = none) :
      Moves session step .published
  | revalidated {policy : Policy} {now : Instant} (asked : step = .ask policy now .revalidate)
      (clean : session.notices = [])
      (run : (perform policy now .revalidate).run session =
        .ok (.state .pending) { session with state := .pending }) :
      Moves session step .pending

theorem hasErrors_eq_false_iff {session : UploadSession} :
    session.hasErrors = false ↔ session.notices = [] := by
  simp [hasErrors]

theorem pending_of_publish {session : UploadSession}
    (taken : session.refusal? .publish = none) : session.state = .pending := by
  rw [refusal?, eventRefusal?] at taken
  cases current : session.state with
  | pending => rfl
  | _ =>
    rw [current] at taken
    cases taken

theorem moves_accepted {session : UploadSession} {policy : Policy} {now : Instant}
    {request : Request} (taken : session.refusal? request = none) :
    Moves session (.ask policy now request) (session.accepted policy now request).2.state := by
  have recorded : session.failure? (.ask policy now request) =
      session.fault? policy now request := by
    rw [failure?_ask, taken]
  have run := perform_run policy now request session
  rw [taken] at run
  cases fault : session.fault? policy now request with
  | some notice =>
    rw [state_accepted_of_fault _ _ _ _ fault]
    exact .failed (recorded.trans fault)
  | none =>
    have silent := recorded.trans fault
    cases request with
    | create id declaration mechanism =>
      cases found : policy.mechanisms.get? mechanism with
      | none => simp [fault?, found] at fault
      | some mechanism =>
        simp only [accepted, found]
        exact .stayed silent
    | publish =>
      cases ready : session.canPublish with
      | false => simp [fault?, ready] at fault
      | true =>
        simp only [accepted, ready]
        exact .published (pending_of_publish taken) silent
    | cancel => exact .canceled silent
    | fail notice => cases fault
    | revalidate =>
      cases noted : session.hasErrors with
      | true =>
        simp only [accepted, noted]
        exact .stayed silent
      | false =>
        simp only [accepted, noted] at run ⊢
        exact .revalidated rfl (hasErrors_eq_false_iff.mp noted) run
    | extend seconds =>
      cases late : session.isExpired now with
      | true => simp [fault?, late] at fault
      | false =>
        simp only [accepted, late]
        exact .stayed silent
    | file id asked =>
      simp only [accepted]
      cases session.file? id <;> exact .stayed silent

theorem moves_apply (session : UploadSession) (step : Step) :
    Moves session step (session.apply step).state := by
  cases step with
  | ask policy now request =>
    rw [apply, leaves_perform]
    cases taken : session.refusal? request with
    | none => exact moves_accepted taken
    | some refusal =>
      apply Moves.stayed
      rw [failure?_ask, taken]
  | write edit => cases edit <;> exact .stayed rfl
  | readToken => exact .stayed rfl
  | showStatus policy now => exact .stayed rfl
  | reap now =>
    rcases (session.reaped_apply_reap now).state with kept | canceled
    · rw [kept]
      exact .stayed rfl
    · rw [canceled]
      exact .canceled rfl

/-- A pending or published session has nothing to report. -/
def Clean (session : UploadSession) : Prop :=
  session.state = .pending ∨ session.state = .published → session.notices = []

/-- A session in error says why. -/
def Explained (session : UploadSession) : Prop := session.state = .error → session.notices ≠ []

theorem clears_eq_false_of_failure {session : UploadSession} {step : Step} {notice : String}
    (failure : session.failure? step = some notice) : step.clears = false := by
  cases clears : step.clears with
  | false => rfl
  | true =>
    rw [Step.eq_of_clears clears] at failure
    cases failure

theorem notices_apply_of_silent {session : UploadSession} {step : Step}
    (silent : session.failure? step = none) (clean : session.notices = []) :
    (session.apply step).notices = [] := by
  rw [notices_apply, silent, clean]
  exact ite_self []

theorem Clean.apply {session : UploadSession} (clean : session.Clean) (step : Step) :
    (session.apply step).Clean := by
  intro sound
  have moves := session.moves_apply step
  generalize (session.apply step).state = next at moves sound
  cases moves with
  | failed failure => simp at sound
  | stayed silent => exact notices_apply_of_silent silent (clean sound)
  | canceled silent => simp at sound
  | published pending silent => exact notices_apply_of_silent silent (clean (.inl pending))
  | revalidated asked unnoted run =>
    rw [asked, UploadSession.apply, leaves_of_ok run]
    exact unnoted

theorem Clean.after {session : UploadSession} (clean : session.Clean) (steps : List Step) :
    (session.after steps).Clean := by
  induction steps generalizing session with
  | nil => exact clean
  | cons step rest inductionHypothesis => exact inductionHypothesis (clean.apply step)

theorem notices_apply_ne_nil {session : UploadSession} {step : Step} (kept : step.clears = false)
    (noted : session.notices ≠ []) : (session.apply step).notices ≠ [] := by
  rw [notices_apply, kept]
  exact List.append_ne_nil_of_left_ne_nil noted _

theorem notices_apply_of_failure {session : UploadSession} {step : Step} {notice : String}
    (failure : session.failure? step = some notice) : (session.apply step).notices ≠ [] := by
  rw [notices_apply, clears_eq_false_of_failure failure, failure]
  exact List.concat_ne_nil notice _

theorem Explained.apply {session : UploadSession} (explained : session.Explained) {step : Step}
    (kept : step.clears = false) : (session.apply step).Explained := by
  intro failing
  have moves := session.moves_apply step
  generalize (session.apply step).state = next at moves failing
  cases moves with
  | failed failure => exact notices_apply_of_failure failure
  | stayed silent => exact notices_apply_ne_nil kept (explained failing)
  | _ => cases failing

theorem Explained.after {session : UploadSession} (explained : session.Explained)
    {steps : List Step} (kept : steps.any Step.clears = false) :
    (session.after steps).Explained := by
  induction steps generalizing session with
  | nil => exact explained
  | cons step rest inductionHypothesis =>
    rw [List.any_cons, Bool.or_eq_false_iff] at kept
    exact inductionHypothesis (explained.apply kept.1) kept.2

/-- A step of a session in error that does not stay in error ends it or revalidates it. -/
theorem apply_failing {session : UploadSession} (failing : session.state = .error) (step : Step) :
    (session.apply step).state = .error ∨ (session.apply step).state = .canceled ∨
      ∃ policy now, step = .ask policy now .revalidate ∧ session.notices = [] ∧
        (perform policy now .revalidate).run session =
          .ok (.state .pending) { session with state := .pending } := by
  have moves := session.moves_apply step
  generalize (session.apply step).state = next at moves ⊢
  cases moves with
  | failed failure => exact .inl rfl
  | stayed silent => exact .inl failing
  | canceled silent => exact .inr (.inl rfl)
  | published pending silent => exact absurd (pending.symm.trans failing) (by decide)
  | revalidated asked unnoted run => exact .inr (.inr ⟨_, _, asked, unnoted, run⟩)

theorem not_published_of_canceled {session : UploadSession} (canceled : session.state = .canceled)
    (steps : List Step) : (session.after steps).state ≠ .published := by
  have settled : session.state.isTerminal = true := by
    rw [canceled]
    rfl
  rw [(after_settled settled steps).1, canceled]
  decide

theorem exists_revalidation {session : UploadSession} (failing : session.state = .error)
    {steps : List Step} (published : (session.after steps).state = .published) :
    ∃ before policy now later, steps = before ++ .ask policy now .revalidate :: later ∧
      (perform policy now .revalidate).run (session.after before) =
        .ok (.state .pending) { session.after before with state := .pending } := by
  induction steps generalizing session with
  | nil => exact absurd (failing.symm.trans published) (by decide)
  | cons step rest inductionHypothesis =>
    rcases apply_failing failing step with still | canceled | ⟨policy, now, rfl, -, run⟩
    · obtain ⟨before, policy, now, later, rfl, run⟩ := inductionHypothesis still published
      exact ⟨step :: before, policy, now, later, rfl, run⟩
    · exact absurd published (not_published_of_canceled canceled rest)
    · exact ⟨[], policy, now, rest, rfl, run⟩

/-- While a session in error has notices, no revalidation brings it back. -/
theorem exists_clearing {session : UploadSession} (failing : session.state = .error)
    (noted : session.notices ≠ []) {steps : List Step}
    (published : (session.after steps).state = .published) :
    ∃ before later, steps = before ++ .write .clearNotices :: later ∧
      (session.after (before ++ [.write .clearNotices])).state = .error := by
  induction steps generalizing session with
  | nil => exact absurd (failing.symm.trans published) (by decide)
  | cons step rest inductionHypothesis =>
    cases clears : step.clears with
    | true =>
      obtain rfl := Step.eq_of_clears clears
      exact ⟨[], rest, rfl, failing⟩
    | false =>
      rcases apply_failing failing step with still | canceled | ⟨policy, now, rfl, clean, run⟩
      · obtain ⟨before, later, rfl, cleared⟩ :=
          inductionHypothesis still (notices_apply_ne_nil clears noted) published
        exact ⟨step :: before, later, rfl, cleared⟩
      · exact absurd published (not_published_of_canceled canceled rest)
      · exact absurd clean noted

/-- From a failure to publication there is no way but over clearing the notices and a revalidation
that is granted. -/
theorem exists_recovery {session : UploadSession} {step : Step} {notice : String}
    (failure : session.failure? step = some notice) {later : List Step}
    (published : (session.after (step :: later)).state = .published) :
    ∃ first second policy now third,
      later = first ++ .write .clearNotices :: (second ++ .ask policy now .revalidate :: third) ∧
      ∃ recovered, (perform policy now .revalidate).run
        (session.after (step :: first ++ .write .clearNotices :: second)) =
          .ok (.state .pending) recovered := by
  obtain ⟨first, rest, rfl, cleared⟩ :=
    exists_clearing (state_apply_of_failure failure) (notices_apply_of_failure failure) published
  have resumed : (((session.apply step).after (first ++ [.write .clearNotices])).after rest).state =
      .published := by
    rw [← after_append, List.append_assoc]
    exact published
  obtain ⟨second, policy, now, third, rfl, run⟩ := exists_revalidation cleared resumed
  refine ⟨first, second, policy, now, third, rfl, ?_⟩
  rw [← after_append, List.append_assoc] at run
  exact ⟨_, run⟩

/-- Notices and state of a session agree, and a session that failed is published only after its
notices have been cleared and a revalidation has then been granted. -/
theorem notices_agree (created : Instant) (lifetime : Span) (id : SessionId)
    (project version nonce : String) (steps : List Step) :
    let start := new created lifetime id project version nonce
    let session := start.after steps
    (session.state = .pending ∨ session.state = .published →
      session.notices = [] ∧ session.hasErrors = false) ∧
    (steps.any Step.clears = false → session.state = .error → session.notices ≠ []) ∧
    ∀ before step later notice, steps = before ++ step :: later →
      (start.after before).failure? step = some notice → session.state = .published →
      ∃ first second policy now third,
        later = first ++ .write .clearNotices :: (second ++ .ask policy now .revalidate :: third) ∧
        ∃ recovered, (perform policy now .revalidate).run
          (start.after (before ++ step :: first ++ .write .clearNotices :: second)) =
            .ok (.state .pending) recovered := by
  intro start session
  have clean : start.Clean := fun _ => rfl
  have explained : start.Explained := fun failing => nomatch failing
  refine ⟨fun sound => ?_, fun kept => explained.after kept, ?_⟩
  · have unnoted := clean.after steps sound
    exact ⟨unnoted, hasErrors_eq_false_iff.mpr unnoted⟩
  · rintro before step later notice rfl failure published
    rw [show session = (start.after before).after (step :: later) from after_append ..]
      at published
    obtain ⟨first, second, policy, now, third, split, recovered, run⟩ :=
      exists_recovery failure published
    refine ⟨first, second, policy, now, third, split, recovered, ?_⟩
    rw [List.append_assoc, after_append]
    exact run

/-- Publication fails for a file that is still pending. The owner clears the notices and has the
session revalidated, the file is handed over, and then publication succeeds. -/
def recoveredRun : List Step :=
  let start : Instant := .ofParts 1700000000 0
  [.ask .standard start
      (.create ⟨1#128⟩ { filename := "demo-1.0.tar.gz", size := 7 } Mechanism.httpPostName),
    .ask .standard start .publish,
    .write .clearNotices,
    .ask .standard start .revalidate,
    .ask .standard start (.file ⟨1#128⟩ .ready),
    .ask .standard start .publish]

theorem recoveredRun_agrees :
    let start := new (.ofParts 1700000000 0) (.ofSeconds 60) ⟨0#128⟩ "demo" "1.0" ""
    let publish : Step := .ask .standard (.ofParts 1700000000 0) .publish
    ((start.after (recoveredRun.take 2)).state = .error ∧
      (start.after (recoveredRun.take 2)).notices ≠ []) ∧
    ((start.after recoveredRun).state = .published ∧ (start.after recoveredRun).notices = [] ∧
      (start.after recoveredRun).hasErrors = false) ∧
    (start.after (recoveredRun.take 1)).failure? publish = some blockedNotice ∧
    ∃ first second policy now third,
      recoveredRun.drop 2 =
        first ++ .write .clearNotices :: (second ++ .ask policy now .revalidate :: third) ∧
      ∃ recovered, (perform policy now .revalidate).run
        (start.after
          (recoveredRun.take 1 ++ publish :: first ++ .write .clearNotices :: second)) =
            .ok (.state .pending) recovered := by
  intro start publish
  have failing : (start.after (recoveredRun.take 2)).state = .error := by
    rfl
  have published : (start.after recoveredRun).state = .published := by
    rfl
  have failure : (start.after (recoveredRun.take 1)).failure? publish = some blockedNotice := by
    rfl
  obtain ⟨-, explained, -⟩ :=
    notices_agree (.ofParts 1700000000 0) (.ofSeconds 60) ⟨0#128⟩ "demo" "1.0" ""
      (recoveredRun.take 2)
  obtain ⟨clean, -, recovery⟩ :=
    notices_agree (.ofParts 1700000000 0) (.ofSeconds 60) ⟨0#128⟩ "demo" "1.0" "" recoveredRun
  exact ⟨⟨failing, explained rfl failing⟩, ⟨published, clean (.inr published)⟩, failure,
    recovery (recoveredRun.take 1) publish (recoveredRun.drop 2) blockedNotice rfl failure
      published⟩

end ReleaseUpload.UploadSession
