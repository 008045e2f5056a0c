import Mathlib.Data.List.Induction
import ReleaseUpload.Proofs.FileUpload.Progress
import ReleaseUpload.Proofs.UploadSession.Settlement

/-!
Publication over whole runs. A session becomes published by a request to publish and by nothing
else, at a moment when none of its files is pending or in error. From then on no file is added and
each file follows what it was at that moment, so none of them is ever pending again.
-/

namespace ReleaseUpload.UploadSession

open FileUpload (Follows)

/-- The owner changes a file without a request to it. -/
def Step.writesFile : Step → Bool
  | .write (.file ..) => true
  | _ => false

theorem accepted_published {session : UploadSession} (unpublished : session.state ≠ .published)
    {policy : Policy} {now : Instant} {request : Request}
    (published : (session.accepted policy now request).2.state = .published) :
    request = .publish ∧ session.canPublish = true := by
  cases request with
  | publish =>
    refine ⟨rfl, ?_⟩
    by_contra blocked
    simp [accepted, blocked, failed, addNotice] at published
  | cancel => cases published
  | fail notice => cases published
  | _ =>
    simp only [accepted] at published
    split at published
    all_goals first | exact absurd published unpublished | cases published

/-- The only way to become published. -/
theorem apply_published {session : UploadSession} (unpublished : session.state ≠ .published)
    {step : Step} (published : (session.apply step).state = .published) :
    ∃ policy now, step = .ask policy now .publish ∧ session.canPublish = true ∧
      (perform policy now .publish).run session =
        .ok (.state .published) { session with state := .published } := by
  cases step with
  | ask policy now request =>
    have run := perform_run policy now request session
    rw [apply, leaves_perform] at published
    cases refused : session.refusal? request with
    | some refusal =>
      rw [refused] at published
      exact absurd published unpublished
    | none =>
      rw [refused] at published run
      obtain ⟨rfl, ready⟩ := accepted_published unpublished published
      refine ⟨policy, now, rfl, ready, ?_⟩
      simpa [accepted, ready] using run
  | write edit => cases edit <;> exact absurd published unpublished
  | readToken => exact absurd published unpublished
  | showStatus policy now => exact absurd published unpublished
  | reap now =>
    rcases (session.reaped_apply_reap now).state with kept | canceled
    · exact absurd (kept.symm.trans published) unpublished
    · rw [canceled] at published
      cases published

/-- A run that ends published has a moment of publication. -/
theorem exists_publication {session : UploadSession} (unpublished : session.state ≠ .published)
    {steps : List Step} (published : (session.after steps).state = .published) :
    ∃ before policy now later, steps = before ++ .ask policy now .publish :: later ∧
      (session.after before).canPublish = true ∧
      (perform policy now .publish).run (session.after before) =
        .ok (.state .published) { session.after before with state := .published } := by
  induction steps using List.reverseRecOn with
  | nil => exact absurd published unpublished
  | append_singleton steps step inductionHypothesis =>
    by_cases already : (session.after steps).state = .published
    · obtain ⟨before, policy, now, later, rfl, moment⟩ := inductionHypothesis already
      exact ⟨before, policy, now, later ++ [step], by simp, moment⟩
    · rw [after_append] at published
      obtain ⟨policy, now, rfl, moment⟩ := apply_published already published
      exact ⟨steps, policy, now, [], rfl, moment⟩

section

variable {session : UploadSession} (settled : session.state.isTerminal = true)
include settled

theorem apply_follows (left : ∀ file ∈ session.files, file.state ≠ .pending) {step : Step}
    (unwritten : step.writesFile = false) :
    List.Forall₂ Follows session.files (session.apply step).files := by
  have same : List.Forall₂ Follows session.files session.files :=
    List.forall₂_same.mpr fun file _ => .refl file
  cases step with
  | ask policy now request =>
    cases entry : request.event? with
    | some event =>
      rw [apply_ask_of_settled settled entry]
      exact same
    | none =>
      cases request with
      | file id asked =>
        rw [apply, leaves_perform_file]
        apply forall₂_modifyFirst
        · exact fun file _ => .refl file
        · exact fun file found => FileUpload.leaves_perform_follows (left file found)
      | _ => cases entry
  | write edit =>
    cases edit with
    | file id edit => cases unwritten
    | _ => exact same
  | readToken => exact same
  | showStatus policy now => exact same
  | reap now =>
    rw [apply_reap_of_settled settled]
    exact same

theorem after_follows (left : ∀ file ∈ session.files, file.state ≠ .pending) {steps : List Step}
    (unwritten : ∀ step ∈ steps, step.writesFile = false) :
    List.Forall₂ Follows session.files (session.after steps).files := by
  induction steps generalizing session with
  | nil => exact List.forall₂_same.mpr fun file _ => .refl file
  | cons step rest inductionHypothesis =>
    rw [List.forall_mem_cons] at unwritten
    have one := apply_follows settled left unwritten.1
    have still : (session.apply step).state.isTerminal = true := by
      rw [(apply_settled settled step).1]
      exact settled
    have stillLeft : ∀ file ∈ (session.apply step).files, file.state ≠ .pending := by
      intro file found
      obtain ⟨old, reached, follows⟩ := exists_mem_of_forall₂ one found
      exact follows.advances.ne_pending (left old reached)
    exact forall₂_trans (fun _ _ _ head next => head.trans next) one
      (inductionHypothesis still stillLeft unwritten.2)

end

/-- The files that a session can be published with. -/
theorem canPublish_iff {session : UploadSession} :
    session.canPublish = true ↔
      ∀ file ∈ session.files, file.state ≠ .pending ∧ file.state ≠ .error := by
  simp only [canPublish, List.all_eq_true]
  refine forall₂_congr fun file found => ?_
  cases file.state <;> simp [blocksPublication]

/-- A file of a published session, as it was at publication and as it is later. -/
structure SincePublication (earlier later : FileUpload) : Prop where
  same : later = { earlier with state := later.state, notices := later.notices }
  settled : earlier.state = .processing ∨ earlier.state = .complete ∨ earlier.state = .canceled
  left : later.state ≠ .pending
  error : later.state = .error → earlier.state = .processing
  complete : later.state = .complete → earlier.state = .processing ∨ earlier.state = .complete
  canceled : earlier.state = .canceled → later.state = .canceled

theorem SincePublication.of_follows {earlier later : FileUpload} (follows : Follows earlier later)
    (settled : earlier.state ≠ .pending ∧ earlier.state ≠ .error) :
    SincePublication earlier later := by
  obtain ⟨error, complete, canceled⟩ := follows.settled_cases settled
  refine ⟨follows.same, ?_, follows.advances.ne_pending settled.1, error, complete, canceled⟩
  revert settled
  cases earlier.state <;> simp

theorem after_published {session : UploadSession} (ready : session.canPublish = true)
    {later : List Step} (unwritten : ∀ step ∈ later, step.writesFile = false) :
    List.Forall₂ SincePublication session.files
      (({ session with state := .published } : UploadSession).after later).files := by
  have settled := canPublish_iff.mp ready
  have follows : List.Forall₂ Follows session.files
      (({ session with state := .published } : UploadSession).after later).files :=
    @after_follows { session with state := .published } rfl
      (fun file found => (settled file found).1) later unwritten
  have both := (List.forall₂_and_left session.files _).mpr ⟨settled, follows⟩
  exact both.imp fun earlier later related => .of_follows related.2 related.1

/-- Whenever a session is published, a request to publish was granted at some moment of its run,
and its files are the files of that moment, in order. -/
theorem files_since_publication (created : Instant) (lifetime : Span) (id : SessionId)
    (project version nonce : String) (steps : List Step)
    (unwritten : ∀ step ∈ steps, step.writesFile = false)
    (published :
      ((new created lifetime id project version nonce).after steps).state = .published) :
    ∃ before policy now later atPublication,
      steps = before ++ .ask policy now .publish :: later ∧
      (perform policy now .publish).run
          ((new created lifetime id project version nonce).after before) =
        .ok (.state .published) atPublication ∧
      List.Forall₂ SincePublication atPublication.files
        ((new created lifetime id project version nonce).after steps).files := by
  have unpublished : (new created lifetime id project version nonce).state ≠ .published := by
    simp [new]
  obtain ⟨before, policy, now, later, rfl, ready, run⟩ := exists_publication unpublished published
  refine ⟨before, policy, now, later, _, rfl, run, ?_⟩
  rw [after_append, after_cons, apply, leaves_of_ok run]
  apply after_published ready
  intro step listed
  exact unwritten step (List.mem_append_right _ (List.mem_cons_of_mem _ listed))

/-- A file is declared, handed over, published and canceled afterwards. -/
def publishedRun : List Step :=
  let start : Instant := .ofParts 1700000000 0
  [.ask .standard start
      (.create ⟨1#128⟩ { filename := "demo-1.0.tar.gz", size := 7 } Mechanism.httpPostName),
    .ask .standard start (.file ⟨1#128⟩ .ready),
    .ask .standard start .publish,
    .ask .standard start (.file ⟨1#128⟩ .cancel)]

theorem publishedRun_files :
    (∀ step ∈ publishedRun, step.writesFile = false) ∧
      ((new (.ofParts 1700000000 0) (.ofSeconds 60) ⟨0#128⟩ "demo" "1.0" "").after
        publishedRun).state = .published ∧
      ∃ before policy now later atPublication,
        publishedRun = before ++ .ask policy now .publish :: later ∧
        (perform policy now .publish).run
            ((new (.ofParts 1700000000 0) (.ofSeconds 60) ⟨0#128⟩ "demo" "1.0" "").after before) =
          .ok (.state .published) atPublication ∧
        List.Forall₂ SincePublication atPublication.files
          ((new (.ofParts 1700000000 0) (.ofSeconds 60) ⟨0#128⟩ "demo" "1.0" "").after
            publishedRun).files := by
  have unwritten : ∀ step ∈ publishedRun, step.writesFile = false := by
    simp [publishedRun, Step.writesFile]
  have published : ((new (.ofParts 1700000000 0) (.ofSeconds 60) ⟨0#128⟩ "demo" "1.0" "").after
      publishedRun).state = .published := by
    rfl
  exact ⟨unwritten, published, files_since_publication _ _ _ _ _ _ _ unwritten published⟩

end ReleaseUpload.UploadSession
