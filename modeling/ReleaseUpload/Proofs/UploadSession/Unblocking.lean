import ReleaseUpload.Proofs.UploadSession.Publication

/-!
No open session is stuck. The files that keep it from being published can be canceled, in any order
and whatever became of the session; a session in error gets back to work once its notices are
cleared; and then publication succeeds. `published_after_canceling` says so for all sessions whose
files have distinct identifiers.
-/

namespace ReleaseUpload

namespace FileUpload

/-- A file once nothing of it blocks publication any more. -/
def unblocked (file : FileUpload) : FileUpload :=
  match file.state with
  | .processing | .complete => file
  | .pending | .error | .canceled => file.canceled

theorem unblocked_eq_ite (file : FileUpload) :
    file.unblocked =
      if UploadSession.blocksPublication file.state then file.canceled else file := by
  obtain ⟨id, declaration, mechanism, createdAt, expiration, instructions, notices, state⟩ := file
  cases state <;> rfl

theorem blocksPublication_unblocked (file : FileUpload) :
    UploadSession.blocksPublication file.unblocked.state = false := by
  rw [unblocked_eq_ite]
  cases blocks : UploadSession.blocksPublication file.state with
  | true => rfl
  | false => exact blocks

end FileUpload

namespace UploadSession

/-- The identifiers of the files that keep a session from being published. -/
def blockers (session : UploadSession) : List FileId :=
  (session.files.filter fun file => blocksPublication file.state).map (·.id)

/-- The session with its files unblocked. -/
def unblocked (session : UploadSession) : UploadSession :=
  { session with files := session.files.map FileUpload.unblocked }

/-- The session once it is back at work. -/
def resumed (session : UploadSession) : UploadSession :=
  if session.state = .error then { session with notices := [], state := .pending } else session

/-- A request to cancel one file, with the policy and the time under which it comes. -/
structure Cancellation where
  policy : Policy
  now : Instant
  id : FileId

def Cancellation.step (cancellation : Cancellation) : Step :=
  .ask cancellation.policy cancellation.now (.file cancellation.id .cancel)

theorem exists_blocker {session : UploadSession} {id : FileId} (blocks : id ∈ session.blockers) :
    ∃ file ∈ session.files, file.id = id ∧ file.state ≠ .canceled := by
  obtain ⟨file, listed, named⟩ := List.mem_map.mp blocks
  obtain ⟨found, blocks⟩ := List.mem_filter.mp listed
  refine ⟨file, found, named, fun canceled => ?_⟩
  rw [canceled] at blocks
  cases blocks

/-- Each cancellation is of another file, and of one that is not canceled. -/
structure Cancelable (session : UploadSession) (cancellations : List Cancellation) : Prop where
  apart : (cancellations.map (·.id)).Nodup
  opened : ∀ id ∈ cancellations.map (·.id),
    ∃ file ∈ session.files, file.id = id ∧ file.state ≠ .canceled

theorem Cancelable.of_append {session : UploadSession} {first second : List Cancellation}
    (cancelable : session.Cancelable (first ++ second)) : session.Cancelable first where
  apart := cancelable.apart.sublist ((List.sublist_append_left first second).map _)
  opened id listed := cancelable.opened id <| by
    rw [List.map_append]
    exact List.mem_append_left _ listed

section

variable {session : UploadSession} (distinct : (session.files.map (·.id)).Nodup)
include distinct

/-- A file can be canceled whichever others have been canceled before. -/
theorem cancel_run {file : FileUpload} (found : file ∈ session.files)
    (opened : file.state ≠ .canceled) {ids : List FileId} (fresh : file.id ∉ ids) (policy : Policy)
    (now : Instant) :
    (perform policy now (.file file.id .cancel)).run (session.cancelAll ids) =
      .ok (.file (some .canceled)) (session.cancelAll (ids ++ [file.id])) := by
  have still : file ∈ (session.cancelAll ids).files :=
    List.mem_map.mpr ⟨file, found, if_neg fresh⟩
  have distinctStill : ((session.cancelAll ids).files.map (·.id)).Nodup := by
    rw [map_id_cancelAll]
    exact distinct
  have run := onFile_cancel_run (file?_of_mem distinctStill still)
  rw [if_neg opened, modifyFile_canceled distinctStill] at run
  simp only [perform, FileUpload.perform, EStateM.run_bind, run, cancelAll_append]
  rfl

theorem Cancelable.last_run {before : List Cancellation} {one : Cancellation}
    (cancelable : session.Cancelable (before ++ [one])) :
    (perform one.policy one.now (.file one.id .cancel)).run
        (session.cancelAll (before.map (·.id))) =
      .ok (.file (some .canceled)) (session.cancelAll ((before ++ [one]).map (·.id))) := by
  obtain ⟨apart, opened⟩ := cancelable
  rw [List.map_append, List.map_singleton] at apart opened ⊢
  obtain ⟨file, found, named, uncanceled⟩ :=
    opened one.id (List.mem_append_right _ List.mem_cons_self)
  have fresh : one.id ∉ before.map (·.id) := fun listed =>
    (List.nodup_append.mp apart).2.2 one.id listed one.id List.mem_cons_self rfl
  rw [← named] at fresh ⊢
  exact cancel_run distinct found uncanceled fresh one.policy one.now

theorem Cancelable.after_steps {cancellations : List Cancellation}
    (cancelable : session.Cancelable cancellations) :
    session.after (cancellations.map (·.step)) = session.cancelAll (cancellations.map (·.id)) := by
  -- From the end, because a request finds all the earlier ones carried out.
  induction cancellations using List.reverseRecOn with
  | nil => simp [cancelAll]
  | append_singleton before one inductionHypothesis =>
    rw [List.map_append, after_append, inductionHypothesis cancelable.of_append]
    exact leaves_of_ok (cancelable.last_run distinct)

theorem mem_blockers_iff {file : FileUpload} (found : file ∈ session.files) :
    file.id ∈ session.blockers ↔ blocksPublication file.state = true := by
  simp only [blockers, List.mem_map, List.mem_filter]
  constructor
  · rintro ⟨other, ⟨reached, blocks⟩, same⟩
    rwa [List.inj_on_of_nodup_map distinct reached found same] at blocks
  · intro blocks
    exact ⟨file, ⟨found, blocks⟩, rfl⟩

theorem cancelAll_eq_unblocked {ids : List FileId} (all : ids.Perm session.blockers) :
    session.cancelAll ids = session.unblocked := by
  rw [cancelAll, unblocked]
  congr 1
  apply List.map_congr_left
  intro file found
  simp only [all.mem_iff, mem_blockers_iff distinct found, FileUpload.unblocked_eq_ite]

theorem cancelable_of_perm {cancellations : List Cancellation}
    (all : (cancellations.map (·.id)).Perm session.blockers) : session.Cancelable cancellations where
  apart := all.nodup_iff.mpr (distinct.sublist (List.filter_sublist.map _))
  opened _ listed := exists_blocker (all.mem_iff.mp listed)

end

theorem canPublish_unblocked (session : UploadSession) : session.unblocked.canPublish = true := by
  simp only [canPublish, unblocked, List.all_map, List.all_eq_true, Function.comp_apply,
    FileUpload.blocksPublication_unblocked, Bool.not_false, implies_true]

theorem files_resumed (session : UploadSession) : session.resumed.files = session.files := by
  rw [resumed]
  split <;> rfl

theorem state_resumed {session : UploadSession} (opened : session.state.isTerminal = false) :
    session.resumed.state = .pending := by
  rw [resumed]
  split_ifs with failing
  · rfl
  · cases current : session.state with
    | pending => rfl
    | error => exact absurd current failing
    | _ =>
      rw [current] at opened
      cases opened

theorem revalidate_run {session : UploadSession} (failing : session.state = .error)
    (policy : Policy) (now : Instant) :
    (perform policy now .revalidate).run (session.edit .clearNotices) =
      .ok (.state .pending) session.resumed := by
  have taken : (session.edit .clearNotices).state.next? .revalidate = some .error := by
    rw [show (session.edit .clearNotices).state = session.state from rfl, failing]
    rfl
  rw [perform_run_of_some rfl taken, resumed, if_pos failing]
  rfl

theorem publish_run {session : UploadSession} (pending : session.state = .pending)
    (ready : session.canPublish = true) (policy : Policy) (now : Instant) :
    (perform policy now .publish).run session =
      .ok (.state .published) { session with state := .published } := by
  have taken : session.state.next? .publish = some .pending := by
    rw [pending]
    rfl
  rw [perform_run_of_some rfl taken]
  simp only [accepted, ready, if_true]

/-- A way from an open session to publication, and that nothing on it is refused. -/
structure WayOut (session : UploadSession) (cancellations : List Cancellation) : Prop where
  canceled : ∀ before one later, cancellations = before ++ one :: later →
    (perform one.policy one.now (.file one.id .cancel)).run (session.after (before.map (·.step))) =
      .ok (.file (some .canceled)) (session.after ((before ++ [one]).map (·.step)))
  unblocked : session.after (cancellations.map (·.step)) = session.unblocked
  revalidated : session.state = .error → ∀ policy now,
    (perform policy now .revalidate).run (session.unblocked.edit .clearNotices) =
      .ok (.state .pending) session.unblocked.resumed
  published : ∀ policy now,
    (perform policy now .publish).run session.unblocked.resumed =
      .ok (.state .published) { session.unblocked.resumed with state := .published }
  files : session.unblocked.resumed.files = session.files.map FileUpload.unblocked

/-- No open session is stuck: what blocks it can be canceled in any order, and then nothing stands
between it and publication but clearing the notices, if it is in error. -/
theorem published_after_canceling {session : UploadSession}
    (opened : session.state.isTerminal = false) (distinct : (session.files.map (·.id)).Nodup)
    {cancellations : List Cancellation}
    (all : (cancellations.map (·.id)).Perm session.blockers) : WayOut session cancellations := by
  have cancelable := cancelable_of_perm distinct all
  constructor
  case canceled =>
    rintro before one later rfl
    rw [List.append_cons] at cancelable
    have first := cancelable.of_append
    rw [first.of_append.after_steps distinct, first.after_steps distinct]
    exact first.last_run distinct
  case unblocked => rw [cancelable.after_steps distinct, cancelAll_eq_unblocked distinct all]
  case revalidated => exact @revalidate_run session.unblocked
  case published =>
    intro policy now
    have ready : session.unblocked.resumed.canPublish = true := by
      rw [canPublish, files_resumed]
      exact session.canPublish_unblocked
    exact publish_run (@state_resumed session.unblocked opened) ready policy now
  case files => exact files_resumed session.unblocked

/-- Publication fails for two of four files: one is still pending and one is in error. -/
def blockedRun : List Step :=
  let start : Instant := .ofParts 1700000000 0
  let create (id : FileId) (filename : String) : Step :=
    .ask .standard start (.create id { filename, size := 7 } Mechanism.httpPostName)
  [create ⟨1#128⟩ "demo-1.0.tar.gz", create ⟨2#128⟩ "demo-1.0.whl", create ⟨3#128⟩ "demo-1.0.zip",
    create ⟨4#128⟩ "demo-1.0.egg",
    .ask .standard start (.file ⟨2#128⟩ .process),
    .ask .standard start (.file ⟨3#128⟩ (.fail "corrupt")),
    .ask .standard start (.file ⟨4#128⟩ .ready),
    .ask .standard start .publish]

theorem blockedRun_wayOut :
    let session :=
      (new (.ofParts 1700000000 0) (.ofSeconds 60) ⟨0#128⟩ "demo" "1.0" "").after blockedRun
    let cancellations : List Cancellation :=
      [⟨.standard, .ofParts 1700000030 0, ⟨3#128⟩⟩, ⟨.standard, .ofParts 1700000090 0, ⟨1#128⟩⟩]
    session.state = .error ∧ session.state.isTerminal = false ∧
      (session.files.map (·.id)).Nodup ∧
      (cancellations.map (·.id)).Perm session.blockers ∧ WayOut session cancellations := by
  intro session cancellations
  have failing : session.state = .error := by rfl
  have opened : session.state.isTerminal = false := by rfl
  have distinct : (session.files.map (·.id)).Nodup := by
    rw [show session.files.map (·.id) = [⟨1#128⟩, ⟨2#128⟩, ⟨3#128⟩, ⟨4#128⟩] from rfl]
    decide
  have all : (cancellations.map (·.id)).Perm session.blockers := by
    rw [show session.blockers = [⟨1#128⟩, ⟨3#128⟩] from rfl]
    exact .swap _ _ _
  exact ⟨failing, opened, distinct, all, published_after_canceling opened distinct all⟩

end UploadSession

end ReleaseUpload
