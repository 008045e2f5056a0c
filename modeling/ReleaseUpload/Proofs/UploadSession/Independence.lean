import ReleaseUpload.Proofs.UploadSession.Children
import ReleaseUpload.Proofs.UploadSession.Looks

/-!
Requests in either order. Clients upload their files side by side, while the service asks things of
the session, and nobody promises in which order all that arrives. `commutes_of_independent` says
where this does not matter: between requests to different files, and between a request to a file and
one to the session that does not look at its files. Requests that are refused are no exception.
-/

namespace ReleaseUpload

/-- Two actions that can trade places. Each is answered, or refused, as it would be without the
other, and both leave the same record in either order. -/
structure Commutes {ε σ α β : Type} (one : EStateM ε σ α) (other : EStateM ε σ β)
    (before : σ) : Prop where
  answers_one : answers one (leaves other before) = answers one before
  answers_other : answers other (leaves one before) = answers other before
  leaves_eq : leaves other (leaves one before) = leaves one (leaves other before)

namespace FileUpload

variable (settings : UploadSettings) (now : Instant) (request : Request) (file : FileUpload)

theorem id_accepted : (file.accepted settings now request).id = file.id := by
  cases request with
  | prepare =>
    rw [accepted, fillInstructions]
    split <;> rfl
  | extend seconds =>
    rw [accepted]
    split <;> rfl
  | _ => rfl

theorem id_perform : (leaves (perform settings now request) file).id = file.id := by
  rw [leaves_perform]
  cases file.refusal? request with
  | none => exact id_accepted settings now request file
  | some refusal => rfl

end FileUpload

namespace UploadSession

/-! Changes of files that are found by their identifiers. -/

section

variable {id other : FileId} {change otherChange : FileUpload → FileUpload}
  {files : List FileUpload}

/-- Two searches for different identifiers do not end at the same place, and neither of the changes
leads the other search astray. -/
theorem modifyFirst_comm (apart : id ≠ other) (kept : ∀ file, (change file).id = file.id)
    (otherKept : ∀ file, (otherChange file).id = file.id) :
    modifyFirst other otherChange (modifyFirst id change files) =
      modifyFirst id change (modifyFirst other otherChange files) := by
  induction files with
  | nil => rfl
  | cons head rest inductionHypothesis =>
    by_cases first : head.id = id
    · have missed : ¬head.id = other := fun same => apart (first.symm.trans same)
      simp only [modifyFirst, if_pos first, if_neg missed, kept]
    · by_cases second : head.id = other
      · simp only [modifyFirst, if_neg first, if_pos second, otherKept]
      · simp only [modifyFirst, if_neg first, if_neg second, inductionHypothesis]

/-- What is found among earlier files is changed there. -/
theorem modifyFirst_append {file : FileUpload} (found : files.find? (·.id = id) = some file)
    (later : List FileUpload) :
    modifyFirst id change (files ++ later) = modifyFirst id change files ++ later := by
  induction files with
  | nil => cases found
  | cons head rest inductionHypothesis =>
    rw [List.cons_append, modifyFirst, modifyFirst]
    by_cases first : head.id = id
    · rw [if_pos first, if_pos first, List.cons_append]
    · rw [if_neg first, if_neg first, List.cons_append, inductionHypothesis]
      simpa [first] using found

end

section

variable {session : UploadSession} {policy : Policy} {now : Instant}

theorem answers_perform (policy : Policy) (now : Instant) (request : Request)
    (session : UploadSession) :
    answers (perform policy now request) session =
      match session.refusal? request with
      | some refusal => .error refusal
      | none => .ok (session.accepted policy now request).1 := by
  rw [answers, perform_run]
  cases session.refusal? request <;> rfl

/-- The answer to a request to a file depends on that file only. -/
theorem answers_perform_file_congr {other : UploadSession} {id : FileId}
    (same : other.file? id = session.file? id) (asked : FileUpload.Request) :
    answers (perform policy now (.file id asked)) other =
      answers (perform policy now (.file id asked)) session := by
  rw [answers_perform, answers_perform]
  simp only [refusal?, accepted, same]
  cases session.file? id <;> rfl

theorem commutes_of_ne (policy : Policy) (now : Instant) (session : UploadSession)
    {id other : FileId} (apart : id ≠ other) (asked otherAsked : FileUpload.Request) :
    Commutes (perform policy now (.file id asked)) (perform policy now (.file other otherAsked))
      session where
  answers_one := by
    apply answers_perform_file_congr
    rw [leaves_perform_file]
    exact find?_modifyFirst_of_ne apart (FileUpload.id_perform policy.uploads now otherAsked)
  answers_other := by
    apply answers_perform_file_congr
    rw [leaves_perform_file]
    exact find?_modifyFirst_of_ne apart.symm (FileUpload.id_perform policy.uploads now asked)
  leaves_eq := by
    simp only [leaves_perform_file, modifyFile]
    rw [modifyFirst_comm apart (FileUpload.id_perform policy.uploads now asked)
      (FileUpload.id_perform policy.uploads now otherAsked)]

/-! Requests to the session itself. -/

@[simp] theorem hasErrors_modifyFile (id : FileId) (change : FileUpload → FileUpload) :
    (session.modifyFile id change).hasErrors = session.hasErrors := rfl

@[simp] theorem isExpired_modifyFile (id : FileId) (change : FileUpload → FileUpload)
    (now : Instant) : (session.modifyFile id change).isExpired now = session.isExpired now := rfl

/-- A request to the session itself that does not depend on how its files stand. -/
def Request.ignoresFiles : Request → Bool
  | .create .. | .cancel | .fail _ | .revalidate | .extend _ => true
  | .publish | .file .. => false

theorem Request.exists_event_of_ignoresFiles {request : Request}
    (ignores : request.ignoresFiles = true) : ∃ event, request.event? = some event := by
  apply request.exists_event
  rintro id asked rfl
  cases ignores

variable {request : Request} {id : FileId} {file : FileUpload}
  (ignores : request.ignoresFiles = true)
include ignores

theorem refusal?_modifyFile (id : FileId) (change : FileUpload → FileUpload) :
    (session.modifyFile id change).refusal? request = session.refusal? request := by
  obtain ⟨event, entry⟩ := Request.exists_event_of_ignoresFiles ignores
  rw [refusal?_of_event entry, refusal?_of_event entry]
  rfl

variable (found : session.file? id = some file)
include found

theorem accepted_modifyFile (policy : Policy) (now : Instant)
    (change : FileUpload → FileUpload) :
    (session.modifyFile id change).accepted policy now request =
      ((session.accepted policy now request).1,
        (session.accepted policy now request).2.modifyFile id change) := by
  cases request with
  | create drawn declaration name =>
    simp only [accepted]
    cases policy.mechanisms.get? name with
    | none => rfl
    -- The new file comes after the one that is changed, even if it bears the same identifier.
    | some mechanism => simp only [modifyFile, addFile, modifyFirst_append found]
  | publish => cases ignores
  | cancel => rfl
  | fail notice => rfl
  | revalidate =>
    cases tested : session.hasErrors <;>
      simp only [accepted, hasErrors_modifyFile, tested] <;> rfl
  | extend seconds =>
    cases tested : session.isExpired now <;>
      simp only [accepted, isExpired_modifyFile, tested] <;> rfl
  | file other asked => cases ignores

theorem file?_perform (policy : Policy) (now : Instant) :
    (leaves (perform policy now request) session).file? id = some file := by
  obtain ⟨event, entry⟩ := Request.exists_event_of_ignoresFiles ignores
  rw [leaves_perform]
  cases session.refusal? request with
  | some refusal => exact found
  | none =>
    simp only [file?, files_accepted entry, List.find?_append]
    rw [show session.files.find? (·.id = id) = some file from found, Option.some_or]

theorem commutes_of_ignoresFiles (policy : Policy) (now : Instant) (asked : FileUpload.Request) :
    Commutes (perform policy now (.file id asked)) (perform policy now request) session where
  answers_one :=
    answers_perform_file_congr ((file?_perform ignores found policy now).trans found.symm) asked
  answers_other := by
    rw [leaves_perform_file, answers_perform, answers_perform, refusal?_modifyFile ignores,
      accepted_modifyFile ignores found]
  leaves_eq := by
    rw [leaves_perform_file, leaves_perform_file, leaves_perform, leaves_perform,
      refusal?_modifyFile ignores, accepted_modifyFile ignores found]
    cases session.refusal? request <;> rfl

end

/-- A request to a file of a session can trade places with any to another file, and with any to the
session itself that does not depend on its files. -/
theorem commutes_of_independent (policy : Policy) (now : Instant) {session : UploadSession}
    {id : FileId} {file : FileUpload} (found : session.file? id = some file)
    (asked : FileUpload.Request) :
    (∀ other otherAsked, id ≠ other →
      Commutes (perform policy now (.file id asked)) (perform policy now (.file other otherAsked))
        session) ∧
    ∀ request : Request, request.ignoresFiles = true →
      Commutes (perform policy now (.file id asked)) (perform policy now request) session :=
  ⟨fun _ otherAsked apart => commutes_of_ne policy now session apart asked otherAsked,
    fun _ ignores => commutes_of_ignoresFiles ignores found policy now asked⟩

/-- A failed file is canceled while the other one, which is complete, is handed over once more, and
while a file is created under the very identifier of the failed one. -/
theorem pairRun_commutes :
    let start := new (.ofParts 1700000000 0) (.ofSeconds 60) ⟨0#128⟩ "demo" "1.0" ""
    let session := start.after pairRun
    let now : Instant := .ofParts 1700000010 0
    let canceling := perform .standard now (.file ⟨1#128⟩ .cancel)
    let handingOver := perform .standard now (.file ⟨2#128⟩ .ready)
    let creation : Request :=
      .create ⟨1#128⟩ { filename := "demo-1.0.whl", size := 5 } Mechanism.httpPostName
    ∃ file, session.file? ⟨1#128⟩ = some file ∧
      (⟨1#128⟩ : FileId) ≠ ⟨2#128⟩ ∧ creation.ignoresFiles = true ∧
      Commutes canceling handingOver session ∧
      Commutes canceling (perform .standard now creation) session ∧
      answers canceling session = .ok (.file (some .canceled)) ∧
      answers handingOver session = .error (.file .complete .ready) := by
  intro start session now canceling handingOver creation
  have found : session.file? ⟨1#128⟩ = some _ := rfl
  have apart : (⟨1#128⟩ : FileId) ≠ ⟨2#128⟩ := by decide
  obtain ⟨files, own⟩ := commutes_of_independent .standard now found .cancel
  exact ⟨_, found, apart, rfl, files ⟨2#128⟩ .ready apart, own creation rfl, rfl, rfl⟩

end UploadSession

end ReleaseUpload
