import ReleaseUpload.Proofs.FileUpload.Progress

/-!
The life of one file. A run is whatever is asked of the file, with what its owner writes into it in
between. A request that is granted raises the rank of the state unless it is one of the two that
leave the state alone, so over a run the state changes at most three times and never comes back; and
since a file fails at most once, it never has more than one notice. `lifecycle_of_run` says all of it.
-/

namespace ReleaseUpload.FileUpload

/-- Anything that can happen to the record of a file. Its status is shown by `statusAt`, which is a
function of the record and so no step. -/
inductive Step where
  | ask (settings : UploadSettings) (now : Instant) (request : Request)
  | write (edit : Edit)

/-- The record after a step, which may have been refused. -/
def apply (file : FileUpload) : Step → FileUpload
  | .ask settings now request => leaves (perform settings now request) file
  | .write edit => file.edit edit

/-- The record after a run. -/
def after (file : FileUpload) (steps : List Step) : FileUpload := steps.foldl apply file

@[simp] theorem after_nil (file : FileUpload) : file.after [] = file := rfl

@[simp] theorem after_cons (file : FileUpload) (step : Step) (rest : List Step) :
    file.after (step :: rest) = (file.apply step).after rest := rfl

theorem after_append (file : FileUpload) (first second : List Step) :
    file.after (first ++ second) = (file.after first).after second :=
  List.foldl_append

/-- A request that leaves the state alone where it is granted: preparing, and extending in time. -/
def keepsState (file : FileUpload) (now : Instant) : Request → Bool
  | .prepare => true
  | .extend _ => !file.isExpired now
  | _ => false

/-- How many steps of a run change the state. -/
def stateChanges (file : FileUpload) : List Step → Nat
  | [] => 0
  | step :: rest =>
    (if (file.apply step).state = file.state then 0 else 1) + (file.apply step).stateChanges rest

/-- The notices that go with each state. -/
def Noted (file : FileUpload) : Prop :=
  match file.state with
  | .pending | .processing | .complete => file.notices = []
  | .error => file.notices.length = 1
  | .canceled => file.notices.length ≤ 1

theorem Noted.length_le_one {file : FileUpload} (noted : file.Noted) :
    file.notices.length ≤ 1 := by
  obtain ⟨id, declaration, mechanism, createdAt, expiration, instructions, notices, state⟩ := file
  cases state with
  | error => exact Nat.le_of_eq noted
  | canceled => exact noted
  | _ => exact Nat.le_trans (Nat.le_of_eq (congrArg List.length noted)) (Nat.zero_le 1)

@[simp] theorem state_fillInstructions (file : FileUpload) :
    file.fillInstructions.state = file.state := by
  rw [fillInstructions]
  split <;> rfl

@[simp] theorem notices_fillInstructions (file : FileUpload) :
    file.fillInstructions.notices = file.notices := by
  rw [fillInstructions]
  split <;> rfl

theorem State.rank_le_three (state : State) : state.rank ≤ 3 := by
  cases state <;> decide

/-! One request. -/

section

variable {settings : UploadSettings} {now : Instant} {request : Request} {file : FileUpload}

theorem state_accepted_of_keepsState (keeps : file.keepsState now request = true) :
    (file.accepted settings now request).state = file.state := by
  cases request with
  | prepare => exact file.state_fillInstructions
  | extend seconds =>
    rw [keepsState, Bool.not_eq_true'] at keeps
    rw [accepted, keeps]
    rfl
  | _ => cases keeps

theorem rank_lt_rank_accepted (taken : file.refusal? request = none)
    (moves : file.keepsState now request = false) :
    file.state.rank < (file.accepted settings now request).state.rank := by
  obtain ⟨next, taken⟩ := refusal?_eq_none_iff.mp taken
  obtain ⟨id, declaration, mechanism, createdAt, expiration, instructions, notices, state⟩ := file
  cases request with
  | prepare => cases moves
  | ready =>
    cases state <;> cases taken
    cases needed : mechanism.requiresProcessing <;> simp [accepted, needed, State.rank]
  | extend seconds =>
    rw [keepsState, Bool.not_eq_false'] at moves
    cases state <;> cases taken
    simp [accepted, moves, addNotice, State.rank]
  | _ => cases state <;> cases taken <;> simp [accepted, addNotice, State.rank]

theorem Noted.accepted (noted : file.Noted) (taken : file.refusal? request = none) :
    (file.accepted settings now request).Noted := by
  have few := noted.length_le_one
  obtain ⟨next, taken⟩ := refusal?_eq_none_iff.mp taken
  obtain ⟨id, declaration, mechanism, createdAt, expiration, instructions, notices, state⟩ := file
  cases request with
  | prepare => simpa [FileUpload.accepted, Noted] using noted
  | ready =>
    cases state <;> cases taken
    cases needed : mechanism.requiresProcessing <;>
      simpa [FileUpload.accepted, Noted, needed] using noted
  | process => cases state <;> cases taken; exact noted
  | complete => cases state <;> cases taken <;> exact noted
  | fail notice =>
    -- Nothing has failed before, so this is the only notice.
    cases state <;> cases taken <;> simpa [FileUpload.accepted, Noted, addNotice] using noted
  | cancel => exact few
  | extend seconds =>
    cases state <;> cases taken
    rw [FileUpload.accepted]
    split
    · simpa [Noted, addNotice] using noted
    · exact noted

end

/-! Steps and runs. -/

section

variable {file : FileUpload}

theorem edit_same (file : FileUpload) (edit : Edit) :
    (file.edit edit).state = file.state ∧ (file.edit edit).notices = file.notices := by
  cases edit with
  | instructions => exact ⟨file.state_fillInstructions, file.notices_fillInstructions⟩
  | _ => exact ⟨rfl, rfl⟩

theorem advances_apply (file : FileUpload) (step : Step) :
    file.state.Advances (file.apply step).state := by
  cases step with
  | ask settings now request =>
    rw [apply, leaves_perform]
    cases taken : file.refusal? request with
    | some refusal => exact .refl file.state
    | none =>
      cases keeps : file.keepsState now request with
      | true => exact .inl (state_accepted_of_keepsState keeps).symm
      | false => exact .inr (rank_lt_rank_accepted taken keeps)
  | write edit => exact .inl (file.edit_same edit).1.symm

theorem advances_after (file : FileUpload) (steps : List Step) :
    file.state.Advances (file.after steps).state := by
  induction steps generalizing file with
  | nil => exact .refl file.state
  | cons step rest inductionHypothesis =>
    exact (file.advances_apply step).trans (inductionHypothesis (file.apply step))

/-- Each change of the state raises its rank. -/
theorem stateChanges_add_rank_le (file : FileUpload) (steps : List Step) :
    file.stateChanges steps + file.state.rank ≤ (file.after steps).state.rank := by
  induction steps generalizing file with
  | nil => exact Nat.le_of_eq (Nat.zero_add _)
  | cons step rest inductionHypothesis =>
    have others := inductionHypothesis (file.apply step)
    rw [stateChanges, after_cons]
    by_cases same : (file.apply step).state = file.state
    · rw [if_pos same, Nat.zero_add, ← same]
      exact others
    · have raised := (file.advances_apply step).resolve_left (Ne.symm same)
      rw [if_neg same]
      omega

theorem Noted.apply (noted : file.Noted) (step : Step) : (file.apply step).Noted := by
  cases step with
  | ask settings now request =>
    rw [FileUpload.apply, leaves_perform]
    cases taken : file.refusal? request with
    | some refusal => exact noted
    | none => exact noted.accepted taken
  | write edit =>
    obtain ⟨state, notices⟩ := file.edit_same edit
    rw [Noted, FileUpload.apply, state, notices]
    exact noted

theorem Noted.after (noted : file.Noted) (steps : List Step) : (file.after steps).Noted := by
  induction steps generalizing file with
  | nil => exact noted
  | cons step rest inductionHypothesis => exact inductionHypothesis (noted.apply step)

end

/-- A state that has been left is not come back to. -/
theorem state_after_ne_of_left {file : FileUpload} {first : List Step} (second : List Step)
    (left : (file.after first).state ≠ file.state) :
    (file.after (first ++ second)).state ≠ file.state := by
  have raised := (file.advances_after first).resolve_left (Ne.symm left)
  intro back
  rcases (file.after first).advances_after second with same | further
  · rw [← after_append, back] at same
    exact left same
  · rw [← after_append, back] at further
    exact Nat.lt_asymm raised further

/-- What a file has come to after a run, and what can be asked of it next. -/
structure Lifecycle (start : FileUpload) (steps : List Step) : Prop where
  refused : ∀ settings now request refusal next,
    (perform settings now request).run (start.after steps) = .error refusal next →
      next = start.after steps
  kept : ∀ settings now request answer next,
    (perform settings now request).run (start.after steps) = .ok answer next →
    (start.after steps).keepsState now request = true →
      answer = next.state ∧ next.state = (start.after steps).state
  raised : ∀ settings now request answer next,
    (perform settings now request).run (start.after steps) = .ok answer next →
    (start.after steps).keepsState now request = false →
      answer = next.state ∧ (start.after steps).state.rank < next.state.rank
  changes : start.stateChanges steps ≤ 3
  left : ∀ first second third, steps = first ++ second ++ third →
    (start.after (first ++ second)).state ≠ (start.after first).state →
      (start.after steps).state ≠ (start.after first).state
  noted : (start.after steps).Noted
  closed : (start.after steps).state = .canceled → ∀ settings now request,
    (perform settings now request).run (start.after steps) =
      .error (.file .canceled request.event) (start.after steps)

theorem perform_run_of_canceled {file : FileUpload} (canceled : file.state = .canceled)
    (settings : UploadSettings) (now : Instant) (request : Request) :
    (perform settings now request).run file = .error (.file .canceled request.event) file := by
  have refused : file.state.next? request.event = none := by
    rw [canceled]
    cases request <;> rfl
  rw [perform_run_of_none refused, canceled]

/-- A file goes one way from its creation to its cancellation, in three steps at most and with one
failure at most. -/
theorem lifecycle_of_run (created : Instant) (lifetime : Span) (id : FileId)
    (declaration : Declaration) (mechanism : Mechanism) (steps : List Step) :
    Lifecycle (new created lifetime id declaration mechanism) steps := by
  have fresh : (new created lifetime id declaration mechanism).Noted := rfl
  generalize new created lifetime id declaration mechanism = start at fresh ⊢
  have run := fun settings now request => perform_run settings now request (start.after steps)
  constructor
  case refused =>
    intro settings now request refusal next refused
    rw [run] at refused
    split at refused <;> cases refused
    rfl
  case kept =>
    intro settings now request answer next granted keeps
    rw [run] at granted
    split at granted <;> cases granted
    exact ⟨rfl, state_accepted_of_keepsState keeps⟩
  case raised =>
    intro settings now request answer next granted moves
    rw [run] at granted
    split at granted <;> cases granted
    rename_i taken
    exact ⟨rfl, rank_lt_rank_accepted taken moves⟩
  case changes =>
    have bounded := start.stateChanges_add_rank_le steps
    have highest := (start.after steps).state.rank_le_three
    omega
  case left =>
    rintro first second third rfl left
    rw [after_append] at left
    rw [List.append_assoc, after_append]
    exact state_after_ne_of_left third left
  case noted => exact fresh.after steps
  case closed => exact fun canceled => perform_run_of_canceled canceled

/-- A file that goes all the way, and is asked for more on each stage of it. -/
example :
    let start : Instant := .ofParts 1700000000 0
    let file := new start (.ofSeconds 60) ⟨1#128⟩ { filename := "demo.zip", size := 7 }
      (.httpPost "/files")
    let steps := [.prepare, .process, .process, .fail "corrupt", .fail "again", .cancel, .ready]
    let run := steps.map fun request => Step.ask {} start request
    file.stateChanges run = 3 ∧ (file.after run).state = .canceled ∧
      (file.after run).notices = ["corrupt"] := by
  exact ⟨rfl, rfl, rfl⟩

end ReleaseUpload.FileUpload
