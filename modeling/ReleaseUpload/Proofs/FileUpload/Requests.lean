import ReleaseUpload.FileUpload

/-!
What each request does to a file. `refusal?` reads off the table of transitions whether a request is
turned away, `accepted` is the record after one that is not, and `perform_run` says that the action
behind a request is exactly these two. Everything else about requests is derived from it.
-/

namespace ReleaseUpload

/-- What an action leaves behind, whether it answers or is refused. -/
def leaves {ε σ α : Type} (action : EStateM ε σ α) (before : σ) : σ :=
  match action.run before with
  | .ok _ after => after
  | .error _ after => after

section

variable {ε σ α : Type} {action : EStateM ε σ α} {before after : σ}

theorem leaves_of_ok {answer : α} (run : action.run before = .ok answer after) :
    leaves action before = after := by
  simp only [leaves, run]

theorem leaves_of_error {error : ε} (run : action.run before = .error error after) :
    leaves action before = after := by
  simp only [leaves, run]

/-- What relates a record to whatever either action leaves of it relates it to what both leave. -/
theorem leaves_bind {β : Type} {Related : σ → σ → Prop} {next : α → EStateM ε σ β}
    (trans : ∀ first second third, Related first second → Related second third →
      Related first third)
    (head : ∀ record, Related record (leaves action record))
    (tail : ∀ answer record, Related record (leaves (next answer) record)) (record : σ) :
    Related record (leaves (action >>= next) record) := by
  have headed := head record
  simp only [leaves, EStateM.run_bind] at headed ⊢
  cases ran : action.run record with
  | ok answer middle =>
    simp only [ran] at headed ⊢
    exact trans _ _ _ headed (tail answer middle)
  | error error middle =>
    simp only [ran] at headed ⊢
    exact headed

end

namespace FileUpload

/-- The refusal of a request that the state does not take. -/
def refusal? (file : FileUpload) (request : Request) : Option Refusal :=
  match file.state.next? request.event with
  | some _ => none
  | none => some (.file file.state request.event)

/-- The record after a request that the state takes. -/
def accepted (settings : UploadSettings) (now : Instant) (file : FileUpload) : Request → FileUpload
  | .prepare => file.fillInstructions
  | .ready =>
    { file with state := if file.mechanism.requiresProcessing then .processing else .complete }
  | .process => { file with state := .processing }
  | .complete => { file with state := .complete }
  | .fail notice => addNotice notice { file with state := .error }
  | .cancel => { file with state := .canceled }
  | .extend seconds =>
    if file.isExpired now then addNotice expiredNotice { file with state := .error }
    else { file with expiration := file.expiration.add (settings.extension seconds) }

theorem fire_run (event : Event) (file : FileUpload) :
    (fire event).run file =
      match file.state.next? event with
      | some state => .ok state { file with state }
      | none => .error (.file file.state event) file := by
  simp only [fire, EStateM.run_bind, EStateM.run_get]
  cases file.state.next? event <;> rfl

section

variable {settings : UploadSettings} {now : Instant} {request : Request} {file : FileUpload}

/-- Every action on a file fires the event of its request before anything else. -/
theorem perform_run_of_none (refused : file.state.next? request.event = none) :
    (perform settings now request).run file = .error (.file file.state request.event) file := by
  cases request <;>
    simp only [Request.event] at refused <;>
    simp only [perform, prepare, ready, process, complete, fail, cancel, extend, EStateM.run_bind,
      fire_run, refused, Request.event]

theorem perform_run_of_some {next : State} (taken : file.state.next? request.event = some next) :
    (perform settings now request).run file =
      .ok (file.accepted settings now request).state (file.accepted settings now request) := by
  obtain ⟨id, declaration, mechanism, createdAt, expiration, instructions, notices, state⟩ := file
  cases request with
  | prepare =>
    cases state <;> cases taken
    cases instructions <;> rfl
  | ready =>
    cases state <;> cases taken
    cases needed : mechanism.requiresProcessing <;>
      simp only [perform, ready, process, complete, EStateM.run_bind, EStateM.run_get, fire_run,
        State.next?, accepted, needed] <;> rfl
  | process => cases state <;> cases taken; rfl
  | complete => cases state <;> cases taken <;> rfl
  | fail notice => cases state <;> cases taken <;> rfl
  | cancel => cases state <;> cases taken <;> rfl
  | extend seconds =>
    cases state <;> cases taken
    simp only [perform, extend, EStateM.run_bind, EStateM.run_get, fire_run, State.next?, accepted]
    by_cases late : expiration < now
    · simp only [isExpired, late, decide_true, if_pos]
      rfl
    · simp only [isExpired, late, decide_false, Bool.false_eq_true, if_false]
      rfl

end

variable (settings : UploadSettings) (now : Instant) (request : Request) (file : FileUpload)

theorem perform_run :
    (perform settings now request).run file =
      match file.refusal? request with
      | some refusal => .error refusal file
      | none => .ok (file.accepted settings now request).state
          (file.accepted settings now request) := by
  unfold refusal?
  cases taken : file.state.next? request.event with
  | none => exact perform_run_of_none taken
  | some next => exact perform_run_of_some taken

theorem leaves_perform :
    leaves (perform settings now request) file =
      match file.refusal? request with
      | some _ => file
      | none => file.accepted settings now request := by
  have run := perform_run settings now request file
  cases refused : file.refusal? request <;> rw [refused] at run
  · exact leaves_of_ok run
  · exact leaves_of_error run

theorem refusal?_eq_none_iff {file : FileUpload} {request : Request} :
    file.refusal? request = none ↔ ∃ next, file.state.next? request.event = some next := by
  unfold refusal?
  cases file.state.next? request.event <;> simp

end FileUpload

end ReleaseUpload
