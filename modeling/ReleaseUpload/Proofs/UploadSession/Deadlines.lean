import ReleaseUpload.Proofs.UploadSession.Children

/-!
Deadlines. Only an extension that is granted moves the deadline of a session or of one of its files.
It is granted to a record that is pending and not past its deadline, and never moves it back. Under
a clock that never goes back a record that is past its deadline therefore stays past it, and no
extension of it is granted any more. `deadlines_of_run` says both for whole runs.
-/

namespace ReleaseUpload

theorem Instant.le_add {instant : Instant} {span : Span} (forward : 0 ≤ span.nanos) :
    instant ≤ instant.add span := by
  have inside := instant.le_last
  rw [le_def, add, nanos_clamp]
  omega

theorem UploadSettings.extension_nonneg (settings : UploadSettings) (seconds : UInt64) :
    0 ≤ (settings.extension seconds).nanos := by
  simp only [extension, Span.ofSetting, Span.ofSeconds, Span.nanosPerSecond]
  omega

namespace FileUpload

/-- The record after a recorded failure. -/
def failed (notice : String) (file : FileUpload) : FileUpload :=
  addNotice notice { file with state := .error }

/-- The record with its deadline moved on. -/
def extended (span : Span) (file : FileUpload) : FileUpload :=
  { file with expiration := file.expiration.add span }

section

variable {file : FileUpload}

theorem extend_run_of_pending (pending : file.state = .pending) (settings : UploadSettings)
    (now : Instant) (seconds : UInt64) :
    (extend settings now seconds).run file =
      if file.isExpired now then .ok .error (file.failed expiredNotice)
      else .ok .pending (file.extended (settings.extension seconds)) := by
  obtain ⟨id, declaration, mechanism, createdAt, expiration, instructions, notices, state⟩ := file
  obtain rfl : state = .pending := pending
  simp only [extend, EStateM.run_bind, EStateM.run_get, fire_run, State.next?]
  split_ifs <;> rfl

/-- An extension is granted to a file that is pending and not past its deadline, and to no other. -/
theorem extend_run_eq_ok_iff {after : FileUpload} {settings : UploadSettings} {now : Instant}
    {seconds : UInt64} :
    (extend settings now seconds).run file = .ok .pending after ↔
      file.state = .pending ∧ now ≤ file.expiration ∧
        after = file.extended (settings.extension seconds) := by
  cases current : file.state with
  | pending =>
    rw [extend_run_of_pending current, isExpired, ← Instant.not_lt]
    by_cases late : file.expiration < now
    · simp [late]
    · simp [late, eq_comm]
  | _ => simp [extend, EStateM.run_bind, fire_run, State.next?, current]

end

theorem expiration_edit {file : FileUpload} {edit : Edit}
    (other : ∀ expiration, edit ≠ .expiration expiration) :
    (file.edit edit).expiration = file.expiration := by
  cases edit with
  | instructions =>
    rw [FileUpload.edit, fillInstructions]
    split <;> rfl
  | expiration expiration => exact absurd rfl (other expiration)
  | _ => rfl

theorem expiration_accepted {file : FileUpload} {request : Request}
    (other : ∀ seconds, request ≠ .extend seconds) (settings : UploadSettings) (now : Instant) :
    (file.accepted settings now request).expiration = file.expiration := by
  cases request with
  | prepare =>
    rw [accepted, fillInstructions]
    split <;> rfl
  | extend seconds => exact absurd rfl (other seconds)
  | _ => rfl

theorem expiration_perform {request : Request} (other : ∀ seconds, request ≠ .extend seconds)
    (settings : UploadSettings) (now : Instant) (file : FileUpload) :
    (leaves (perform settings now request) file).expiration = file.expiration := by
  rw [leaves_perform]
  split
  · rfl
  · exact expiration_accepted other settings now

end FileUpload

namespace UploadSession

/-- A record with a deadline of its own: the session, or the file at a position in it. -/
inductive Part where
  | session
  | file (position : Nat)

namespace Part

/-- The answer to an extension that is granted. -/
def extended : Part → Reply
  | .session => .state .pending
  | .file _ => .file (some .pending)

/-- The answer to an extension that comes too late. -/
def lapsed : Part → Reply
  | .session => .state .error
  | .file _ => .file (some .error)

end Part

section

variable (session : UploadSession)

def deadline? : Part → Option Instant
  | .session => some session.expiration
  | .file position => session.files[position]?.map (·.expiration)

def isPending : Part → Bool
  | .session => session.state = .pending
  | .file position => session.files[position]?.any (·.state = .pending)

/-- Past its deadline. -/
def isLate (now : Instant) : Part → Bool
  | .session => session.isExpired now
  | .file position => session.files[position]?.any (·.isExpired now)

/-- The session with the deadline of a part moved on. -/
def extended (span : Span) : Part → UploadSession
  | .session => { session with expiration := session.expiration.add span }
  | .file position =>
    { session with
      files := session.files.modify position (FileUpload.extended span) }

/-- The session with a part in error because an extension came too late. -/
def lapsed : Part → UploadSession
  | .session => session.failed expiredNotice
  | .file position =>
    { session with
      files := session.files.modify position (FileUpload.failed FileUpload.expiredNotice) }

/-- Requests for a later deadline of a part. A file is asked for by an identifier, which stands for
the first file that carries it. -/
inductive Extends (seconds : UInt64) : Part → Request → Prop
  | session : Extends seconds .session (.extend seconds)
  | file (id : FileId) :
    Extends seconds (.file (session.files.findIdx (·.id = id))) (.file id (.extend seconds))

end

/-- A step that moves the deadline of a part: a request for it that is granted, because the part is
pending and not past its deadline. -/
inductive Granted (session : UploadSession) (part : Part) : Step → Prop
  | intro {policy : Policy} {now : Instant} {seconds : UInt64} {request : Request}
      (asks : session.Extends seconds part request) (pending : session.isPending part = true)
      (punctual : session.isLate now part = false)
      (run : (perform policy now request).run session =
        .ok part.extended (session.extended (policy.uploads.extension seconds) part)) :
      Granted session part (.ask policy now request)

/-- The owner writes a deadline. -/
def Step.setsDeadline : Step → Bool
  | .write (.expiration _) | .write (.file _ (.expiration _)) => true
  | _ => false

/-- The instant of a step, if it takes a clock. -/
def Step.time? : Step → Option Instant
  | .ask _ now _ | .showStatus _ now | .reap now => some now
  | .write _ | .readToken => none

/-- A clock that never goes back can show `now` between the steps before and those after. -/
def Clocked (before : List Step) (now : Instant) (later : List Step) : Prop :=
  (before.filterMap Step.time? ++ now :: later.filterMap Step.time?).Pairwise (· ≤ ·)

section

variable {session : UploadSession} {part : Part} {deadline : Instant}

theorem isLate_of_deadline? (there : session.deadline? part = some deadline) (now : Instant) :
    session.isLate now part = decide (deadline < now) := by
  cases part with
  | session =>
    cases there
    rfl
  | file position =>
    obtain ⟨file, found, rfl⟩ := Option.map_eq_some_iff.mp there
    rw [isLate, found]
    rfl

theorem exists_deadline?_of_isLate {now : Instant} (late : session.isLate now part = true) :
    ∃ deadline, session.deadline? part = some deadline ∧ deadline < now := by
  cases part with
  | session => exact ⟨session.expiration, rfl, of_decide_eq_true late⟩
  | file position =>
    rw [isLate, Option.any_eq_true] at late
    obtain ⟨file, found, expired⟩ := late
    refine ⟨file.expiration, ?_, of_decide_eq_true expired⟩
    rw [deadline?, found, Option.map_some]

theorem deadline?_extended (there : session.deadline? part = some deadline) (span : Span) :
    (session.extended span part).deadline? part = some (deadline.add span) := by
  cases part with
  | session =>
    cases there
    rfl
  | file position =>
    obtain ⟨file, found, rfl⟩ := Option.map_eq_some_iff.mp there
    simp [deadline?, extended, found, FileUpload.extended]

theorem file?_eq_getElem? (session : UploadSession) (id : FileId) :
    session.file? id = session.files[session.files.findIdx (·.id = id)]? :=
  List.find?_eq_getElem?_findIdx

/-- A change is made at the position of the file that is found, and only there. -/
theorem modifyFile_eq {id : FileId} {file : FileUpload} (found : session.file? id = some file)
    (change : FileUpload → FileUpload) {other : FileUpload → FileUpload}
    (same : other file = change file) :
    session.modifyFile id other =
      { session with
        files := session.files.modify (session.files.findIdx (·.id = id)) change } := by
  rw [← modifyFirst_eq_modify]
  exact modifyFile_congr found same

theorem extend_run_of_pending (pending : session.state = .pending) (settings : UploadSettings)
    (now : Instant) (seconds : UInt64) :
    (extend settings now seconds).run session =
      if session.isExpired now then .ok .error (session.lapsed .session)
      else .ok .pending (session.extended (settings.extension seconds) .session) := by
  obtain ⟨id, project, version, nonce, createdAt, expiration, seenToken, files, notices, state⟩ :=
    session
  obtain rfl : state = .pending := pending
  simp only [extend, EStateM.run_bind, EStateM.run_get, fire_run, State.next?]
  split_ifs <;> rfl

/-- An extension is granted to a session that is pending and not past its deadline, and to no
other. -/
theorem extend_run_eq_ok_iff {after : UploadSession} {settings : UploadSettings} {now : Instant}
    {seconds : UInt64} :
    (extend settings now seconds).run session = .ok .pending after ↔
      session.state = .pending ∧ now ≤ session.expiration ∧
        after = session.extended (settings.extension seconds) .session := by
  cases current : session.state with
  | pending =>
    rw [extend_run_of_pending current, isExpired, ← Instant.not_lt]
    by_cases late : session.expiration < now
    · simp [late]
    · simp [late, eq_comm]
  | _ => simp [extend, EStateM.run_bind, fire_run, State.next?, current]

/-- What becomes of a request for a later deadline. -/
theorem perform_run_of_extends {seconds : UInt64} {request : Request}
    (asks : session.Extends seconds part request)
    (there : session.deadline? part = some deadline) (policy : Policy) (now : Instant) :
    match session.isPending part, session.isLate now part with
    | true, false => (perform policy now request).run session =
      .ok part.extended (session.extended (policy.uploads.extension seconds) part)
    | true, true => (perform policy now request).run session =
      .ok part.lapsed (session.lapsed part)
    | false, _ => ∃ refusal, (perform policy now request).run session = .error refusal session := by
  rw [perform_run]
  cases asks with
  | session =>
    obtain ⟨id, project, version, nonce, createdAt, expiration, seenToken, files, notices, state⟩ :=
      session
    simp only [refusal?, eventRefusal?, accepted, isPending, isLate]
    cases state with
    | pending => cases isExpired _ now <;> rfl
    | _ => exact ⟨_, rfl⟩
  | file id =>
    obtain ⟨file, found, -⟩ := Option.map_eq_some_iff.mp there
    have reached : session.file? id = some file := (session.file?_eq_getElem? id).trans found
    simp only [refusal?, accepted, reached, Option.bind_some, FileUpload.refusal?, isPending,
      isLate, found, Option.any_some]
    cases current : file.state with
    | pending =>
      cases late : file.isExpired now with
      | true =>
        have same : file.accepted policy.uploads now (.extend seconds) =
            file.failed FileUpload.expiredNotice := if_pos late
        have changed : session.modifyFile id (·.accepted policy.uploads now (.extend seconds)) =
            session.lapsed (.file _) := modifyFile_eq reached _ same
        simp only [changed, same, decide_true]
        rfl
      | false =>
        have same : file.accepted policy.uploads now (.extend seconds) =
            file.extended (policy.uploads.extension seconds) := if_neg (Bool.eq_false_iff.mp late)
        have changed : session.modifyFile id (·.accepted policy.uploads now (.extend seconds)) =
            session.extended (policy.uploads.extension seconds) (.file _) :=
          modifyFile_eq reached _ same
        have answer : (file.extended (policy.uploads.extension seconds)).state = .pending := current
        simp only [changed, same, answer, decide_true]
        rfl
    | _ => exact ⟨_, rfl⟩

/-! One step. -/

theorem deadline?_lapsed (session : UploadSession) (part : Part) :
    (session.lapsed part).deadline? part = session.deadline? part := by
  cases part with
  | session => rfl
  | file position =>
    cases found : session.files[position]? <;>
      simp [deadline?, lapsed, found, FileUpload.failed, FileUpload.addNotice]

/-- A change of one file is seen at its position, and there only if it is one of the deadline. -/
theorem deadline?_modifyFile {id : FileId} {change : FileUpload → FileUpload} {position : Nat}
    (same : session.files.findIdx (·.id = id) = position →
      ∀ file, (change file).expiration = file.expiration) :
    (session.modifyFile id change).deadline? (.file position) =
      session.deadline? (.file position) := by
  rw [modifyFile, modifyFirst_eq_modify, deadline?, deadline?, List.getElem?_modify]
  cases session.files[position]? with
  | none => rfl
  | some file =>
    simp only [Option.map_eq_map, Option.map_some]
    split_ifs with reached
    · rw [same reached]
    · rfl

theorem expiration_accepted {request : Request} (other : ∀ seconds, request ≠ .extend seconds)
    (policy : Policy) (now : Instant) :
    (session.accepted policy now request).2.expiration = session.expiration := by
  cases request with
  | cancel => rfl
  | fail notice => rfl
  | extend seconds => exact absurd rfl (other seconds)
  | _ =>
    simp only [accepted]
    split <;> rfl

theorem expiration_perform {request : Request} (other : ∀ seconds, request ≠ .extend seconds)
    (policy : Policy) (now : Instant) :
    (leaves (perform policy now request) session).expiration = session.expiration := by
  rw [leaves_perform]
  split
  · rfl
  · exact expiration_accepted other policy now

theorem deadline?_file_of_own {request : Request} {event : Event}
    (entry : request.event? = some event) {position : Nat}
    (there : session.deadline? (.file position) = some deadline) (policy : Policy)
    (now : Instant) :
    (leaves (perform policy now request) session).deadline? (.file position) = some deadline := by
  rw [leaves_perform]
  split
  · exact there
  · obtain ⟨file, found, rfl⟩ := Option.map_eq_some_iff.mp there
    rw [deadline?, files_accepted entry,
      List.getElem?_append_left (List.getElem?_eq_some_iff.mp found).1, found]
    rfl

/-- Other requests have nothing to do with the deadline of a part. -/
theorem deadline?_ask_of_not_extends {request : Request}
    (other : ∀ seconds, ¬session.Extends seconds part request)
    (there : session.deadline? part = some deadline) (policy : Policy) (now : Instant) :
    (session.apply (.ask policy now request)).deadline? part = some deadline := by
  rw [apply]
  cases part with
  | session =>
    have kept : ∀ seconds, request ≠ .extend seconds := by
      rintro seconds rfl
      exact other seconds .session
    rw [← there]
    exact congrArg some (expiration_perform kept policy now)
  | file position =>
    cases entry : request.event? with
    | some event => exact deadline?_file_of_own entry there policy now
    | none =>
      cases request with
      | file id asked =>
        rw [leaves_perform_file, ← there]
        apply deadline?_modifyFile
        rintro rfl file
        apply FileUpload.expiration_perform
        rintro seconds rfl
        exact other seconds (.file id)
      | _ => cases entry

theorem deadline?_edit {edit : Edit} (unset : (Step.write edit).setsDeadline = false) :
    (session.edit edit).deadline? part = session.deadline? part := by
  cases edit with
  | expiration expiration => cases unset
  | file id edit =>
    rw [edit_file]
    cases part with
    | session => rfl
    | file position =>
      apply deadline?_modifyFile
      rintro - file
      apply FileUpload.expiration_edit
      rintro expiration rfl
      cases unset
  | _ => cases part <;> rfl

theorem map_expiration_of_mayCancel {earlier later : List FileUpload}
    (canceled : List.Forall₂ FileUpload.MayCancel earlier later) :
    later.map (·.expiration) = earlier.map (·.expiration) := by
  induction canceled with
  | nil => rfl
  | cons head rest inductionHypothesis =>
    rw [List.map_cons, List.map_cons, inductionHypothesis]
    rcases head with rfl | rfl <;> rfl

theorem deadline?_of_reaped {before after : UploadSession} (reaped : Reaped before after) :
    after.deadline? part = before.deadline? part := by
  cases part with
  | session => rw [reaped.same, deadline?, deadline?]
  | file position =>
    rw [deadline?, deadline?, ← List.getElem?_map, ← List.getElem?_map,
      map_expiration_of_mayCancel reaped.files]

/-- One step: a deadline is where it was, or an extension of it has been granted. -/
theorem deadline?_apply (there : session.deadline? part = some deadline) {step : Step}
    (unset : step.setsDeadline = false) :
    (session.apply step).deadline? part = some deadline ∨ session.Granted part step := by
  cases step with
  | ask policy now request =>
    by_cases asked : ∃ seconds, session.Extends seconds part request
    · obtain ⟨seconds, asks⟩ := asked
      have run := perform_run_of_extends asks there policy now
      rw [apply]
      cases pending : session.isPending part with
      | false =>
        rw [pending] at run
        obtain ⟨refusal, run⟩ := run
        rw [leaves_of_error run]
        exact .inl there
      | true =>
        cases late : session.isLate now part with
        | false =>
          rw [pending, late] at run
          exact .inr ⟨asks, pending, late, run⟩
        | true =>
          rw [pending, late] at run
          rw [leaves_of_ok run, deadline?_lapsed]
          exact .inl there
    · exact .inl (deadline?_ask_of_not_extends (not_exists.mp asked) there policy now)
  | write edit => exact .inl ((deadline?_edit unset).trans there)
  | readToken => exact .inl (by cases part <;> exact there)
  | showStatus policy now => exact .inl (by cases part <;> exact there)
  | reap now => exact .inl ((deadline?_of_reaped (session.reaped_apply_reap now)).trans there)

theorem Granted.deadline? {step : Step} (granted : session.Granted part step)
    (there : session.deadline? part = some deadline) :
    ∃ next, (session.apply step).deadline? part = some next ∧ deadline ≤ next := by
  cases granted with
  | intro asks pending punctual run =>
    rw [apply, leaves_of_ok run]
    exact ⟨_, deadline?_extended there _, Instant.le_add (UploadSettings.extension_nonneg _ _)⟩

/-- Past its deadline a part is granted nothing. -/
theorem Granted.false_of_late {step : Step} (granted : session.Granted part step)
    (there : session.deadline? part = some deadline) {now : Instant} (late : deadline < now)
    (clock : ∀ moment, step.time? = some moment → now ≤ moment) : False := by
  cases granted with
  | @intro policy moment seconds request asks pending punctual run =>
    rw [isLate_of_deadline? there, decide_eq_false_iff_not, Instant.lt_def] at punctual
    rw [Instant.lt_def] at late
    exact punctual (Int.lt_of_lt_of_le late (clock moment rfl))

theorem exists_deadline?_apply (there : session.deadline? part = some deadline) {step : Step}
    (unset : step.setsDeadline = false) :
    ∃ next, (session.apply step).deadline? part = some next ∧ deadline ≤ next := by
  rcases deadline?_apply there unset with kept | granted
  · exact ⟨deadline, kept, Int.le_refl _⟩
  · exact granted.deadline? there

theorem deadline?_apply_of_late (there : session.deadline? part = some deadline) {step : Step}
    (unset : step.setsDeadline = false) {now : Instant} (late : deadline < now)
    (clock : ∀ moment, step.time? = some moment → now ≤ moment) :
    (session.apply step).deadline? part = some deadline := by
  rcases deadline?_apply there unset with kept | granted
  · exact kept
  · exact (granted.false_of_late there late clock).elim

/-! Runs. -/

theorem exists_deadline?_after (there : session.deadline? part = some deadline) {steps : List Step}
    (unset : ∀ step ∈ steps, step.setsDeadline = false) :
    ∃ last, (session.after steps).deadline? part = some last ∧ deadline ≤ last := by
  induction steps generalizing session deadline with
  | nil => exact ⟨deadline, there, Int.le_refl _⟩
  | cons step rest inductionHypothesis =>
    rw [List.forall_mem_cons] at unset
    obtain ⟨next, moved, up⟩ := exists_deadline?_apply there unset.1
    obtain ⟨last, ended, further⟩ := inductionHypothesis moved unset.2
    exact ⟨last, ended, Int.le_trans up further⟩

theorem deadline?_after_of_late (there : session.deadline? part = some deadline)
    {steps : List Step} (unset : ∀ step ∈ steps, step.setsDeadline = false) {now : Instant}
    (late : deadline < now) (clock : ∀ moment ∈ steps.filterMap Step.time?, now ≤ moment) :
    (session.after steps).deadline? part = some deadline := by
  induction steps generalizing session with
  | nil => exact there
  | cons step rest inductionHypothesis =>
    rw [List.forall_mem_cons] at unset
    have onward : ∀ moment, step.time? = some moment → now ≤ moment := fun moment stamped =>
      clock moment (List.mem_filterMap.mpr ⟨step, List.mem_cons_self, stamped⟩)
    apply inductionHypothesis (deadline?_apply_of_late there unset.1 late onward) unset.2
    intro moment stamped
    obtain ⟨later, listed, same⟩ := List.mem_filterMap.mp stamped
    exact clock moment (List.mem_filterMap.mpr ⟨later, List.mem_cons_of_mem _ listed, same⟩)

end

theorem Clocked.le {before later : List Step} {now : Instant}
    (clocked : Clocked before now later) : ∀ moment ∈ later.filterMap Step.time?, now ≤ moment :=
  (List.pairwise_cons.mp (List.pairwise_append.mp clocked).2.1).1

/-- What a run does to the deadlines of a session and of its files. -/
structure Deadlines (start : UploadSession) (steps : List Step) : Prop where
  /-- A deadline moves only by an extension that is granted, and forward. -/
  moved : ∀ before step later part deadline, steps = before ++ step :: later →
    (start.after before).deadline? part = some deadline →
    ((start.after before).apply step).deadline? part = some deadline ∨
      ((start.after before).Granted part step ∧
        ∃ next, ((start.after before).apply step).deadline? part = some next ∧ deadline ≤ next)
  forward : ∀ before later part deadline, steps = before ++ later →
    (start.after before).deadline? part = some deadline →
    ∃ last, (start.after steps).deadline? part = some last ∧ deadline ≤ last
  /-- What is past its deadline keeps the deadline and stays past it. -/
  late : ∀ before now later part, steps = before ++ later → Clocked before now later →
    (start.after before).isLate now part = true →
    ∀ first second, later = first ++ second →
      (start.after (before ++ first)).deadline? part = (start.after before).deadline? part ∧
      ∀ moment, now ≤ moment → (start.after (before ++ first)).isLate moment part = true
  /-- An extension of what is past its deadline is refused or turns it into an error. -/
  lapsed : ∀ before now later part, steps = before ++ later → Clocked before now later →
    (start.after before).isLate now part = true →
    ∀ first policy moment seconds request second,
      later = first ++ .ask policy moment request :: second →
      let session := start.after (before ++ first)
      session.Extends seconds part request →
      (∃ refusal, (perform policy moment request).run session = .error refusal session) ∨
        (perform policy moment request).run session = .ok part.lapsed (session.lapsed part)

/-- Deadlines never move back, and once one has passed it is never moved again, unless the owner
writes it. -/
theorem deadlines_of_run (start : UploadSession) (steps : List Step)
    (unset : ∀ step ∈ steps, step.setsDeadline = false) : Deadlines start steps := by
  have kept : ∀ before now later part, steps = before ++ later → Clocked before now later →
      (start.after before).isLate now part = true → ∀ first second, later = first ++ second →
      ∃ deadline, (start.after before).deadline? part = some deadline ∧
        (start.after (before ++ first)).deadline? part = some deadline ∧ deadline < now := by
    rintro before now later part rfl clocked late first second rfl
    rw [List.forall_mem_append, List.forall_mem_append] at unset
    obtain ⟨deadline, there, passed⟩ := exists_deadline?_of_isLate late
    refine ⟨deadline, there, ?_, passed⟩
    rw [after_append]
    apply deadline?_after_of_late there unset.2.1 passed
    intro moment stamped
    apply clocked.le
    rw [List.filterMap_append]
    exact List.mem_append_left _ stamped
  refine ⟨?_, ?_, ?_, ?_⟩
  · rintro before step later part deadline rfl there
    rw [List.forall_mem_append, List.forall_mem_cons] at unset
    rcases deadline?_apply there unset.2.1 with same | granted
    · exact .inl same
    · exact .inr ⟨granted, granted.deadline? there⟩
  · rintro before later part deadline rfl there
    rw [List.forall_mem_append] at unset
    rw [after_append]
    exact exists_deadline?_after there unset.2
  · intro before now later part split clocked late first second splitToo
    obtain ⟨deadline, there, still, passed⟩ :=
      kept before now later part split clocked late first second splitToo
    refine ⟨still.trans there.symm, fun moment onward => ?_⟩
    rw [isLate_of_deadline? still, decide_eq_true_iff]
    exact Int.lt_of_lt_of_le passed onward
  · intro before now later part split clocked late first policy moment seconds request second
      splitToo session asks
    obtain ⟨deadline, there, still, passed⟩ :=
      kept before now later part split clocked late first _ splitToo
    have onward : now ≤ moment := by
      apply clocked.le
      rw [splitToo, List.filterMap_append]
      exact List.mem_append_right _ List.mem_cons_self
    have expired : session.isLate moment part = true := by
      rw [isLate_of_deadline? still, decide_eq_true_iff]
      exact Int.lt_of_lt_of_le passed onward
    have run := perform_run_of_extends asks still policy moment
    cases pending : session.isPending part with
    | false =>
      rw [pending] at run
      exact .inl run
    | true =>
      rw [pending, expired] at run
      exact .inr run

/-- A session is extended in time and then too late. Its notices are cleared and it is revalidated,
which does not help it, while its file has time left and is extended. -/
def lapsedRun : List Step :=
  let start : Instant := .ofParts 1700000000 0
  let late : Instant := .ofParts 1700000100 0
  [.ask .standard start
      (.create ⟨1#128⟩ { filename := "demo-1.0.tar.gz", size := 7 } Mechanism.httpPostName),
    .ask .standard start (.extend 30),
    .ask .standard late (.extend 3600),
    .ask .standard late (.file ⟨1#128⟩ (.extend 60)),
    .write .clearNotices,
    .ask .standard late .revalidate,
    .ask .standard late (.extend 3600)]

theorem lapsedRun_deadlines :
    let start := new (.ofParts 1700000000 0) (.ofSeconds 60) ⟨0#128⟩ "demo" "1.0" ""
    let late : Instant := .ofParts 1700000100 0
    let revalidated := start.after (lapsedRun.take 6)
    (∀ step ∈ lapsedRun, step.setsDeadline = false) ∧
      Deadlines start lapsedRun ∧
      Clocked (lapsedRun.take 2) late (lapsedRun.drop 2) ∧
      (start.after (lapsedRun.take 2)).isLate late .session = true ∧
      revalidated.state = .pending ∧
      revalidated.deadline? .session = (start.after (lapsedRun.take 2)).deadline? .session ∧
      revalidated.deadline? (.file 0) = some (.ofParts 1700003660 0) ∧
      (perform .standard late (.extend 3600)).run revalidated =
        .ok (.state .error) (revalidated.lapsed .session) := by
  intro start late revalidated
  have unset : ∀ step ∈ lapsedRun, step.setsDeadline = false := by
    simp [lapsedRun, Step.setsDeadline]
  have clocked : Clocked (lapsedRun.take 2) late (lapsedRun.drop 2) := by
    unfold Clocked
    decide
  have expired : (start.after (lapsedRun.take 2)).isLate late .session = true := by
    decide
  have deadlines := deadlines_of_run start lapsedRun unset
  have still := deadlines.late (lapsedRun.take 2) late (lapsedRun.drop 2) .session rfl clocked
    expired ((lapsedRun.drop 2).take 4) ((lapsedRun.drop 2).drop 4) rfl
  have extended : revalidated.deadline? (.file 0) = some (.ofParts 1700003660 0) := by
    decide
  refine ⟨unset, deadlines, clocked, expired, rfl, still.1, extended, ?_⟩
  rcases deadlines.lapsed (lapsedRun.take 2) late (lapsedRun.drop 2) .session rfl clocked expired
    ((lapsedRun.drop 2).take 4) .standard late 3600 (.extend 3600) [] rfl .session with
    ⟨refusal, run⟩ | run
  · rw [perform_run] at run
    cases run
  · exact run

end UploadSession

end ReleaseUpload
