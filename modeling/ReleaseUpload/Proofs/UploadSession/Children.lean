import ReleaseUpload.Proofs.UploadSession.Publication

/-!
Children. The files of a session are the files that its run has created, in that order and prepared
from the start. Nothing that is asked of a session or of a file touches what a file is, so an
identifier that was given out once reaches the same file at the same place ever after.
`children_of_run` says all of it.
-/

namespace ReleaseUpload

namespace FileUpload

/-- The same file at a later time. Only its deadline, its notices and its state may have moved. -/
def KeepsIdentity (earlier later : FileUpload) : Prop :=
  later = { earlier with
    expiration := later.expiration, notices := later.notices, state := later.state }

/-- The file has its instructions, and they are those of its mechanism. -/
def Prepared (file : FileUpload) : Prop :=
  file.instructions = some (file.mechanism.instructions file.id)

namespace KeepsIdentity

theorem refl (file : FileUpload) : KeepsIdentity file file := rfl

theorem trans {first second third : FileUpload} (one : KeepsIdentity first second)
    (two : KeepsIdentity second third) : KeepsIdentity first third := by
  rw [KeepsIdentity, two, one]

theorem of_mayCancel {earlier later : FileUpload} (related : MayCancel earlier later) :
    KeepsIdentity earlier later := by
  rcases related with rfl | rfl
  · exact .refl _
  · exact rfl

theorem id_eq {earlier later : FileUpload} (kept : KeepsIdentity earlier later) :
    later.id = earlier.id := by
  rw [kept]

theorem prepared {earlier later : FileUpload} (kept : KeepsIdentity earlier later)
    (prepared : earlier.Prepared) : later.Prepared := by
  rw [kept]
  exact prepared

end KeepsIdentity

theorem keepsIdentity_accepted {file : FileUpload} (prepared : file.Prepared)
    (settings : UploadSettings) (now : Instant) (request : Request) :
    KeepsIdentity file (file.accepted settings now request) := by
  cases request with
  | prepare =>
    rw [accepted, fillInstructions, prepared]
    exact .refl file
  | extend seconds =>
    rw [accepted]
    split <;> rfl
  | _ => rfl

theorem keepsIdentity_perform {file : FileUpload} (prepared : file.Prepared)
    (settings : UploadSettings) (now : Instant) (request : Request) :
    KeepsIdentity file (leaves (perform settings now request) file) := by
  rw [leaves_perform]
  cases file.refusal? request with
  | none => exact keepsIdentity_accepted prepared settings now request
  | some refusal => exact .refl file

end FileUpload

namespace UploadSession

open FileUpload (KeepsIdentity)

def Reply.child? : Reply → Option FileUpload
  | .created child => child
  | _ => none

/-- The file that a step creates, if it is answered with one. -/
def created? (session : UploadSession) : Step → Option FileUpload
  | .ask policy now request =>
    match (perform policy now request).run session with
    | .ok reply _ => reply.child?
    | .error _ _ => none
  | _ => none

/-- The files that a run creates, in the order of their creation and each as it was then. -/
def creations (session : UploadSession) : List Step → List FileUpload
  | [] => []
  | step :: rest => (session.created? step).toList ++ (session.apply step).creations rest

/-- What a file is that was declared just now. -/
structure Declared (policy : Policy) (now : Instant) (id : FileId)
    (declaration : FileUpload.Declaration) (mechanism : String) (child : FileUpload) : Prop where
  id : child.id = id
  declaration : child.declaration = declaration
  offered : policy.mechanisms.get? mechanism = some child.mechanism
  named : child.mechanism.name = mechanism
  createdAt : child.createdAt = now
  expiration : child.expiration = now.add (policy.uploads.span .fileLifetime)
  prepared : child.Prepared
  notices : child.notices = []
  state : child.state = .pending

theorem declared_preparedFile {policy : Policy} {name : String} {mechanism : Mechanism}
    (found : policy.mechanisms.get? name = some mechanism) (now : Instant) (id : FileId)
    (declaration : FileUpload.Declaration) :
    Declared policy now id declaration name
      (preparedFile policy now id declaration mechanism) where
  id := rfl
  declaration := rfl
  offered := found
  named := Registry.name_of_get? found
  createdAt := rfl
  expiration := rfl
  prepared := rfl
  notices := rfl
  state := rfl

section

variable {session : UploadSession}

theorem created?_ask (policy : Policy) (now : Instant) (request : Request) :
    session.created? (.ask policy now request) =
      match session.refusal? request with
      | some _ => none
      | none => (session.accepted policy now request).1.child? := by
  rw [created?, perform_run]
  cases session.refusal? request with
  | none => simp only
  | some refusal => simp only

/-- A request to the session itself does nothing to the files but add the one that it answers. -/
theorem files_accepted {request : Request} {event : Event} (entry : request.event? = some event)
    (policy : Policy) (now : Instant) :
    (session.accepted policy now request).2.files =
      session.files ++ (session.accepted policy now request).1.child?.toList := by
  cases request with
  | create id declaration mechanism =>
    simp only [accepted]
    cases policy.mechanisms.get? mechanism with
    | none => exact (List.append_nil _).symm
    | some found => rfl
  | file id asked => cases entry
  | cancel => exact (List.append_nil _).symm
  | fail notice => exact (List.append_nil _).symm
  | _ =>
    simp only [accepted]
    split <;> exact (List.append_nil _).symm

theorem child?_accepted_file (policy : Policy) (now : Instant) (id : FileId)
    (asked : FileUpload.Request) :
    (session.accepted policy now (.file id asked)).1.child? = none := by
  rw [accepted]
  split <;> rfl

theorem created?_file (policy : Policy) (now : Instant) (id : FileId)
    (asked : FileUpload.Request) : session.created? (.ask policy now (.file id asked)) = none := by
  rw [created?_ask, child?_accepted_file]
  split <;> rfl

/-- A file is created by a request to create it and by nothing else. -/
theorem created?_eq_some {step : Step} {child : FileUpload}
    (created : session.created? step = some child) :
    (session.apply step).files = session.files ++ [child] ∧
      ∃ policy now id declaration mechanism,
        step = .ask policy now (.create id declaration mechanism) ∧
        Declared policy now id declaration mechanism child := by
  cases step with
  | ask policy now request =>
    rw [created?_ask] at created
    rw [apply, leaves_perform]
    cases refused : session.refusal? request with
    | some refusal =>
      rw [refused] at created
      cases created
    | none =>
      rw [refused] at created
      simp only at created ⊢
      cases request with
      | create id declaration name =>
        have entry : (Request.create id declaration name).event? = some .createFile := rfl
        rw [files_accepted entry, created]
        refine ⟨rfl, policy, now, id, declaration, name, rfl, ?_⟩
        cases found : policy.mechanisms.get? name with
        | none =>
          simp only [accepted, found] at created
          cases created
        | some mechanism =>
          simp only [accepted, found] at created
          cases created
          exact declared_preparedFile found now id declaration
      | file id asked =>
        rw [child?_accepted_file] at created
        cases created
      | cancel => cases created
      | fail notice => cases created
      | _ =>
        simp only [accepted] at created
        split at created <;> cases created
  | _ => cases created

theorem files_apply_of_none {Related : FileUpload → FileUpload → Prop} {step : Step}
    (none : session.created? step = none)
    (kept : List.Forall₂ Related session.files (session.apply step).files) :
    List.Forall₂ Related (session.files ++ (session.created? step).toList)
      (session.apply step).files := by
  rw [none, Option.toList_none, List.append_nil]
  exact kept

/-- One step: the files there were, each as a request or a write to it has left it, and behind them
the one that was created. -/
theorem forall₂_files_apply {Related : FileUpload → FileUpload → Prop}
    (refl : ∀ file, Related file file)
    (performed : ∀ file ∈ session.files, ∀ settings now request,
      Related file (leaves (FileUpload.perform settings now request) file))
    (canceled : ∀ earlier later, FileUpload.MayCancel earlier later → Related earlier later)
    {step : Step} (edited : ∀ id edit, step = .write (.file id edit) →
      ∀ file ∈ session.files, Related file (file.edit edit)) :
    List.Forall₂ Related (session.files ++ (session.created? step).toList)
      (session.apply step).files := by
  have same (files : List FileUpload) : List.Forall₂ Related files files :=
    List.forall₂_same.mpr fun file _ => refl file
  cases step with
  | ask policy now request =>
    cases entry : request.event? with
    | some event =>
      rw [created?_ask, apply, leaves_perform]
      cases session.refusal? request with
      | some refusal =>
        rw [Option.toList_none, List.append_nil]
        exact same _
      | none =>
        rw [files_accepted entry]
        exact same _
    | none =>
      cases request with
      | file id asked =>
        apply files_apply_of_none (created?_file policy now id asked)
        rw [apply, leaves_perform_file]
        apply forall₂_modifyFirst
        · exact fun file _ => refl file
        · exact fun file found => performed file found policy.uploads now asked
      | _ => cases entry
  | write edit =>
    apply files_apply_of_none rfl
    cases edit with
    | file id edit =>
      rw [apply, edit_file]
      apply forall₂_modifyFirst
      · exact fun file _ => refl file
      · exact edited id edit rfl
    | _ => exact same _
  | readToken => exact files_apply_of_none rfl (same _)
  | showStatus policy now => exact files_apply_of_none rfl (same _)
  | reap now =>
    apply files_apply_of_none rfl
    exact (session.reaped_apply_reap now).files.imp canceled

/-- What each step of a run does to the files the whole run does to them. -/
theorem forall₂_files_after {Related : FileUpload → FileUpload → Prop}
    (refl : ∀ file, Related file file)
    (trans : ∀ first second third, Related first second → Related second third →
      Related first third)
    {steps : List Step}
    (each : ∀ before step later, steps = before ++ step :: later →
      List.Forall₂ Related
        ((session.after before).files ++ ((session.after before).created? step).toList)
        ((session.after before).apply step).files) :
    List.Forall₂ Related (session.files ++ session.creations steps)
      (session.after steps).files := by
  have same (files : List FileUpload) : List.Forall₂ Related files files :=
    List.forall₂_same.mpr fun file _ => refl file
  induction steps generalizing session with
  | nil =>
    rw [creations, List.append_nil]
    exact same session.files
  | cons step rest inductionHypothesis =>
    have one : List.Forall₂ Related
        (session.files ++ (session.created? step).toList ++ (session.apply step).creations rest)
        ((session.apply step).files ++ (session.apply step).creations rest) :=
      List.rel_append (each [] step rest rfl) (same _)
    have others := inductionHypothesis fun before next later split =>
      each (step :: before) next later (congrArg (step :: ·) split)
    rw [List.append_assoc] at one
    exact forall₂_trans trans one others

theorem files_apply (prepared : ∀ file ∈ session.files, file.Prepared) {step : Step}
    (unwritten : step.writesFile = false) :
    List.Forall₂ KeepsIdentity (session.files ++ (session.created? step).toList)
      (session.apply step).files := by
  apply forall₂_files_apply KeepsIdentity.refl
  · exact fun file found => FileUpload.keepsIdentity_perform (prepared file found)
  · exact fun _ _ related => .of_mayCancel related
  · rintro id edit rfl
    cases unwritten

theorem prepared_apply (prepared : ∀ file ∈ session.files, file.Prepared) {step : Step}
    (unwritten : step.writesFile = false) :
    ∀ file ∈ (session.apply step).files, file.Prepared := by
  intro file found
  obtain ⟨old, reached, kept⟩ := exists_mem_of_forall₂ (files_apply prepared unwritten) found
  rcases List.mem_append.mp reached with there | created
  · exact kept.prepared (prepared old there)
  · obtain ⟨-, policy, now, id, declaration, mechanism, -, declared⟩ :=
      created?_eq_some (Option.mem_toList.mp created)
    exact kept.prepared declared.prepared

theorem prepared_after (prepared : ∀ file ∈ session.files, file.Prepared) {steps : List Step}
    (unwritten : ∀ step ∈ steps, step.writesFile = false) :
    ∀ file ∈ (session.after steps).files, file.Prepared := by
  induction steps generalizing session with
  | nil => exact prepared
  | cons step rest inductionHypothesis =>
    rw [List.forall_mem_cons] at unwritten
    exact inductionHypothesis (prepared_apply prepared unwritten.1) unwritten.2

theorem files_after (prepared : ∀ file ∈ session.files, file.Prepared) {steps : List Step}
    (unwritten : ∀ step ∈ steps, step.writesFile = false) :
    List.Forall₂ KeepsIdentity (session.files ++ session.creations steps)
      (session.after steps).files := by
  apply forall₂_files_after KeepsIdentity.refl fun _ _ _ one two => one.trans two
  rintro before step later rfl
  rw [List.forall_mem_append, List.forall_mem_cons] at unwritten
  exact files_apply (prepared_after prepared unwritten.1) unwritten.2.1

end

theorem map_id_of_keepsIdentity {earlier later : List FileUpload}
    (kept : List.Forall₂ KeepsIdentity earlier later) :
    later.map (·.id) = earlier.map (·.id) := by
  induction kept with
  | nil => rfl
  | cons head rest inductionHypothesis =>
    rw [List.map_cons, List.map_cons, head.id_eq, inductionHypothesis]

/-- An identifier stands for the file at one position: that file is found under it, and an action
under it is an action on that file and leaves all others alone. -/
structure Reaches (session : UploadSession) (id : FileId) (position : Nat) (file : FileUpload) :
    Prop where
  there : session.files[position]? = some file
  found : session.file? id = some file
  acts : ∀ (α : Type) (action : FileUpload.Action α), (onFile id action).run session =
    match action.run file with
    | .ok answer after =>
      .ok (some answer) { session with files := session.files.set position after }
    | .error refusal after =>
      .error refusal { session with files := session.files.set position after }

theorem reaches_of_distinct {session : UploadSession}
    (distinct : (session.files.map (·.id)).Nodup) {position : Nat} {file : FileUpload}
    (there : session.files[position]? = some file) : session.Reaches file.id position file := by
  have found := file?_of_mem distinct (List.mem_of_getElem? there)
  refine ⟨there, found, fun α action => ?_⟩
  have set (after : FileUpload) : session.modifyFile file.id (fun _ => after) =
      { session with files := session.files.set position after } := by
    rw [modifyFile, modifyFirst_eq_modify, findIdx_of_distinct distinct there,
      List.set_eq_modify]
  rw [onFile_run, found]
  cases ran : action.run file with
  | ok answer after => simp only [ran, set]
  | error refusal after => simp only [ran, set]

theorem exists_getElem?_of_forall₂ {earlier later : List FileUpload}
    (kept : List.Forall₂ KeepsIdentity earlier later) {position : Nat} {child : FileUpload}
    (there : earlier[position]? = some child) :
    ∃ file, later[position]? = some file ∧ KeepsIdentity child file := by
  obtain ⟨inside, rfl⟩ := List.getElem?_eq_some_iff.mp there
  have within : position < later.length := kept.length_eq ▸ inside
  exact ⟨later[position], List.getElem?_eq_getElem within, kept.get inside within⟩

/-- What a run makes of the files of a session that began without any. -/
structure Children (start : UploadSession) (steps : List Step) : Prop where
  /-- Each step adds the file that it creates behind the files that there are. -/
  appended : ∀ before step later, steps = before ++ step :: later →
    List.Forall₂ KeepsIdentity
      ((start.after before).files ++ ((start.after before).created? step).toList)
      ((start.after before).apply step).files
  created : ∀ before step later child, steps = before ++ step :: later →
    (start.after before).created? step = some child →
    ((start.after before).apply step).files = (start.after before).files ++ [child] ∧
      ∃ policy now id declaration mechanism,
        step = .ask policy now (.create id declaration mechanism) ∧
        Declared policy now id declaration mechanism child
  /-- Of the files of the whole run none is lost, replaced or moved to another place. -/
  kept : List.Forall₂ KeepsIdentity (start.creations steps) (start.after steps).files
  reached : ((start.creations steps).map (·.id)).Nodup →
    ∀ position child, (start.creations steps)[position]? = some child →
      ∃ file, KeepsIdentity child file ∧ (start.after steps).Reaches child.id position file

/-- The files of a session are the files that its run created, each prepared from the start, kept
as it was declared, and reached under its identifier if no identifier was given out twice. -/
theorem children_of_run (created : Instant) (lifetime : Span) (id : SessionId)
    (project version nonce : String) (steps : List Step)
    (unwritten : ∀ step ∈ steps, step.writesFile = false) :
    Children (new created lifetime id project version nonce) steps := by
  have prepared : ∀ file ∈ (new created lifetime id project version nonce).files,
      file.Prepared := by
    simp [new]
  have kept := files_after prepared unwritten
  refine ⟨?_, fun _ _ _ _ _ answered => created?_eq_some answered, kept, ?_⟩
  · rintro before step later rfl
    rw [List.forall_mem_append, List.forall_mem_cons] at unwritten
    exact files_apply (prepared_after prepared unwritten.1) unwritten.2.1
  · intro distinct position child there
    obtain ⟨file, placed, same⟩ := exists_getElem?_of_forall₂ kept there
    have apart : (((new created lifetime id project version nonce).after steps).files.map
        (·.id)).Nodup := by
      rw [map_id_of_keepsIdentity kept]
      exact distinct
    refine ⟨file, same, ?_⟩
    rw [← same.id_eq]
    exact reaches_of_distinct apart placed

/-- Two files are declared, the second is handed over and the first fails. -/
def pairRun : List Step :=
  let start : Instant := .ofParts 1700000000 0
  [.ask .standard start
      (.create ⟨1#128⟩ { filename := "demo-1.0.tar.gz", size := 7 } Mechanism.httpPostName),
    .ask .standard start
      (.create ⟨2#128⟩ { filename := "demo-1.0.zip", size := 9 } Mechanism.httpPostName),
    .ask .standard start (.file ⟨2#128⟩ .ready),
    .ask .standard start (.file ⟨1#128⟩ (.fail "checksum mismatch"))]

theorem pairRun_children :
    let start := new (.ofParts 1700000000 0) (.ofSeconds 60) ⟨0#128⟩ "demo" "1.0" ""
    (∀ step ∈ pairRun, step.writesFile = false) ∧
      (start.creations pairRun).map (·.id) = [⟨1#128⟩, ⟨2#128⟩] ∧
      Children start pairRun ∧
      ∃ file, file.declaration.filename = "demo-1.0.zip" ∧ file.state = .complete ∧
        (start.after pairRun).Reaches ⟨2#128⟩ 1 file := by
  intro start
  have unwritten : ∀ step ∈ pairRun, step.writesFile = false := by
    simp [pairRun, Step.writesFile]
  have ids : (start.creations pairRun).map (·.id) = [⟨1#128⟩, ⟨2#128⟩] := by
    rfl
  have distinct : ((start.creations pairRun).map (·.id)).Nodup := by
    rw [ids]
    decide
  have children := children_of_run (.ofParts 1700000000 0) (.ofSeconds 60) ⟨0#128⟩ "demo" "1.0" ""
    pairRun unwritten
  obtain ⟨file, same, reaches⟩ := children.reached distinct 1 _ rfl
  have declared : file.declaration.filename = "demo-1.0.zip" := by
    rw [same]
    rfl
  have handedOver : file.state = .complete := by
    rw [← Option.some.inj reaches.there]
  exact ⟨unwritten, ids, children, file, declared, handedOver, reaches⟩

end UploadSession

end ReleaseUpload
