import ReleaseUpload.Dictionary.Lookup
import ReleaseUpload.Proofs.UploadSession.Publication

/-!
What the status tells about publication. Of the files with one name the status shows the last and no
other, so a file that keeps its session from being published is shown as such unless a later file has
its name. `publish_iff_status` says when a client can rely on what it is shown.
-/

namespace ReleaseUpload.UploadSession

/-- The file that the status shows under a name. -/
def shownFile? (session : UploadSession) (name : String) : Option FileUpload :=
  session.files.reverse.find? (·.declaration.filename = name)

/-- Some file is shown as pending or in error. -/
def Status.ShowsBlock (status : Status) : Prop :=
  ∃ entry ∈ status.files.entries, entry.2.status = .pending ∨ entry.2.status = .error

instance (status : Status) : Decidable status.ShowsBlock :=
  inferInstanceAs (Decidable (∃ entry ∈ status.files.entries, _))

/-- Every file that is pending or in error is the one that is shown under its name. -/
def HidesNoBlock (session : UploadSession) : Prop :=
  ∀ file ∈ session.files, file.state = .pending ∨ file.state = .error →
    session.shownFile? file.declaration.filename = some file

theorem lookup_map_statusAt (now : Instant) (files : List FileUpload) (name : String) :
    (files.map fun file => (file.declaration.filename, file.statusAt now)).lookup name =
      (files.find? (·.declaration.filename = name)).map (·.statusAt now) := by
  induction files with
  | nil => rfl
  | cons head rest inductionHypothesis =>
    rw [List.map_cons, Dictionary.lookup_cons_eq, inductionHypothesis]
    by_cases named : name = head.declaration.filename
    · simp [named]
    · simp [named, Ne.symm named]

section

variable (session : UploadSession) (policy : Policy) (now : Instant)

theorem get?_files_statusAt (name : String) :
    (session.statusAt policy now).files.get? name =
      (session.shownFile? name).map (·.statusAt now) := by
  rw [statusAt, Dictionary.get?_ofList, ← List.map_reverse, lookup_map_statusAt, shownFile?]

theorem showsBlock_statusAt_iff :
    (session.statusAt policy now).ShowsBlock ↔
      ∃ name file, session.shownFile? name = some file ∧
        (file.state = .pending ∨ file.state = .error) := by
  constructor
  · rintro ⟨⟨name, shown⟩, listed, blocks⟩
    rw [Dictionary.mem_entries_iff, get?_files_statusAt, Option.map_eq_some_iff] at listed
    obtain ⟨file, last, rfl⟩ := listed
    exact ⟨name, file, last, blocks⟩
  · rintro ⟨name, file, last, blocks⟩
    refine ⟨(name, file.statusAt now), ?_, blocks⟩
    rw [Dictionary.mem_entries_iff, get?_files_statusAt, last, Option.map_some]

end

variable {session : UploadSession}

theorem mem_files_of_shownFile? {name : String} {file : FileUpload}
    (shown : session.shownFile? name = some file) : file ∈ session.files :=
  List.mem_reverse.mp (List.mem_of_find?_eq_some shown)

/-- Where no name comes twice every file is shown. -/
theorem shownFile?_of_mem
    (distinct : (session.files.map (·.declaration.filename)).Nodup) {file : FileUpload}
    (found : file ∈ session.files) :
    session.shownFile? file.declaration.filename = some file := by
  have reversed : (session.files.reverse.map (·.declaration.filename)).Nodup := by
    rw [List.map_reverse, List.nodup_reverse]
    exact distinct
  exact find?_of_mem reversed (List.mem_reverse.mpr found)

theorem leaves_publish_iff (pending : session.state = .pending) (policy : Policy)
    (now : Instant) :
    (leaves (perform policy now .publish) session).state = .published ↔
      session.canPublish = true := by
  have entered : session.refusal? .publish = none := by
    rw [refusal?, eventRefusal?, pending]
    rfl
  rw [leaves_perform, entered, accepted]
  split_ifs with ready
  · simp [ready]
  · simp [ready, failed, addNotice]

/-- A request to publish succeeds if and only if no file is shown as pending or in error, and none
that is so is hidden. -/
theorem leaves_publish_iff_showsBlock (pending : session.state = .pending) (policy : Policy)
    (now : Instant) :
    (leaves (perform policy now .publish) session).state = .published ↔
      ¬(session.statusAt policy now).ShowsBlock ∧ session.HidesNoBlock := by
  rw [leaves_publish_iff pending, canPublish_iff, showsBlock_statusAt_iff]
  constructor
  · intro settled
    constructor
    · rintro ⟨name, file, shown, blocks⟩
      have apart := settled file (mem_files_of_shownFile? shown)
      exact blocks.elim apart.1 apart.2
    · intro file found blocks
      exact absurd blocks (not_or.mpr (settled file found))
  · rintro ⟨unblocked, unhidden⟩ file found
    rw [← not_or]
    intro blocks
    exact unblocked ⟨_, file, unhidden file found blocks, blocks⟩

/-- A pending session is published on request if and only if its status shows no file as pending or
in error and hides none that is so; where no name comes twice it hides none. -/
theorem publish_iff_status (pending : session.state = .pending) (policy : Policy)
    (now : Instant) :
    ((leaves (perform policy now .publish) session).state = .published ↔
      ¬(session.statusAt policy now).ShowsBlock ∧ session.HidesNoBlock) ∧
    ((session.files.map (·.declaration.filename)).Nodup →
      ((leaves (perform policy now .publish) session).state = .published ↔
        ¬(session.statusAt policy now).ShowsBlock)) := by
  have published := leaves_publish_iff_showsBlock pending policy now
  refine ⟨published, fun distinct => ?_⟩
  rw [published]
  apply and_iff_left
  intro file found blocks
  exact shownFile?_of_mem distinct found

/-- Two files are declared, and the second is handed over. -/
def declaredTwice (first second : String) : List Step :=
  let start : Instant := .ofParts 1700000000 0
  [.ask .standard start
      (.create ⟨1#128⟩ { filename := first, size := 7 } Mechanism.httpPostName),
    .ask .standard start
      (.create ⟨2#128⟩ { filename := second, size := 7 } Mechanism.httpPostName),
    .ask .standard start (.file ⟨2#128⟩ .ready)]

theorem declaredTwice_apart :
    let now : Instant := .ofParts 1700000000 0
    let session := (new now (.ofSeconds 60) ⟨0#128⟩ "demo" "1.0" "").after
      (declaredTwice "demo-1.0.tar.gz" "demo-1.0.whl")
    session.state = .pending ∧ (session.files.map (·.declaration.filename)).Nodup ∧
      ((leaves (perform .standard now .publish) session).state = .published ↔
        ¬(session.statusAt .standard now).ShowsBlock) := by
  intro now session
  have pending : session.state = .pending := by rfl
  have distinct : (session.files.map (·.declaration.filename)).Nodup := by decide
  exact ⟨pending, distinct, (publish_iff_status pending .standard now).2 distinct⟩

/-- The second of two files of one name is complete and hides the first, which is pending: the status
shows nothing amiss, and yet the session is not published. -/
theorem declaredTwice_hidden :
    let now : Instant := .ofParts 1700000000 0
    let session := (new now (.ofSeconds 60) ⟨0#128⟩ "demo" "1.0" "").after
      (declaredTwice "demo-1.0.tar.gz" "demo-1.0.tar.gz")
    session.state = .pending ∧ ¬(session.statusAt .standard now).ShowsBlock ∧
      (leaves (perform .standard now .publish) session).state = .error := by
  intro now session
  exact ⟨by rfl, by decide +kernel, by rfl⟩

end ReleaseUpload.UploadSession
