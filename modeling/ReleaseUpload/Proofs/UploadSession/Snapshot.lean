import ReleaseUpload.Proofs.Countdown
import ReleaseUpload.Proofs.UploadSession.Visibility

/-!
What the status of a session says. It lists the names of its files, each with the state, the seconds
left and the instructions of the latest file of that name, so files of different names may have been
created in any order. Beside them stand the names of the mechanisms in increasing order, the notices,
the state, the seconds left, and a text from which the token can be read back. All of it is said in
`showStatus_snapshot`.
-/

namespace ReleaseUpload

/-- An entry that tells of a file what a client has to know. -/
structure FileUpload.Status.Shows (status : FileUpload.Status) (now : Instant)
    (file : FileUpload) : Prop where
  state : status.status = file.state
  validFor : status.validFor.toInt = file.validFor now
  /-- The file's own mechanism and no other, with empty instructions if there are none. -/
  mechanism : status.mechanism.entries =
    [(file.mechanism.name, file.instructions.getD .empty)]

theorem FileUpload.Status.shows_iff {status : FileUpload.Status} {now : Instant}
    {file : FileUpload} : status.Shows now file ↔ file.statusAt now = status := by
  have counted : (Int64.ofInt (file.validFor now)).toInt = file.validFor now :=
    file.expiration.toInt_ofInt_secondsUntil now
  constructor
  · intro shows
    obtain ⟨validFor, mechanism, state⟩ := status
    rw [FileUpload.statusAt, mk.injEq]
    exact ⟨Int64.toInt_inj.mp (counted.trans shows.validFor.symm),
      Dictionary.eq_of_entries_eq shows.mechanism.symm, shows.state.symm⟩
  · rintro rfl
    exact ⟨rfl, counted, rfl⟩

namespace UploadSession

/-- No later file carries the name of this one. -/
def IsLatest (files : List FileUpload) (file : FileUpload) : Prop :=
  ∃ before later, files = before ++ file :: later ∧
    ∀ other ∈ later, other.declaration.filename ≠ file.declaration.filename

/-- Files of the same name stand in the same order. -/
def SameByName (files others : List FileUpload) : Prop :=
  ∀ name, files.filter (·.declaration.filename = name) =
    others.filter (·.declaration.filename = name)

section

variable {session : UploadSession} {name : String}

theorem shownFile?_eq_some_iff {file : FileUpload} :
    session.shownFile? name = some file ↔
      IsLatest session.files file ∧ file.declaration.filename = name := by
  rw [shownFile?, List.find?_eq_some_iff_append, decide_eq_true_iff]
  constructor
  · rintro ⟨rfl, later, before, reversed, others⟩
    refine ⟨⟨before.reverse, later.reverse, ?_, fun other found => ?_⟩, rfl⟩
    · rw [← session.files.reverse_reverse, reversed]
      simp
    · simpa using others other (List.mem_reverse.mp found)
  · rintro ⟨⟨before, later, split, others⟩, rfl⟩
    refine ⟨rfl, later.reverse, before.reverse, ?_, fun other found => ?_⟩
    · simp [split]
    · simpa using others other (List.mem_reverse.mp found)

theorem shownFile?_eq_getLast? (session : UploadSession) (name : String) :
    session.shownFile? name =
      (session.files.filter (·.declaration.filename = name)).getLast? := by
  rw [shownFile?, ← List.head?_filter, List.filter_reverse, List.head?_reverse]

variable (policy : Policy) (now : Instant)

theorem get?_files_eq_some_iff {entry : FileUpload.Status} :
    (session.statusAt policy now).files.get? name = some entry ↔
      ∃ file, IsLatest session.files file ∧ file.declaration.filename = name ∧
        entry.Shows now file := by
  simp only [get?_files_statusAt, Option.map_eq_some_iff, shownFile?_eq_some_iff,
    FileUpload.Status.shows_iff, and_assoc]

theorem mem_keys_files_iff :
    name ∈ (session.statusAt policy now).files.keys ↔
      ∃ file ∈ session.files, file.declaration.filename = name := by
  rw [Dictionary.mem_keys_iff, ← Option.isSome_iff_exists, get?_files_statusAt, Option.isSome_map,
    shownFile?, List.find?_isSome]
  simp

theorem statusAt_of_sameByName {files : List FileUpload} (same : SameByName files session.files) :
    ({ session with files } : UploadSession).statusAt policy now = session.statusAt policy now := by
  have shown : (({ session with files } : UploadSession).statusAt policy now).files =
      (session.statusAt policy now).files := by
    refine Dictionary.eq_of_get?_eq fun name => ?_
    rw [get?_files_statusAt, get?_files_statusAt, shownFile?_eq_getLast?, shownFile?_eq_getLast?,
      same name]
  exact congrArg (fun files => { session.statusAt policy now with files }) shown

theorem showStatus_run (session : UploadSession) :
    (showStatus policy now).run session =
      .ok (session.statusAt policy now) session.seeToken := rfl

/-- What a status says of a session. -/
structure Snapshot (session : UploadSession) (status : Status) : Prop where
  named : ∀ name, name ∈ status.files.keys ↔
    ∃ file ∈ session.files, file.declaration.filename = name
  latest : ∀ name entry, status.files.get? name = some entry ↔
    ∃ file, IsLatest session.files file ∧ file.declaration.filename = name ∧
      entry.Shows now file
  anyOrder : ∀ files, SameByName files session.files →
    (showStatus policy now).run { session with files } =
      .ok status ({ session with files } : UploadSession).seeToken
  mechanisms : status.mechanisms = policy.mechanisms.names
  offered : ∀ name, name ∈ status.mechanisms ↔
    ∃ mechanism, policy.mechanisms.get? name = some mechanism
  increasing : status.mechanisms.Pairwise (· < ·)
  notices : status.notices = session.notices
  state : status.status = session.state
  validFor : status.validFor.toInt = session.validFor now
  token : Token.ofHex status.token = .ok session.token

/-- Whoever asks for the status of a session is shown its files, each name with the latest file that
carries it, and what else there is to know of the session. -/
theorem showStatus_snapshot (session : UploadSession) :
    ∃ status, (showStatus policy now).run session = .ok status session.seeToken ∧
      Snapshot policy now session status := by
  refine ⟨_, session.showStatus_run policy now, ?_⟩
  exact {
    named := fun name => mem_keys_files_iff policy now
    latest := fun name entry => get?_files_eq_some_iff policy now
    anyOrder := fun files same => by
      rw [showStatus_run, statusAt_of_sameByName policy now same]
    mechanisms := rfl
    offered := fun name => Registry.mem_names_iff
    increasing := policy.mechanisms.mechanisms.pairwise_keys
    notices := rfl
    state := rfl
    validFor := session.expiration.toInt_ofInt_secondsUntil now
    token := Token.ofHex_toHex session.token }

end

end UploadSession

end ReleaseUpload
