import Mathlib.Tactic.SplitIfs
import ReleaseUpload.Proofs.UploadSession.Files

/-!
Files canceled one after another. Each identifier stands for the first file that carries it, canceled
or not, so a list of identifiers can be worked off to its end exactly if none comes twice and none
stands for a file that is canceled from the start: `CancelableInTurn`. The first identifier at which
this fails ends the work and what was canceled before it stays canceled.
-/

namespace ReleaseUpload

namespace FileUpload

def canceled (file : FileUpload) : FileUpload := { file with state := .canceled }

theorem id_canceled (file : FileUpload) : file.canceled.id = file.id := rfl

theorem cancel_run_of_ne {file : FileUpload} (opened : file.state ≠ .canceled) :
    FileUpload.cancel.run file = .ok .canceled file.canceled := by
  rw [FileUpload.cancel, fire_run]
  cases current : file.state with
  | canceled => exact absurd current opened
  | _ => rfl

theorem cancel_run_of_canceled {file : FileUpload} (closed : file.state = .canceled) :
    FileUpload.cancel.run file = .error (.file .canceled .cancel) file := by
  rw [FileUpload.cancel, fire_run, closed]
  rfl

end FileUpload

namespace UploadSession

/-- The session with the first file of each listed identifier canceled. -/
def cancelFirsts (session : UploadSession) (ids : List FileId) : UploadSession :=
  { session with
    files := session.files.mapIdx fun position file =>
      if file.id ∈ ids ∧ session.isFirst position file then file.canceled else file }

/-- No identifier comes twice, and none stands for a file that is canceled already. -/
structure CancelableInTurn (session : UploadSession) (ids : List FileId) : Prop where
  apart : ids.Nodup
  opened : ∀ id ∈ ids, ∀ file, session.file? id = some file → file.state ≠ .canceled

section

variable {session : UploadSession} {id : FileId} {file : FileUpload}

theorem getElem?_cancelFirsts (ids : List FileId) (position : Nat) :
    (session.cancelFirsts ids).files[position]? =
      session.files[position]?.map fun file =>
        if file.id ∈ ids ∧ session.isFirst position file then file.canceled else file :=
  List.getElem?_mapIdx

theorem cancelFirsts_nil (session : UploadSession) : session.cancelFirsts [] = session := by
  have files : (session.cancelFirsts []).files = session.files := by
    apply List.ext_getElem?
    intro position
    rw [getElem?_cancelFirsts]
    simp
  exact congrArg (fun files => { session with files }) files

theorem cancelFirsts_cons (session : UploadSession) (id : FileId) (rest : List FileId) :
    session.cancelFirsts (id :: rest) =
      (session.modifyFile id FileUpload.canceled).cancelFirsts rest := by
  have files : (session.cancelFirsts (id :: rest)).files =
      ((session.modifyFile id FileUpload.canceled).cancelFirsts rest).files := by
    apply List.ext_getElem?
    intro position
    rw [getElem?_cancelFirsts, getElem?_cancelFirsts, getElem?_modifyFile, Option.map_map]
    congr 1
    funext file
    rw [Function.comp_apply, isFirst_modifyFile FileUpload.id_canceled]
    cases first : session.isFirst position file with
    | false => simp [first]
    | true =>
      by_cases same : file.id = id
      · simp [same, FileUpload.canceled]
      · simp [same, first]
  exact congrArg (fun files => { session with files }) files

theorem cancelableInTurn_nil (session : UploadSession) : session.CancelableInTurn [] where
  apart := List.nodup_nil
  opened _ listed := nomatch listed

/-- Once the first file of an identifier is canceled the identifier must not come again. -/
theorem cancelableInTurn_cons_iff (there : session.file? id = some file) (rest : List FileId) :
    session.CancelableInTurn (id :: rest) ↔
      file.state ≠ .canceled ∧
        (session.modifyFile id FileUpload.canceled).CancelableInTurn rest := by
  have self : (session.modifyFile id FileUpload.canceled).file? id = some file.canceled := by
    rw [file?, modifyFile, find?_modifyFirst_self FileUpload.id_canceled, ← file?, there,
      Option.map_some]
  have elsewhere (other : FileId) (apart : other ≠ id) :
      (session.modifyFile id FileUpload.canceled).file? other = session.file? other :=
    find?_modifyFirst_of_ne apart FileUpload.id_canceled
  constructor
  · rintro ⟨apart, opened⟩
    obtain ⟨fresh, spread⟩ := List.nodup_cons.mp apart
    refine ⟨opened id List.mem_cons_self file there, spread, fun other listed => ?_⟩
    rw [elsewhere other fun same => fresh (same ▸ listed)]
    exact opened other (List.mem_cons_of_mem _ listed)
  · rintro ⟨uncanceled, spread, opened⟩
    have fresh : id ∉ rest := fun listed => opened id listed _ self rfl
    refine ⟨List.nodup_cons.mpr ⟨fresh, spread⟩, List.forall_mem_cons.mpr ⟨?_, ?_⟩⟩
    · intro other found
      rwa [← Option.some.inj (there.symm.trans found)]
    · intro other listed
      rw [← elsewhere other fun same => fresh (same ▸ listed)]
      exact opened other listed

theorem onFile_cancel_run (there : session.file? id = some file) :
    (onFile id FileUpload.cancel).run session =
      if file.state = .canceled then .error (.file .canceled .cancel) session
      else .ok (some .canceled) (session.modifyFile id FileUpload.canceled) := by
  rw [onFile_run, there]
  split_ifs with closed
  · simp only [FileUpload.cancel_run_of_canceled closed]
    rw [modifyFile_eq_self there rfl]
  · have same : session.modifyFile id (fun _ => file.canceled) =
        session.modifyFile id FileUpload.canceled := modifyFile_congr there rfl
    simp only [FileUpload.cancel_run_of_ne closed, same]

theorem cancelFiles_cons_run (there : session.file? id = some file) (rest : List FileId) :
    (cancelFiles (id :: rest)).run session =
      if file.state = .canceled then .error (.file .canceled .cancel) session
      else
        match (cancelFiles rest).run (session.modifyFile id FileUpload.canceled) with
        | .ok others after => .ok (others + 1) after
        | .error refusal after => .error refusal after := by
  simp only [cancelFiles, EStateM.run_bind, onFile_cancel_run there]
  split_ifs with closed
  · rfl
  · dsimp only
    cases (cancelFiles rest).run (session.modifyFile id FileUpload.canceled) <;> rfl

theorem subset_map_id_modifyFile {rest : List FileId}
    (listed : id :: rest ⊆ session.files.map (·.id)) :
    rest ⊆ (session.modifyFile id FileUpload.canceled).files.map (·.id) := by
  rw [modifyFile, map_id_modifyFirst FileUpload.id_canceled]
  exact (List.cons_subset.mp listed).2

variable {ids : List FileId} (listed : ids ⊆ session.files.map (·.id))
include listed

theorem cancelFiles_run_of_cancelable (cancelable : session.CancelableInTurn ids) :
    (cancelFiles ids).run session = .ok ids.length (session.cancelFirsts ids) := by
  induction ids generalizing session with
  | nil =>
    rw [cancelFirsts_nil]
    rfl
  | cons id rest inductionHypothesis =>
    obtain ⟨file, there⟩ := exists_file? (listed List.mem_cons_self)
    obtain ⟨opened, others⟩ := (cancelableInTurn_cons_iff there rest).mp cancelable
    rw [cancelFiles_cons_run there, if_neg opened,
      inductionHypothesis (subset_map_id_modifyFile listed) others, cancelFirsts_cons,
      List.length_cons]

/-- The work ends at the first identifier that does not go with those before it. -/
theorem cancelFiles_run_of_not_cancelable (blocked : ¬session.CancelableInTurn ids) :
    ∃ before id later, ids = before ++ id :: later ∧ session.CancelableInTurn before ∧
      ¬session.CancelableInTurn (before ++ [id]) ∧
      (cancelFiles ids).run session =
        .error (.file .canceled .cancel) (session.cancelFirsts before) := by
  induction ids generalizing session with
  | nil => exact absurd (cancelableInTurn_nil session) blocked
  | cons id rest inductionHypothesis =>
    obtain ⟨file, there⟩ := exists_file? (listed List.mem_cons_self)
    by_cases closed : file.state = .canceled
    · refine ⟨[], id, rest, rfl, cancelableInTurn_nil session, ?_, ?_⟩
      · rw [List.nil_append, cancelableInTurn_cons_iff there]
        exact fun both => both.1 closed
      · rw [cancelFiles_cons_run there, if_pos closed, cancelFirsts_nil]
    · have others : ¬(session.modifyFile id FileUpload.canceled).CancelableInTurn rest :=
        fun others => blocked ((cancelableInTurn_cons_iff there rest).mpr ⟨closed, others⟩)
      obtain ⟨before, next, later, rfl, done, stopped, run⟩ :=
        inductionHypothesis (subset_map_id_modifyFile listed) others
      refine ⟨id :: before, next, later, rfl, ?_, ?_, ?_⟩
      · exact (cancelableInTurn_cons_iff there before).mpr ⟨closed, done⟩
      · rw [List.cons_append, cancelableInTurn_cons_iff there]
        exact fun both => stopped both.2
      · rw [cancelFiles_cons_run there, if_neg closed, run, cancelFirsts_cons]

end

/-! Where the identifiers of the files are distinct each stands for one file. -/

/-- The session with the files under some identifiers canceled. -/
def cancelAll (session : UploadSession) (ids : List FileId) : UploadSession :=
  { session with
    files := session.files.map fun file => if file.id ∈ ids then file.canceled else file }

theorem map_id_cancelAll (session : UploadSession) (ids : List FileId) :
    (session.cancelAll ids).files.map (·.id) = session.files.map (·.id) := by
  rw [cancelAll, List.map_map]
  apply List.map_congr_left
  intro file found
  rw [Function.comp_apply]
  split_ifs <;> rfl

theorem cancelAll_append (session : UploadSession) (first second : List FileId) :
    session.cancelAll (first ++ second) = (session.cancelAll first).cancelAll second := by
  simp only [cancelAll, List.map_map]
  congr 1
  apply List.map_congr_left
  intro file found
  by_cases listed : file.id ∈ first
  · simp [listed, FileUpload.canceled]
  · simp [listed]

theorem cancelFirsts_eq_cancelAll {session : UploadSession}
    (distinct : (session.files.map (·.id)).Nodup) (ids : List FileId) :
    session.cancelFirsts ids = session.cancelAll ids := by
  have files : (session.cancelFirsts ids).files = (session.cancelAll ids).files := by
    apply List.ext_getElem?
    intro position
    rw [getElem?_cancelFirsts, cancelAll, List.getElem?_map]
    cases there : session.files[position]? with
    | none => rfl
    | some file =>
      have first : session.isFirst position file = true :=
        decide_eq_true (findIdx_of_distinct distinct there)
      simp only [Option.map_some, first, and_true]
  exact congrArg (fun files => { session with files }) files

theorem modifyFile_canceled {session : UploadSession}
    (distinct : (session.files.map (·.id)).Nodup) (id : FileId) :
    session.modifyFile id FileUpload.canceled = session.cancelAll [id] := by
  rw [← cancelFirsts_eq_cancelAll distinct, cancelFirsts_cons, cancelFirsts_nil]

end UploadSession

end ReleaseUpload
