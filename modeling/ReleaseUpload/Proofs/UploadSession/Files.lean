import Mathlib.Data.List.Forall2
import ReleaseUpload.Proofs.FileUpload.Requests
import ReleaseUpload.UploadSession

/-!
Reaching one file of a session. An identifier means the first file that carries it: `modifyFirst`
changes that file and no other, `getElem?_modifyFile` says where it stands, and `onFile_run` says that
an action on a file is such a change.
-/

namespace ReleaseUpload.UploadSession

/-- Changes the first file with an identifier. -/
def modifyFirst (id : FileId) (change : FileUpload → FileUpload) : List FileUpload → List FileUpload
  | [] => []
  | file :: rest => if file.id = id then change file :: rest else file :: modifyFirst id change rest

def modifyFile (session : UploadSession) (id : FileId) (change : FileUpload → FileUpload) :
    UploadSession :=
  { session with files := modifyFirst id change session.files }

section

variable {id : FileId} {change : FileUpload → FileUpload} {files : List FileUpload}

theorem modifyFirst_of_none (missing : files.find? (·.id = id) = none) :
    modifyFirst id change files = files := by
  induction files with
  | nil => rfl
  | cons head rest inductionHypothesis =>
    by_cases first : head.id = id
    · simp [first] at missing
    · rw [modifyFirst, if_neg first, inductionHypothesis]
      simpa [first] using missing

/-- The change matters only at the file that is found. -/
theorem modifyFirst_congr {other : FileUpload → FileUpload}
    (same : ∀ file, files.find? (·.id = id) = some file → change file = other file) :
    modifyFirst id change files = modifyFirst id other files := by
  induction files with
  | nil => rfl
  | cons head rest inductionHypothesis =>
    by_cases first : head.id = id
    · simp only [modifyFirst, if_pos first]
      rw [same head (by simp [first])]
    · simp only [modifyFirst, if_neg first]
      rw [inductionHypothesis fun file found => same file (by simpa [first] using found)]

theorem modifyFirst_id : modifyFirst id (fun file => file) files = files := by
  induction files with
  | nil => rfl
  | cons head rest inductionHypothesis =>
    rw [modifyFirst, inductionHypothesis, ite_self]

theorem map_id_modifyFirst (kept : ∀ file, (change file).id = file.id) :
    (modifyFirst id change files).map (·.id) = files.map (·.id) := by
  induction files with
  | nil => rfl
  | cons head rest inductionHypothesis =>
    rw [modifyFirst]
    split
    · rw [List.map_cons, List.map_cons, kept]
    · rw [List.map_cons, List.map_cons, inductionHypothesis]

theorem find?_modifyFirst_self (kept : ∀ file, (change file).id = file.id) :
    (modifyFirst id change files).find? (·.id = id) = (files.find? (·.id = id)).map change := by
  induction files with
  | nil => rfl
  | cons head rest inductionHypothesis =>
    rw [modifyFirst]
    by_cases first : head.id = id
    · simp [first, kept]
    · simp [first, inductionHypothesis]

theorem find?_modifyFirst_of_ne {other : FileId} (apart : id ≠ other)
    (kept : ∀ file, (change file).id = file.id) :
    (modifyFirst other change files).find? (·.id = id) = files.find? (·.id = id) := by
  induction files with
  | nil => rfl
  | cons head rest inductionHypothesis =>
    rw [modifyFirst]
    by_cases second : head.id = other
    · have missed : ¬head.id = id := fun same => apart (same.symm.trans second)
      rw [if_pos second, List.find?_cons_of_neg, List.find?_cons_of_neg] <;> simp [kept, missed]
    · simp only [if_neg second, List.find?_cons, inductionHypothesis]

theorem length_modifyFirst : (modifyFirst id change files).length = files.length := by
  induction files with
  | nil => rfl
  | cons head rest inductionHypothesis =>
    rw [modifyFirst]
    split
    · rfl
    · rw [List.length_cons, inductionHypothesis, List.length_cons]

/-- What relates each file to itself and to its change relates the files before and after. -/
theorem forall₂_modifyFirst {Related : FileUpload → FileUpload → Prop}
    (kept : ∀ file ∈ files, Related file file)
    (changed : ∀ file ∈ files, Related file (change file)) :
    List.Forall₂ Related files (modifyFirst id change files) := by
  induction files with
  | nil => exact .nil
  | cons head rest inductionHypothesis =>
    rw [List.forall_mem_cons] at kept changed
    rw [modifyFirst]
    split
    · exact .cons changed.1 (List.forall₂_same.mpr kept.2)
    · exact .cons kept.1 (inductionHypothesis kept.2 changed.2)

theorem forall₂_trans {Record : Type} {Related : Record → Record → Prop}
    (trans : ∀ first second third, Related first second → Related second third →
      Related first third)
    {first second third : List Record} (one : List.Forall₂ Related first second)
    (two : List.Forall₂ Related second third) : List.Forall₂ Related first third := by
  induction one generalizing third with
  | nil => exact two
  | cons head rest inductionHypothesis =>
    cases two with
    | cons next others => exact .cons (trans _ _ _ head next) (inductionHypothesis others)

theorem exists_mem_of_forall₂ {Related : FileUpload → FileUpload → Prop}
    {earlier later : List FileUpload} (related : List.Forall₂ Related earlier later)
    {file : FileUpload} (found : file ∈ later) : ∃ old ∈ earlier, Related old file := by
  induction related with
  | nil => cases found
  | cons head rest inductionHypothesis =>
    rcases List.mem_cons.mp found with rfl | further
    · exact ⟨_, List.mem_cons_self, head⟩
    · obtain ⟨old, reached, related⟩ := inductionHypothesis further
      exact ⟨old, List.mem_cons_of_mem _ reached, related⟩

theorem modifyFirst_eq_modify :
    modifyFirst id change files = files.modify (files.findIdx (·.id = id)) change := by
  induction files with
  | nil => rfl
  | cons head rest inductionHypothesis =>
    by_cases first : head.id = id
    · simp [modifyFirst, List.findIdx_cons, first]
    · simp [modifyFirst, List.findIdx_cons, first, inductionHypothesis]

/-- Where no two files have the same key, each file is found by its key. -/
theorem find?_of_mem {Key : Type} [DecidableEq Key] {key : FileUpload → Key}
    (distinct : (files.map key).Nodup) {file : FileUpload} (found : file ∈ files) :
    files.find? (fun other => key other = key file) = some file := by
  induction files with
  | nil => cases found
  | cons head rest inductionHypothesis =>
    rw [List.map_cons, List.nodup_cons] at distinct
    rcases List.mem_cons.mp found with rfl | later
    · simp
    · have apart : key head ≠ key file := fun same =>
        distinct.1 (same ▸ List.mem_map_of_mem later)
      rw [List.find?_cons_of_neg (by simpa using apart)]
      exact inductionHypothesis distinct.2 later

theorem findIdx_of_distinct (distinct : (files.map (·.id)).Nodup) {position : Nat}
    {file : FileUpload} (there : files[position]? = some file) :
    files.findIdx (·.id = file.id) = position := by
  obtain ⟨inside, rfl⟩ := List.getElem?_eq_some_iff.mp there
  rw [List.findIdx_eq inside]
  refine ⟨by simp, fun other before => ?_⟩
  have apart := List.pairwise_iff_getElem.mp (List.pairwise_map.mp distinct) other position
    (Nat.lt_trans before inside) inside before
  simpa using apart

end

section

variable {session : UploadSession} {id : FileId} {change : FileUpload → FileUpload}
  {file : FileUpload}

theorem file?_of_mem (distinct : (session.files.map (·.id)).Nodup)
    (found : file ∈ session.files) : session.file? file.id = some file :=
  find?_of_mem distinct found

theorem exists_file? (listed : id ∈ session.files.map (·.id)) :
    ∃ file, session.file? id = some file := by
  obtain ⟨file, found, rfl⟩ := List.mem_map.mp listed
  rw [← Option.isSome_iff_exists, file?, List.find?_isSome]
  exact ⟨file, found, decide_eq_true rfl⟩

theorem modifyFile_congr {other : FileUpload → FileUpload}
    (found : session.file? id = some file) (same : change file = other file) :
    session.modifyFile id change = session.modifyFile id other := by
  rw [modifyFile, modifyFile, modifyFirst_congr]
  intro reached again
  rw [Option.some.inj (again.symm.trans found), same]

theorem modifyFile_eq_self (found : session.file? id = some file) (same : change file = file) :
    session.modifyFile id change = session := by
  calc session.modifyFile id change
    _ = session.modifyFile id (fun file => file) := modifyFile_congr found same
    _ = session := by rw [modifyFile, modifyFirst_id]

/-- No file before this position has the identifier of the file that stands there. -/
def isFirst (session : UploadSession) (position : Nat) (file : FileUpload) : Bool :=
  session.files.findIdx (·.id = file.id) = position

theorem isFirst_modifyFile (kept : ∀ file, (change file).id = file.id) (position : Nat)
    (file : FileUpload) :
    (session.modifyFile id change).isFirst position file = session.isFirst position file := by
  have byId (files : List FileUpload) :
      files.findIdx (·.id = file.id) = (files.map (·.id)).findIdx (· = file.id) := by
    rw [List.findIdx_map]
    rfl
  rw [isFirst, isFirst, byId, byId, modifyFile, map_id_modifyFirst kept]

theorem findIdx_eq_iff {position : Nat} (there : session.files[position]? = some file) :
    session.files.findIdx (·.id = id) = position ↔
      file.id = id ∧ session.isFirst position file = true := by
  rw [isFirst, decide_eq_true_iff]
  constructor
  · rintro rfl
    obtain ⟨inside, rfl⟩ := List.getElem?_eq_some_iff.mp there
    have found := List.findIdx_getElem (w := inside)
    rw [decide_eq_true_iff] at found
    exact ⟨found, by rw [found]⟩
  · rintro ⟨rfl, first⟩
    exact first

theorem getElem?_modifyFile (position : Nat) :
    (session.modifyFile id change).files[position]? =
      session.files[position]?.map fun file =>
        if file.id = id ∧ session.isFirst position file then change file else file := by
  rw [modifyFile, modifyFirst_eq_modify, List.getElem?_modify]
  cases there : session.files[position]? with
  | none => rfl
  | some file => simp only [Option.map_eq_map, Option.map_some, findIdx_eq_iff there]

end

variable {α : Type}

theorem runOnFirst_eq (id : FileId) (action : FileUpload.Action α) (files : List FileUpload) :
    runOnFirst id action files =
      (files.find? (·.id = id)).map fun file =>
        match action.run file with
        | .ok answer after => .ok answer (modifyFirst id (fun _ => after) files)
        | .error refusal after => .error refusal (modifyFirst id (fun _ => after) files) := by
  induction files with
  | nil => rfl
  | cons head rest inductionHypothesis =>
    by_cases first : head.id = id
    · simp only [runOnFirst, modifyFirst, List.find?_cons, first, decide_true, Option.map_some]
      cases action.run head <;> rfl
    · simp only [runOnFirst, modifyFirst, List.find?_cons, first, decide_false, if_false,
        inductionHypothesis]
      cases rest.find? (·.id = id) with
      | none => rfl
      | some file => cases ran : action.run file <;> simp only [Option.map_some, ran]

theorem onFile_run (id : FileId) (action : FileUpload.Action α) (session : UploadSession) :
    (onFile id action).run session =
      match session.file? id with
      | none => .ok none session
      | some file =>
        match action.run file with
        | .ok answer after => .ok (some answer) (session.modifyFile id fun _ => after)
        | .error refusal after => .error refusal (session.modifyFile id fun _ => after) := by
  simp only [onFile, EStateM.run_bind, EStateM.run_get, runOnFirst_eq, file?]
  cases session.files.find? (·.id = id) with
  | none => rfl
  | some file => cases ran : action.run file <;> simp only [Option.map_some, ran] <;> rfl

/-- Whatever comes of it, an action on a file is a change of the first file with the identifier. -/
theorem leaves_onFile (id : FileId) (action : FileUpload.Action α) (session : UploadSession) :
    leaves (onFile id action) session = session.modifyFile id (leaves action) := by
  have run := onFile_run id action session
  cases found : session.file? id with
  | none =>
    rw [found] at run
    rw [leaves_of_ok run, modifyFile, modifyFirst_of_none found]
  | some file =>
    have same : session.modifyFile id (leaves action) =
        session.modifyFile id fun _ => leaves action file := modifyFile_congr found rfl
    rw [same]
    cases ran : action.run file with
    | ok answer after =>
      simp only [found, ran] at run
      rw [leaves_of_ok run, leaves_of_ok ran]
    | error refusal after =>
      simp only [found, ran] at run
      rw [leaves_of_error run, leaves_of_error ran]

theorem edit_file (id : FileId) (edit : FileUpload.Edit) (session : UploadSession) :
    session.edit (.file id edit) = session.modifyFile id (·.edit edit) := by
  rw [modifyFile, modifyFirst_eq_modify]
  rfl

end ReleaseUpload.UploadSession
