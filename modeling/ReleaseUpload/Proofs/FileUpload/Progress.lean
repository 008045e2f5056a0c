import ReleaseUpload.Proofs.FileUpload.Requests

/-!
Files move in one direction. A rank on states rises whenever an event changes the state, so a file
never comes back to a state that it left; and once a file is no longer pending, requests change
nothing but its state and its notices.
-/

namespace ReleaseUpload.FileUpload

namespace State

/-- How far a state is on the way from waiting for bytes to being canceled. -/
def rank : State → Nat
  | .pending => 0
  | .processing => 1
  | .complete => 2
  | .error => 2
  | .canceled => 3

/-- A file in the first state may be in the second one later. -/
def Advances (earlier later : State) : Prop := earlier = later ∨ earlier.rank < later.rank

theorem Advances.refl (state : State) : state.Advances state := .inl rfl

theorem Advances.trans {first second third : State} (one : first.Advances second)
    (two : second.Advances third) : first.Advances third := by
  rcases one with same | up
  · exact same ▸ two
  · rcases two with same | further
    · exact .inr (same ▸ up)
    · exact .inr (Nat.lt_trans up further)

theorem Advances.ne_pending {earlier later : State} (advances : earlier.Advances later)
    (left : earlier ≠ .pending) : later ≠ .pending := by
  rintro rfl
  rcases advances with same | up
  · exact left same
  · simp [rank] at up

end State

/-- The same file at a later time, with nothing new but its state and its notices. -/
structure Follows (earlier later : FileUpload) : Prop where
  same : later = { earlier with state := later.state, notices := later.notices }
  advances : earlier.state.Advances later.state

namespace Follows

theorem refl (file : FileUpload) : Follows file file := ⟨rfl, .refl file.state⟩

theorem trans {first second third : FileUpload} (one : Follows first second)
    (two : Follows second third) : Follows first third where
  same := by
    rw [two.same, one.same]
  advances := one.advances.trans two.advances

/-- A file that a session can be published with, and the same file later. -/
theorem settled_cases {earlier later : FileUpload} (follows : Follows earlier later)
    (settled : earlier.state ≠ .pending ∧ earlier.state ≠ .error) :
    (later.state = .error → earlier.state = .processing) ∧
      (later.state = .complete → earlier.state = .processing ∨ earlier.state = .complete) ∧
      (earlier.state = .canceled → later.state = .canceled) := by
  obtain ⟨-, advances⟩ := follows
  revert advances settled
  cases earlier.state <;> cases later.state <;> simp [State.Advances, State.rank]

end Follows

section

variable {settings : UploadSettings} {now : Instant} {request : Request} {file : FileUpload}

theorem accepted_follows (taken : file.refusal? request = none) (left : file.state ≠ .pending) :
    Follows file (file.accepted settings now request) := by
  obtain ⟨next, taken⟩ := refusal?_eq_none_iff.mp taken
  obtain ⟨id, declaration, mechanism, createdAt, expiration, instructions, notices, state⟩ := file
  cases request <;> cases state <;> cases taken <;>
    first
      | exact absurd rfl left
      | exact ⟨rfl, by simp [accepted, addNotice, State.Advances, State.rank]⟩

theorem leaves_perform_follows (left : file.state ≠ .pending) :
    Follows file (leaves (perform settings now request) file) := by
  rw [leaves_perform]
  cases taken : file.refusal? request with
  | none => exact accepted_follows taken left
  | some refusal => exact .refl file

end

end ReleaseUpload.FileUpload
