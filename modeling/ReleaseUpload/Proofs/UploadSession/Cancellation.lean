import Mathlib.Data.List.Nodup
import ReleaseUpload.Proofs.UploadSession.CancelingInTurn
import ReleaseUpload.Proofs.UploadSession.Requests

/-!
What the reaper does to one session. Whether it gets to its end or not it only cancels, as `Reaped`
says: files, the session, or nothing. `reaping_outcome` says how far it gets and what it leaves. Where
the identifiers of the files are distinct it gets to its end, and `cancelExpired_run` is what it
leaves then.
-/

namespace ReleaseUpload

namespace FileUpload

/-- The file after the reaper has come by. -/
def reaped (now : Instant) (file : FileUpload) : FileUpload :=
  if file.expiration < now ∧ file.state ≠ .complete ∧ file.state ≠ .canceled then file.canceled
  else file

/-- The same file, canceled in between or not. -/
def MayCancel (earlier later : FileUpload) : Prop := later = earlier ∨ later = earlier.canceled

theorem MayCancel.trans {first second third : FileUpload} (one : MayCancel first second)
    (two : MayCancel second third) : MayCancel first third := by
  rcases one with rfl | rfl
  · exact two
  · rcases two with rfl | rfl
    · exact .inr rfl
    · exact .inr rfl

theorem leaves_cancel (file : FileUpload) : MayCancel file (leaves FileUpload.cancel file) := by
  by_cases closed : file.state = .canceled
  · exact .inl (leaves_of_error (cancel_run_of_canceled closed))
  · exact .inr (leaves_of_ok (cancel_run_of_ne closed))

end FileUpload

namespace UploadSession

open FileUpload (MayCancel)

/-- The session after the reaper has canceled it with its overdue files. -/
def reaped (now : Instant) (session : UploadSession) : UploadSession :=
  { session with state := .canceled, files := session.files.map (FileUpload.reaped now) }

/-- The same session, with some of its files canceled and perhaps itself. -/
structure Reaped (before after : UploadSession) : Prop where
  same : after = { before with files := after.files, state := after.state }
  files : List.Forall₂ MayCancel before.files after.files
  state : after.state = before.state ∨ after.state = .canceled

namespace Reaped

theorem refl (session : UploadSession) : Reaped session session :=
  ⟨rfl, List.forall₂_same.mpr fun _ _ => .inl rfl, .inl rfl⟩

theorem trans (first second third : UploadSession) (one : Reaped first second)
    (two : Reaped second third) : Reaped first third where
  same := by
    rw [two.same, one.same]
  files := forall₂_trans (fun _ _ _ head next => head.trans next) one.files two.files
  state := by
    rcases two.state with kept | canceled
    · rw [kept]
      exact one.state
    · exact .inr canceled

end Reaped

theorem reaped_cancelFile (id : FileId) (session : UploadSession) :
    Reaped session (leaves (onFile id FileUpload.cancel) session) := by
  rw [leaves_onFile]
  refine ⟨rfl, ?_, .inl rfl⟩
  exact forall₂_modifyFirst (fun _ _ => .inl rfl) (fun file _ => file.leaves_cancel)

theorem reaped_cancelFiles (ids : List FileId) (session : UploadSession) :
    Reaped session (leaves (cancelFiles ids) session) := by
  induction ids generalizing session with
  | nil => exact .refl session
  | cons id rest inductionHypothesis =>
    refine leaves_bind Reaped.trans (reaped_cancelFile id) (fun canceled => ?_) session
    exact leaves_bind Reaped.trans inductionHypothesis fun others record => .refl record

theorem next?_cancel_of_open {state : State} (opened : state.isTerminal = false) :
    state.next? .cancel = some .canceled := by
  cases state <;> first | rfl | cases opened

theorem eq_canceled_of_next? {state next : State} (taken : state.next? .cancel = some next) :
    next = .canceled := by
  cases state <;> cases taken <;> rfl

theorem reaped_cancel (session : UploadSession) : Reaped session (leaves cancel session) := by
  have run := fire_run .cancel session
  cases taken : session.state.next? .cancel with
  | none =>
    rw [taken] at run
    rw [cancel, leaves_of_error run]
    exact .refl session
  | some next =>
    rw [taken] at run
    rw [cancel, leaves_of_ok run]
    exact ⟨rfl, List.forall₂_same.mpr fun _ _ => .inl rfl, .inr (eq_canceled_of_next? taken)⟩

theorem reaped_cancelExpired (now : Instant) (session : UploadSession) :
    Reaped session (leaves (cancelExpired now) session) := by
  refine leaves_bind Reaped.trans ?_ (fun read => ?_) session
  · exact fun record => .refl record
  · refine leaves_bind Reaped.trans (reaped_cancelFiles _) fun canceled => ?_
    exact leaves_bind Reaped.trans reaped_cancel fun state record => .refl record

theorem state_cancelFiles (ids : List FileId) (session : UploadSession) :
    (leaves (cancelFiles ids) session).state = session.state := by
  have trans : ∀ first second third : UploadSession, second.state = first.state →
      third.state = second.state → third.state = first.state :=
    fun first second third one two => two.trans one
  induction ids generalizing session with
  | nil => rfl
  | cons id rest inductionHypothesis =>
    refine leaves_bind trans (fun record => ?_) (fun canceled => ?_) session
    · rw [leaves_onFile]
      rfl
    · exact leaves_bind trans inductionHypothesis fun others record => rfl

/-- The session is canceled if and only if the reaper gets to its end. -/
theorem state_cancelExpired (now : Instant) (session : UploadSession) :
    match (cancelExpired now).run session with
    | .ok _ after => after.state = .canceled
    | .error _ after => after.state = session.state := by
  have kept := state_cancelFiles (session.overdue now) session
  simp only [cancelExpired, EStateM.run_bind, EStateM.run_get, cancel, fire_run]
  cases files : (cancelFiles (session.overdue now)).run session with
  | error refusal middle =>
    rw [leaves_of_error files] at kept
    exact kept
  | ok canceled middle =>
    rw [leaves_of_ok files] at kept
    dsimp only
    cases taken : middle.state.next? .cancel with
    | none => exact kept
    | some next => exact eq_canceled_of_next? taken

/-! The exact outcome. -/

theorem overdue_subset (session : UploadSession) (now : Instant) :
    session.overdue now ⊆ session.files.map (·.id) :=
  (List.filter_sublist.map _).subset

theorem isOverdue_iff {now : Instant} {file : FileUpload} :
    isOverdue now file = true ↔
      file.expiration < now ∧ file.state ≠ .complete ∧ file.state ≠ .canceled := by
  rw [isOverdue, FileUpload.isExpired, Bool.and_eq_true, decide_eq_true_iff]
  apply and_congr_right
  intro late
  cases file.state <;> simp [FileUpload.State.isTerminal]

theorem cancelExpired_run_of_cancelable {session : UploadSession} {now : Instant}
    (opened : session.state.isTerminal = false)
    (cancelable : session.CancelableInTurn (session.overdue now)) :
    (cancelExpired now).run session =
      .ok (session.overdue now).length
        { session.cancelFirsts (session.overdue now) with state := .canceled } := by
  have still : (session.cancelFirsts (session.overdue now)).state.next? .cancel = some .canceled :=
    next?_cancel_of_open opened
  simp only [cancelExpired, EStateM.run_bind, EStateM.run_get, cancel, fire_run, still,
    cancelFiles_run_of_cancelable (session.overdue_subset now) cancelable]
  rfl

theorem cancelExpired_run_of_not_cancelable {session : UploadSession} {now : Instant}
    (blocked : ¬session.CancelableInTurn (session.overdue now)) :
    ∃ before id later, session.overdue now = before ++ id :: later ∧
      session.CancelableInTurn before ∧ ¬session.CancelableInTurn (before ++ [id]) ∧
      (cancelExpired now).run session =
        .error (.file .canceled .cancel) (session.cancelFirsts before) := by
  obtain ⟨before, id, later, split, done, stopped, run⟩ :=
    cancelFiles_run_of_not_cancelable (session.overdue_subset now) blocked
  refine ⟨before, id, later, split, done, stopped, ?_⟩
  simp only [cancelExpired, EStateM.run_bind, EStateM.run_get, run]

/-! Where the identifiers of the files are distinct nothing stops the reaper. -/

theorem mem_overdue_iff {session : UploadSession} {now : Instant}
    (distinct : (session.files.map (·.id)).Nodup) {file : FileUpload}
    (found : file ∈ session.files) :
    file.id ∈ session.overdue now ↔ isOverdue now file = true := by
  simp only [overdue, List.mem_map, List.mem_filter]
  constructor
  · rintro ⟨other, ⟨reached, late⟩, same⟩
    rwa [List.inj_on_of_nodup_map distinct reached found same] at late
  · intro late
    exact ⟨file, ⟨found, late⟩, rfl⟩

theorem cancelAll_overdue {session : UploadSession} (now : Instant)
    (distinct : (session.files.map (·.id)).Nodup) :
    session.cancelAll (session.overdue now) =
      { session with files := session.files.map (FileUpload.reaped now) } := by
  rw [cancelAll]
  congr 1
  apply List.map_congr_left
  intro file found
  simp only [mem_overdue_iff distinct found, isOverdue_iff, FileUpload.reaped]

theorem cancelableInTurn_overdue {session : UploadSession} (now : Instant)
    (distinct : (session.files.map (·.id)).Nodup) :
    session.CancelableInTurn (session.overdue now) where
  apart := distinct.sublist (List.filter_sublist.map _)
  opened id listed file there := by
    obtain ⟨late, overdue, rfl⟩ := List.mem_map.mp listed
    obtain ⟨found, overdue⟩ := List.mem_filter.mp overdue
    rw [file?_of_mem distinct found, Option.some.injEq] at there
    exact there ▸ (isOverdue_iff.mp overdue).2.2

theorem cancelExpired_run {session : UploadSession} (now : Instant)
    (distinct : (session.files.map (·.id)).Nodup) (opened : session.state.isTerminal = false) :
    (cancelExpired now).run session =
      .ok (session.overdue now).length (session.reaped now) := by
  rw [cancelExpired_run_of_cancelable opened (cancelableInTurn_overdue now distinct),
    cancelFirsts_eq_cancelAll distinct, cancelAll_overdue now distinct]
  rfl

/-- What comes of a visit of the reaper to a session, whatever identifiers its files have. -/
structure ReapingOutcome (now : Instant) (session : UploadSession) : Prop where
  overdue_eq : session.overdue now =
    (session.files.filter fun file => file.expiration < now ∧
      (file.state = .pending ∨ file.state = .processing ∨ file.state = .error)).map (·.id)
  completes_iff : (∃ count after, (cancelExpired now).run session = .ok count after) ↔
    session.CancelableInTurn (session.overdue now)
  completed : ∀ count after, (cancelExpired now).run session = .ok count after →
    count = (session.overdue now).length ∧
      after = { session.cancelFirsts (session.overdue now) with state := .canceled }
  /-- The files before the one that stops the reaper stay canceled, and that is all. -/
  stopped : ∀ refusal after, (cancelExpired now).run session = .error refusal after →
    refusal = .file .canceled .cancel ∧
      ∃ before id later, session.overdue now = before ++ id :: later ∧
        session.CancelableInTurn before ∧ ¬session.CancelableInTurn (before ++ [id]) ∧
        after = session.cancelFirsts before
  distinct : (session.files.map (·.id)).Nodup → session.CancelableInTurn (session.overdue now)

theorem overdue_eq (session : UploadSession) (now : Instant) :
    session.overdue now =
      (session.files.filter fun file => file.expiration < now ∧
        (file.state = .pending ∨ file.state = .processing ∨ file.state = .error)).map (·.id) := by
  rw [overdue]
  congr 1
  apply List.filter_congr
  intro file found
  rw [isOverdue, FileUpload.isExpired]
  cases file.state <;> simp [FileUpload.State.isTerminal]

/-- The reaper gets to its end exactly if the overdue files can be canceled in turn. -/
theorem reaping_outcome (now : Instant) {session : UploadSession}
    (opened : session.state.isTerminal = false) : ReapingOutcome now session := by
  by_cases cancelable : session.CancelableInTurn (session.overdue now)
  · have run := cancelExpired_run_of_cancelable opened cancelable
    refine ⟨session.overdue_eq now, iff_of_true ⟨_, _, run⟩ cancelable, ?_, ?_,
      cancelableInTurn_overdue now⟩
    · intro count after ran
      cases run.symm.trans ran
      exact ⟨rfl, rfl⟩
    · intro refusal after ran
      cases run.symm.trans ran
  · obtain ⟨before, id, later, split, done, stopped, run⟩ :=
      cancelExpired_run_of_not_cancelable cancelable
    refine ⟨session.overdue_eq now, iff_of_false ?_ cancelable, ?_, ?_,
      cancelableInTurn_overdue now⟩
    · rintro ⟨count, after, ran⟩
      cases run.symm.trans ran
    · intro count after ran
      cases run.symm.trans ran
    · intro refusal after ran
      cases run.symm.trans ran
      exact ⟨rfl, before, id, later, split, done, stopped, rfl⟩

/-- A session with files of the same age. -/
def agedSession (files : List (FileId × FileUpload.State)) : UploadSession :=
  let start : Instant := .ofParts 1700000000 0
  { new start (.ofSeconds 60) ⟨0#128⟩ "demo" "1.0" "" with
    files := files.map fun (id, state) =>
      { FileUpload.new start (.ofSeconds 60) id { filename := "demo-1.0.tar.gz", size := 7 }
          (.httpPost Mechanism.defaultUrlBase) with state } }

/-- An identifier that comes twice stops the reaper. A complete file is canceled in the place of the
overdue one behind it. -/
theorem agedSession_reaping :
    let late : Instant := .ofParts 1700000100 0
    let twice := agedSession [(⟨1#128⟩, .pending), (⟨2#128⟩, .error), (⟨1#128⟩, .processing)]
    let behind := agedSession [(⟨1#128⟩, .complete), (⟨1#128⟩, .pending)]
    (twice.state.isTerminal = false ∧ ReapingOutcome late twice ∧
      (cancelExpired late).run twice = .error (.file .canceled .cancel)
        (agedSession [(⟨1#128⟩, .canceled), (⟨2#128⟩, .canceled), (⟨1#128⟩, .processing)])) ∧
    behind.state.isTerminal = false ∧ ReapingOutcome late behind ∧
      (cancelExpired late).run behind = .ok 1
        { agedSession [(⟨1#128⟩, .canceled), (⟨1#128⟩, .pending)] with state := .canceled } := by
  intro late twice behind
  have openedTwice : twice.state.isTerminal = false := rfl
  have openedBehind : behind.state.isTerminal = false := rfl
  exact ⟨⟨openedTwice, reaping_outcome late openedTwice, rfl⟩,
    openedBehind, reaping_outcome late openedBehind, rfl⟩

end UploadSession

end ReleaseUpload
