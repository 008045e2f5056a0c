import ReleaseUpload.Proofs.Store.Runs
import ReleaseUpload.Proofs.UploadSession.Settlement

/-!
Who ends a session. Requests and sweeps race for it over any run of its store, one of them wins at
most once, and from then on the session is `Final`: requests are refused under the name of the state
that won, no file comes in, and no sweep counts it.
-/

namespace ReleaseUpload.Store

/-- The session behind the handle is published or canceled. -/
def isSettled (store : Store) (handle : Handle) : Bool :=
  (store.record? handle).any fun session => session.state.isTerminal

/-- The session behind the handle is neither published nor canceled. -/
def isOpen (store : Store) (handle : Handle) : Bool :=
  (store.record? handle).any fun session => !session.state.isTerminal

/-- The step moves the session behind the handle into published or canceled. -/
def settles (store : Store) (handle : Handle) (step : Step) : Bool :=
  store.isOpen handle && (store.apply step).isSettled handle

/-- How many steps of a run do. -/
def settlements (store : Store) (handle : Handle) : List Step → Nat
  | [] => 0
  | step :: rest => (store.settles handle step).toNat + (store.apply step).settlements handle rest

theorem isSettled_iff {store : Store} {handle : Handle} :
    store.isSettled handle = true ↔
      ∃ session, store.record? handle = some session ∧ session.state.isTerminal = true := by
  rw [isSettled, Option.any_eq_true]

theorem isOpen_eq_false_of_isSettled {store : Store} {handle : Handle}
    (settled : store.isSettled handle = true) : store.isOpen handle = false := by
  obtain ⟨session, held, terminal⟩ := isSettled_iff.mp settled
  simp [isOpen, held, terminal]

/-- A settled session keeps its state and its number of files. -/
theorem record?_after_of_settled {store : Store} {handle : Handle} {settled : UploadSession}
    (held : store.record? handle = some settled) (terminal : settled.state.isTerminal = true)
    (steps : List Step) :
    ∃ session, (store.after steps).record? handle = some session ∧
      session.state = settled.state ∧ session.files.length = settled.files.length := by
  obtain ⟨run, found⟩ := record?_after held steps
  exact ⟨_, found, UploadSession.after_settled terminal run⟩

theorem isSettled_apply {store : Store} {handle : Handle}
    (settled : store.isSettled handle = true) (step : Step) :
    (store.apply step).isSettled handle = true := by
  obtain ⟨session, held, terminal⟩ := isSettled_iff.mp settled
  obtain ⟨later, found, state, -⟩ := record?_after_of_settled held terminal [step]
  exact isSettled_iff.mpr ⟨later, found, state ▸ terminal⟩

theorem settlements_of_isSettled {store : Store} {handle : Handle}
    (settled : store.isSettled handle = true) (steps : List Step) :
    store.settlements handle steps = 0 := by
  induction steps generalizing store with
  | nil => rfl
  | cons step rest inductionHypothesis =>
    rw [settlements, settles, isOpen_eq_false_of_isSettled settled, Bool.false_and,
      inductionHypothesis (isSettled_apply settled step)]
    rfl

/-- Over a whole run at most one step wins the session. -/
theorem settlements_le_one (store : Store) (handle : Handle) (steps : List Step) :
    store.settlements handle steps ≤ 1 := by
  induction steps generalizing store with
  | nil => exact Nat.zero_le 1
  | cons step rest inductionHypothesis =>
    rw [settlements]
    cases wins : store.settles handle step with
    | false =>
      rw [Bool.toNat_false, Nat.zero_add]
      exact inductionHypothesis (store.apply step)
    | true =>
      rw [settles, Bool.and_eq_true] at wins
      rw [settlements_of_isSettled wins.2]
      exact Nat.le_refl 1

/-- The session behind the handle is settled the way it was, and there is no way on. -/
structure Final (store : Store) (handle : Handle) (settled : UploadSession) : Prop where
  kept : ∃ session, store.record? handle = some session ∧ session.state = settled.state ∧
    session.files.length = settled.files.length
  refused : ∀ session, store.record? handle = some session →
    ∀ policy now request, (∀ id asked, request ≠ .file id asked) →
      ∃ event, UploadSession.Request.event? request = some event ∧
        (UploadSession.perform policy now request).run session =
          .error (.session settled.state event) session
  uncounted : ∀ listing eviction settings now, ∃ stats after,
    (Reaper.sweep (.ofVisits listing eviction) settings now).run store = .ok stats after ∧
      stats.canceled = (store.newlyCanceled after).length ∧ handle ∉ store.newlyCanceled after

theorem final_of_record? {store : Store} {handle : Handle} {session settled : UploadSession}
    (held : store.record? handle = some session) (terminal : settled.state.isTerminal = true)
    (state : session.state = settled.state)
    (length : session.files.length = settled.files.length) : Final store handle settled := by
  have stillTerminal : session.state.isTerminal = true := state ▸ terminal
  refine ⟨⟨session, held, state, length⟩, ?_, ?_⟩
  · intro same found policy now request asksSession
    obtain rfl := Option.some.inj (held.symm.trans found)
    obtain ⟨event, entry⟩ := UploadSession.Request.exists_event asksSession
    refine ⟨event, entry, ?_⟩
    rw [← state]
    exact UploadSession.perform_run_of_settled stillTerminal entry policy now
  · intro listing eviction settings now
    obtain ⟨stats, run, total⟩ := sweep_run store listing eviction settings now
    refine ⟨stats, _, run, total, ?_⟩
    rw [mem_newlyCanceled_iff held, stillTerminal]
    rintro ⟨opened, -⟩
    cases opened

/-- A session is won once. Whatever step of a run moves it into published or canceled, it is final
after every continuation of that run. -/
theorem won_once (store : Store) (handle : Handle) (steps : List Step) :
    store.settlements handle steps ≤ 1 ∧
      ∀ before step later, steps = before ++ step :: later →
        (store.after before).settles handle step = true →
        ∃ settled, (store.after (before ++ [step])).record? handle = some settled ∧
          settled.state.isTerminal = true ∧ Final (store.after steps) handle settled := by
  refine ⟨settlements_le_one store handle steps, ?_⟩
  rintro before step later rfl wins
  rw [settles, Bool.and_eq_true] at wins
  obtain ⟨settled, held, terminal⟩ := isSettled_iff.mp wins.2
  obtain ⟨session, found, state, length⟩ := record?_after_of_settled held terminal later
  refine ⟨settled, ?_, terminal, ?_⟩
  · rw [after_append]
    exact held
  · rw [after_append, after_cons]
    exact final_of_record? found terminal state length

/-- A session is taken in, and a publication comes just before a cancellation and a late sweep. -/
def racedRun : List Step :=
  let start : Instant := .ofParts 1700000000 0
  [.insert (.new start (.ofSeconds 60) ⟨1#128⟩ "demo" "1.0" ""),
    .on 0 (.ask .standard start .publish),
    .on 0 (.ask .standard start .cancel),
    .sweep .inOrder .inOrder { evictTerminal := false } (.ofParts 1700000100 0)]

theorem racedRun_final :
    racedRun = racedRun.take 1 ++
        .on 0 (.ask .standard (.ofParts 1700000000 0) .publish) :: racedRun.drop 2 ∧
      (empty.after (racedRun.take 1)).settles 0
        (.on 0 (.ask .standard (.ofParts 1700000000 0) .publish)) = true ∧
      ∃ settled, (empty.after (racedRun.take 2)).record? 0 = some settled ∧
        settled.state.isTerminal = true ∧ Final (empty.after racedRun) 0 settled := by
  have split : racedRun = racedRun.take 1 ++
      .on 0 (.ask .standard (.ofParts 1700000000 0) .publish) :: racedRun.drop 2 := rfl
  have wins : (empty.after (racedRun.take 1)).settles 0
      (.on 0 (.ask .standard (.ofParts 1700000000 0) .publish)) = true := by
    rfl
  exact ⟨split, wins, (won_once empty 0 racedRun).2 _ _ _ split wins⟩

end ReleaseUpload.Store
