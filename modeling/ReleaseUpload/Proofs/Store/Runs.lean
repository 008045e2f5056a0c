import ReleaseUpload.Proofs.Store.Sweeps

/-!
Runs of a store. A `Step` is an operation of the store, a sweep, or a step of one session through
its handle, which works whether the store still has the session or not. What the background task does
to a store is a run of the store, and what a run of the store does to one record is a run of that
session.
-/

namespace ReleaseUpload.Store

inductive Step where
  | insert (session : UploadSession)
  | remove (id : SessionId)
  | evictTerminal (visit : Visit) (now : Instant) (limit : Nat)
  | expired (visit : Visit) (now : Instant) (limit : Nat)
  | sweep (listing eviction : Visit) (settings : ReaperSettings) (now : Instant)
  | on (handle : Handle) (step : UploadSession.Step)

/-- The store after a step, which may have been refused. -/
def apply (store : Store) : Step → Store
  | .insert session => leaves (insert session) store
  | .remove id => leaves (remove id) store
  | .evictTerminal visit now limit => leaves (evictTerminal visit now limit) store
  | .expired visit now limit =>
    leaves ((Reaper.Backend.ofVisits visit visit).expired now limit) store
  | .sweep listing eviction settings now =>
    leaves (Reaper.sweep (.ofVisits listing eviction) settings now) store
  | .on handle step => store.touch handle step

/-- The store after a run. -/
def after (store : Store) (steps : List Step) : Store := steps.foldl apply store

@[simp] theorem after_nil (store : Store) : store.after [] = store := rfl

@[simp] theorem after_cons (store : Store) (step : Step) (rest : List Step) :
    store.after (step :: rest) = (store.apply step).after rest := rfl

theorem after_append (store : Store) (first second : List Step) :
    store.after (first ++ second) = (store.after first).after second :=
  List.foldl_append

/-- Some run from the empty store ends here. -/
def Reachable (store : Store) : Prop := ∃ steps, empty.after steps = store

/-- What holds of the empty store and is kept by each step holds of every reachable store. -/
theorem Reachable.induction {Holds : Store → Prop} (start : Holds empty)
    (step : ∀ store step, Holds store → Holds (store.apply step)) {store : Store}
    (reachable : Reachable store) : Holds store := by
  obtain ⟨steps, rfl⟩ := reachable
  have run : ∀ steps store, Holds store → Holds (store.after steps) := by
    intro steps
    induction steps with
    | nil => exact fun store holds => holds
    | cons first rest inductionHypothesis =>
      exact fun store holds => inductionHypothesis _ (step store first holds)
  exact run steps empty start

section

variable (store : Store)

theorem apply_insert (session : UploadSession) :
    store.apply (.insert session) =
      if (store.tokens.lookup session.token).isNone ∧ (store.get? session.id).isNone then
        store.inserted session
      else store := by
  have run := insert_run store session
  rw [apply]
  cases taken : store.tokens.lookup session.token with
  | some id =>
    rw [taken] at run
    rw [leaves_of_error run, if_neg (by simp)]
  | none =>
    cases held : store.get? session.id with
    | some handle =>
      rw [taken, held] at run
      rw [leaves_of_error run, if_neg (by simp)]
    | none =>
      rw [taken, held] at run
      rw [leaves_of_ok run, if_pos (by simp)]

theorem apply_remove (id : SessionId) :
    store.apply (.remove id) =
      match store.get? id with
      | none => store
      | some handle => store.drop (id, handle) := by
  have run := remove_run store id
  rw [apply]
  cases held : store.get? id with
  | none =>
    rw [held] at run
    exact leaves_of_error run
  | some handle =>
    rw [held] at run
    exact leaves_of_ok run

theorem apply_evictTerminal (visit : Visit) (now : Instant) (limit : Nat) :
    store.apply (.evictTerminal visit now limit) =
      store.dropAll (store.evictable visit now limit) :=
  leaves_of_ok (evictTerminal_run store visit now limit)

theorem apply_expired (visit : Visit) (now : Instant) (limit : Nat) :
    store.apply (.expired visit now limit) = store := rfl

theorem apply_sweep (listing eviction : Visit) (settings : ReaperSettings) (now : Instant) :
    store.apply (.sweep listing eviction settings now) =
      store.swept listing eviction settings now := by
  obtain ⟨stats, run, -⟩ := sweep_run store listing eviction settings now
  exact leaves_of_ok run

end

/-! The background task. -/

/-- The task sweeps when it is time to, and ends if it cannot tell the instant of the sweep. -/
theorem task_run (store : Store) (listing eviction : Visit) (task : Reaper.Task) (clock : Clock) :
    task.run (.ofVisits listing eviction) clock store =
      if task.isDue then
        match clock.now? with
        | none => (none, store)
        | some now => (some task, store.apply (.sweep listing eviction task.settings now))
      else (some task, store) := by
  rw [Reaper.Task.run]
  split
  · cases clock.now? with
    | none => rfl
    | some now =>
      obtain ⟨stats, run, -⟩ := sweep_run store listing eviction task.settings now
      simp only [run, apply_sweep]
  · rfl

/-- The task takes a store nowhere but where a run could have taken it. -/
theorem Reachable.task_run {store : Store} (reachable : Reachable store)
    (listing eviction : Visit) (task : Reaper.Task) (clock : Clock) :
    Reachable (task.run (.ofVisits listing eviction) clock store).2 := by
  obtain ⟨steps, rfl⟩ := reachable
  rw [Store.task_run]
  split
  · cases clock.now? with
    | none => exact ⟨steps, rfl⟩
    | some now => exact ⟨steps ++ [.sweep listing eviction task.settings now], after_append ..⟩
  · exact ⟨steps, rfl⟩

/-! One record. -/

/-- A step of the store is a run of each session that was ever inserted. -/
theorem record?_apply {store : Store} {handle : Handle} {session : UploadSession}
    (held : store.record? handle = some session) (step : Step) :
    ∃ steps, (store.apply step).record? handle = some (session.after steps) := by
  cases step with
  | insert taken =>
    refine ⟨[], ?_⟩
    rw [apply_insert, UploadSession.after_nil]
    split_ifs
    · rw [record?, inserted, List.getElem?_append_left (List.getElem?_eq_some_iff.mp held).1]
      exact held
    · exact held
  | remove id =>
    refine ⟨[], ?_⟩
    rw [apply_remove, UploadSession.after_nil]
    split
    · exact held
    · exact held
  | evictTerminal visit now limit =>
    refine ⟨[], ?_⟩
    rw [apply_evictTerminal, record?, records_dropAll]
    exact held
  | expired visit now limit => exact ⟨[], held⟩
  | sweep listing eviction settings now =>
    have trans : ∀ first second third : UploadSession, (∃ steps, second = first.after steps) →
        (∃ steps, third = second.after steps) → ∃ steps, third = first.after steps := by
      rintro first - - ⟨one, rfl⟩ ⟨two, rfl⟩
      exact ⟨one ++ two, (first.after_append one two).symm⟩
    obtain ⟨reaped, found, steps, rfl⟩ := @record?_reapAll
      (fun before after => ∃ steps, after = before.after steps) now
      (fun session => ⟨[], rfl⟩) trans (fun session => ⟨[.reap now], rfl⟩) store
      (store.expired listing now settings.batchSize.toNat) handle session held
    refine ⟨steps, ?_⟩
    rw [apply_sweep, record?, records_swept]
    exact found
  | on touched step =>
    rw [apply, record?_touch, held]
    split_ifs
    · exact ⟨[step], rfl⟩
    · exact ⟨[], rfl⟩

theorem record?_after {store : Store} {handle : Handle} {session : UploadSession}
    (held : store.record? handle = some session) (steps : List Step) :
    ∃ run, (store.after steps).record? handle = some (session.after run) := by
  induction steps generalizing store session with
  | nil => exact ⟨[], held⟩
  | cons step rest inductionHypothesis =>
    obtain ⟨one, found⟩ := record?_apply held step
    obtain ⟨others, last⟩ := inductionHypothesis found
    refine ⟨one ++ others, ?_⟩
    rw [after_cons, last, UploadSession.after_append]

end ReleaseUpload.Store
