import ReleaseUpload.Proofs.Store.Effect

/-!
Sweeps whose listing may be stale. What is listed as overdue is up to the backend, and a session may
be settled or extended before its turn comes. A visit asks again whether the session is overdue,
and by `reap_run_of_punctual` it leaves one alone that is not. `sweep_rechecks` says for every
backend that a sweep leaves all such sessions as they are, and counts what it would have counted
without them.
-/

namespace ReleaseUpload.Store

theorem isOverdue_eq_false_iff {now : Instant} {session : UploadSession} :
    isOverdue now session = false ↔
      session.state = .published ∨ session.state = .canceled ∨ now ≤ session.expiration := by
  rw [← Bool.not_eq_true, isOverdue_iff, not_and_or, Instant.not_lt, or_comm, ← or_assoc]
  apply or_congr_left
  cases session.state <;> decide

/-- The session behind the handle is overdue. -/
def isLate (store : Store) (now : Instant) (handle : Handle) : Bool :=
  (store.record? handle).any (isOverdue now)

theorem isLate_eq_false_iff {store : Store} {now : Instant} {handle : Handle} :
    store.isLate now handle = false ↔
      ∀ session, store.record? handle = some session → isOverdue now session = false := by
  simp [isLate, Option.any_eq_false]

theorem isLate_eq_true_iff {store : Store} {now : Instant} {handle : Handle} :
    store.isLate now handle = true ↔
      ∃ session, store.record? handle = some session ∧ isOverdue now session = true := by
  rw [isLate, Option.any_eq_true]

section

variable {store : Store} {now : Instant}

theorem touch_reap_of_spared {handle : Handle} (spared : store.isLate now handle = false) :
    store.touch handle (.reap now) = store :=
  touch_reap_of_punctual (isLate_eq_false_iff.mp spared)

theorem isLate_touch_of_ne {handle other : Handle} (apart : handle ≠ other)
    (step : UploadSession.Step) :
    (store.touch handle step).isLate now other = store.isLate now other := by
  rw [isLate, record?_touch, if_neg apart, isLate]

/-- A visit makes no session overdue. -/
theorem isLate_touch_reap {other : Handle} (spared : store.isLate now other = false)
    (handle : Handle) : (store.touch handle (.reap now)).isLate now other = false := by
  by_cases same : handle = other
  · rw [same, touch_reap_of_spared spared, spared]
  · rw [isLate_touch_of_ne same, spared]

/-- Visits leave a session alone that is not listed or not overdue. -/
theorem record?_reapAll_of_spared {handle : Handle} {handles : List Handle}
    (spared : handle ∈ handles → store.isLate now handle = false) :
    (store.reapAll now handles).record? handle = store.record? handle := by
  induction handles generalizing store with
  | nil => rfl
  | cons first rest inductionHypothesis =>
    rw [reapAll_cons]
    by_cases same : first = handle
    · rw [same, touch_reap_of_spared (spared (by simp [same]))]
      exact inductionHypothesis fun listed => spared (List.mem_cons_of_mem first listed)
    · rw [inductionHypothesis fun listed =>
        isLate_touch_reap (spared (List.mem_cons_of_mem first listed)) first,
        record?_touch, if_neg same]

end

/-- A visit counts an overdue session once, as canceled or as an error. What it counts besides does
not depend on how many sessions were examined before. -/
theorem reap_run_counts (store : Store) (now : Instant) (stats : Reaper.Stats) (handle : Handle) :
    ∃ counted : Reaper.Stats,
      counted.canceled + counted.errors =
        stats.canceled + stats.errors + (if store.isLate now handle then 1 else 0) ∧
      ∀ examined, (Reaper.reap now { stats with examined } handle).run store =
        .ok { counted with examined := examined + 1 } (store.touch handle (.reap now)) := by
  cases late : store.isLate now handle with
  | false =>
    refine ⟨stats, rfl, fun examined => ?_⟩
    rw [touch_reap_of_spared late, reap_run_of_punctual (isLate_eq_false_iff.mp late)]
  | true =>
    obtain ⟨session, held, late⟩ := isLate_eq_true_iff.mp late
    have touched := touch_eq_setRecord held (.reap now)
    rw [UploadSession.apply, if_pos late] at touched
    rw [touched]
    cases ran : (UploadSession.cancelExpired now).run session with
    | ok files after =>
      refine ⟨{ stats with
        canceled := stats.canceled + 1
        filesCanceled := stats.filesCanceled + files }, ?_, fun examined => ?_⟩
      · exact Nat.add_right_comm _ _ _
      · rw [reap_run_of_overdue held late, ran, leaves_of_ok ran]
    | error refusal after =>
      refine ⟨{ stats with errors := stats.errors + 1 }, rfl, fun examined => ?_⟩
      rw [reap_run_of_overdue held late, ran, leaves_of_error ran]

/-- Sessions that are not overdue can be left out of a listing: what remains is visited with the
same effect, and nothing but the number of examined sessions is counted differently. -/
theorem reapAll_run_filter {store : Store} {now : Instant} (keeps : Handle → Bool)
    (spared : ∀ handle, keeps handle = false → store.isLate now handle = false)
    (listed : List Handle) (stats : Reaper.Stats) :
    ∃ counted : Reaper.Stats, ∀ examined,
      (Reaper.reapAll now { stats with examined } listed).run store =
        .ok { counted with examined := examined + listed.length } (store.reapAll now listed) ∧
      (Reaper.reapAll now { stats with examined } (listed.filter keeps)).run store =
        .ok { counted with examined := examined + (listed.filter keeps).length }
          (store.reapAll now listed) := by
  induction listed generalizing store stats with
  | nil => exact ⟨stats, fun examined => ⟨rfl, rfl⟩⟩
  | cons handle rest inductionHypothesis =>
    cases kept : keeps handle with
    | false =>
      -- Nothing is done about this session, and the visit counts only itself.
      have late := spared handle kept
      obtain ⟨counted, others⟩ := inductionHypothesis spared stats
      refine ⟨counted, fun examined => ?_⟩
      rw [reapAll_cons, touch_reap_of_spared late, List.filter_cons_of_neg (by simp [kept])]
      refine ⟨?_, (others examined).2⟩
      rw [reapAll_run_cons (reap_run_of_punctual (isLate_eq_false_iff.mp late) _),
        (others (examined + 1)).1, List.length_cons, Nat.add_assoc, Nat.add_comm 1]
    | true =>
      obtain ⟨visited, -, visit⟩ := reap_run_counts store now stats handle
      have still : ∀ other, keeps other = false →
          (store.touch handle (.reap now)).isLate now other = false :=
        fun other left => isLate_touch_reap (spared other left) handle
      obtain ⟨counted, others⟩ := inductionHypothesis still visited
      refine ⟨counted, fun examined => ?_⟩
      obtain ⟨all, remaining⟩ := others (examined + 1)
      rw [reapAll_cons, List.filter_cons_of_pos kept]
      constructor
      · rw [reapAll_run_cons (visit examined), all, List.length_cons, Nat.add_assoc, Nat.add_comm 1]
      · rw [reapAll_run_cons (visit examined), remaining, List.length_cons, Nat.add_assoc,
          Nat.add_comm 1]

/-- Of listed sessions each one that is overdue is counted, as canceled or as an error. -/
theorem reapAll_run_attempts (store : Store) (now : Instant) (stats : Reaper.Stats)
    {listed : List Handle} (apart : listed.Nodup) :
    ∃ counted : Reaper.Stats,
      (Reaper.reapAll now stats listed).run store = .ok counted (store.reapAll now listed) ∧
      counted.canceled + counted.errors =
        stats.canceled + stats.errors + listed.countP (store.isLate now) := by
  induction listed generalizing store stats with
  | nil => exact ⟨stats, rfl, rfl⟩
  | cons handle rest inductionHypothesis =>
    obtain ⟨fresh, apart⟩ := List.nodup_cons.mp apart
    obtain ⟨visited, first, visit⟩ := reap_run_counts store now stats handle
    obtain ⟨counted, run, total⟩ := inductionHypothesis (store.touch handle (.reap now))
      { visited with examined := stats.examined + 1 } apart
    refine ⟨counted, (reapAll_run_cons (visit stats.examined) rest).trans run, ?_⟩
    have others : rest.countP ((store.touch handle (.reap now)).isLate now) =
        rest.countP (store.isLate now) := by
      apply List.countP_congr
      intro other listed
      rw [isLate_touch_of_ne (ne_of_mem_of_not_mem listed fresh).symm]
    rw [total, first, others, List.countP_cons, Nat.add_assoc, Nat.add_comm (ite _ _ _)]

/-- What the visits to listed sessions do to a store, and what they count, however old the listing
is. -/
structure Rechecked (now : Instant) (listed : List Handle) (before after : Store)
    (stats : Reaper.Stats) : Prop where
  /-- A session that has been settled or extended is left as it is. -/
  spared : ∀ handle session, before.record? handle = some session →
    session.state = .published ∨ session.state = .canceled ∨ now ≤ session.expiration →
      after.record? handle = some session
  unlisted : ∀ handle, handle ∉ listed → after.record? handle = before.record? handle
  indexes : after.sessions = before.sessions ∧ after.tokens = before.tokens
  examined : stats.examined = listed.length
  canceled : stats.canceled = (before.newlyCanceled after).length
  /-- Each session that is still overdue is counted once. -/
  attempts : listed.Nodup → stats.canceled + stats.errors = listed.countP (before.isLate now)
  /-- Nothing is different but `examined` if only what is still overdue is listed. -/
  others : (Reaper.reapAll now {} (listed.filter (before.isLate now))).run before =
    .ok { stats with examined := (listed.filter (before.isLate now)).length } after

theorem reapAll_rechecks (store : Store) (now : Instant) (listed : List Handle) :
    ∃ stats, (Reaper.reapAll now {} listed).run store = .ok stats (store.reapAll now listed) ∧
      Rechecked now listed store (store.reapAll now listed) stats := by
  obtain ⟨counted, runs⟩ :=
    reapAll_run_filter (store.isLate now) (fun _ spared => spared) listed {}
  obtain ⟨all, remaining⟩ := runs 0
  rw [Nat.zero_add] at all remaining
  refine ⟨_, all, ?_⟩
  constructor
  case spared =>
    intro handle session held settled
    rw [← held]
    apply record?_reapAll_of_spared
    intro _
    rw [isLate, held]
    exact isOverdue_eq_false_iff.mpr settled
  case unlisted =>
    exact fun handle unlisted => record?_reapAll_of_spared fun listed => absurd listed unlisted
  case indexes =>
    rw [reapAll_same]
    exact ⟨rfl, rfl⟩
  case examined => rfl
  case canceled =>
    obtain ⟨stats, run, canceled⟩ := reapAll_run store now {} listed
    cases all.symm.trans run
    exact canceled.trans (Nat.zero_add _)
  case attempts =>
    intro apart
    obtain ⟨stats, run, attempts⟩ := reapAll_run_attempts store now {} apart
    cases all.symm.trans run
    exact attempts.trans (Nat.zero_add _)
  case others => exact remaining

/-- A sweep over any backend fails if it gets no listing. Otherwise its visits spare what is not
overdue any more, and then the backend evicts. -/
theorem sweep_rechecks (backend : Reaper.Backend) (settings : ReaperSettings) (now : Instant)
    (store : Store) :
    match (backend.expired now settings.batchSize.toNat).run store with
    | .error refusal met =>
      (Reaper.sweep backend settings now).run store = .error refusal met
    | .ok listed met => ∃ stats reaped, Rechecked now listed met reaped stats ∧
      (Reaper.sweep backend settings now).run store =
        if settings.evictTerminal then
          match (backend.evictTerminal now settings.batchSize.toNat).run reaped with
          | .error refusal after => .error refusal after
          | .ok evicted after => .ok { stats with evicted } after
        else .ok stats reaped := by
  cases answered : (backend.expired now settings.batchSize.toNat).run store with
  | error refusal met =>
    dsimp only
    rw [Reaper.sweep, EStateM.run_bind, answered]
  | ok listed met =>
    obtain ⟨stats, visits, rechecked⟩ := reapAll_rechecks met now listed
    refine ⟨stats, _, rechecked, ?_⟩
    simp only [Reaper.sweep, EStateM.run_bind, answered, visits]
    split
    · rw [EStateM.run_bind]
      cases (backend.evictTerminal now settings.batchSize.toNat).run (met.reapAll now listed) <;> rfl
    · rfl

/-- The answers of a store that goes on for a while between its listing and the first visit. -/
def amid (listing eviction : Visit) (steps : List Step) : Reaper.Backend where
  expired now limit := do
    let listed := (← get).expired listing now limit
    modify (·.after steps)
    return listed
  evictTerminal := evictTerminal eviction

/-- What has been settled or extended since it was listed is left as it is, and is not counted among
what is canceled. -/
theorem sweep_amid (store : Store) (listing eviction : Visit) (steps : List Step)
    (settings : ReaperSettings) (now : Instant) :
    ∃ stats swept,
      (Reaper.sweep (amid listing eviction steps) settings now).run store = .ok stats swept ∧
      stats.examined = (store.expired listing now settings.batchSize.toNat).length ∧
      stats.canceled = ((store.after steps).newlyCanceled swept).length ∧
      ∀ handle session, (store.after steps).record? handle = some session →
        session.state = .published ∨ session.state = .canceled ∨ now ≤ session.expiration →
          swept.record? handle = some session := by
  obtain ⟨stats, reaped, rechecked, run⟩ :=
    sweep_rechecks (amid listing eviction steps) settings now store
  rw [run]
  split
  · -- An eviction changes no record.
    let swept := reaped.dropAll (reaped.evictable eviction now settings.batchSize.toNat)
    have kept : swept.records = reaped.records := records_dropAll _ _
    refine ⟨_, swept, rfl, rechecked.examined, ?_, ?_⟩
    · rw [newlyCanceled_congr kept]
      exact rechecked.canceled
    · intro handle session held settled
      rw [record?, kept]
      exact rechecked.spared handle session held settled
  · exact ⟨stats, reaped, rfl, rechecked.examined, rechecked.canceled, rechecked.spared⟩

/-- A session that is extended after it was listed is examined and stays open. -/
example :
    let extend : UploadSession.Step := .ask .standard (.ofParts 1700000000 0) (.extend 60000)
    let backend := amid .inOrder .inOrder [.on 0 extend]
    (match (Reaper.sweep backend {} (.ofParts 1700050000 0)).run (empty.after expiringRun) with
      | .ok stats swept => some (stats, (swept.record? 0).map UploadSession.state)
      | .error _ _ => none) = some ({ examined := 1, evicted := 1 }, some .pending) := by
  decide +kernel

end ReleaseUpload.Store
