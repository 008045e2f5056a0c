import ReleaseUpload.Proofs.Store.Accounting
import ReleaseUpload.Proofs.UploadSession.Deadlines

/-!
Extensions and sweeps. Whether a session can be extended at an instant and whether the reaper would
cancel it then is decided in different places, and yet exactly one of the two holds. A session that
was extended is safe up to its new deadline, and one whose extension came too late is canceled by
the next sweep that gets to it: `extension_against_sweep` says so for stored sessions.
-/

namespace ReleaseUpload

namespace UploadSession

section

variable {session after : UploadSession} (pending : session.state = .pending)
  (settings : UploadSettings) (now : Instant) (seconds : UInt64)
include pending

theorem extend_granted_iff :
    (extend settings now seconds).run session = .ok .pending after ↔
      now ≤ session.expiration ∧
        after = session.extended (settings.extension seconds) .session :=
  extend_run_eq_ok_iff.trans (and_iff_right pending)

theorem extend_lapsed_iff :
    (extend settings now seconds).run session = .ok .error after ↔
      session.expiration < now ∧ after = session.lapsed .session := by
  rw [extend_run_of_pending pending, isExpired]
  by_cases late : session.expiration < now
  · simp [late, eq_comm]
  · simp [late]

end

end UploadSession

namespace Store

section

variable {store : Store} {id : SessionId} {handle : Handle} {session : UploadSession}
  {now : Instant}

/-- A step of a session leaves it in its place. -/
theorem Stored.on (stored : Stored store id handle session) (step : UploadSession.Step) :
    Stored (store.apply (.on handle step)) id handle (session.apply step) where
  found := stored.found
  held := by
    rw [apply, record?_touch, if_pos rfl, stored.held, Option.map_some]

variable (consistent : Consistent store) (stored : Stored store id handle session)
include consistent stored

/-- The files of other sessions need not be within reach. -/
theorem Consistent.record?_swept (listing eviction : Visit) (settings : ReaperSettings)
    (now : Instant) :
    (store.swept listing eviction settings now).record? handle =
      some (if handle ∈ store.expired listing now settings.batchSize.toNat
        then session.apply (.reap now) else session) := by
  have apart := consistent.expired_nodup listing now settings.batchSize.toNat
  rw [record?, records_swept]
  have visited := record?_reapAll_of_nodup apart store now handle
  rwa [stored.held, Option.map_some] at visited

/-- Up to its deadline a session is safe from sweeps. -/
theorem Consistent.stored_swept_of_punctual (punctual : now ≤ session.expiration)
    (listing eviction : Visit) (settings : ReaperSettings) :
    Stored (store.swept listing eviction settings now) id handle session := by
  have early : session.isExpired now = false := decide_eq_false (Int.not_lt.mpr punctual)
  have kept : session.apply (.reap now) = session := by
    rw [UploadSession.apply, if_neg]
    simp [isOverdue, early]
  have held : (store.swept listing eviction settings now).record? handle = some session := by
    rw [consistent.record?_swept stored, kept, ite_self]
  refine ⟨consistent.get?_swept_eq_some_iff.mpr ⟨stored.found, fun gone => ?_⟩, held⟩
  obtain ⟨-, same, found, settled⟩ := consistent.record?_of_mem_evicted gone stored.found
  obtain rfl := Option.some.inj (held.symm.trans found)
  rw [isEvictable, early] at settled
  cases settled

/-- A batch that covers all overdue sessions covers each of them. -/
theorem Consistent.mem_expired_of_covers (late : isOverdue now session = true) {limit : Nat}
    (covers : store.count (isOverdue now) ≤ limit) (visit : Visit) :
    handle ∈ store.expired visit now limit := by
  have whole : ((visit.arrange store.sessions).filter (store.holds (isOverdue now))).length ≤
      limit := by
    rw [((visit.perm store.sessions).filter _).length_eq, ← List.countP_eq_length_filter]
    exact covers
  rw [expired, List.take_of_length_le whole]
  refine List.mem_map.mpr ⟨(id, handle), List.mem_filter.mpr ⟨?_, ?_⟩, rfl⟩
  · exact (visit.perm _).mem_iff.mpr (consistent.get?_eq_some_iff.mp stored.found)
  · exact holds_iff.mpr ⟨session, stored.held, late⟩

theorem Consistent.record?_swept_of_covers (late : isOverdue now session = true)
    (distinct : (session.files.map (·.id)).Nodup) {settings : ReaperSettings}
    (covers : store.count (isOverdue now) ≤ settings.batchSize.toNat)
    (listing eviction : Visit) :
    (store.swept listing eviction settings now).record? handle = some (session.reaped now) := by
  rw [consistent.record?_swept stored,
    if_pos (consistent.mem_expired_of_covers stored late covers listing),
    apply_reap_of_overdue late distinct]

end

theorem setRecord_of_extend {store : Store} (consistent : Consistent store) {id : SessionId}
    {handle : Handle} {session after : UploadSession} (stored : Stored store id handle session)
    {settings : UploadSettings} {now : Instant} {seconds : UInt64}
    {answer : UploadSession.State}
    (run : (UploadSession.extend settings now seconds).run session = .ok answer after) :
    Consistent (store.setRecord handle after) ∧
      Stored (store.setRecord handle after) id handle after := by
  let step : UploadSession.Step := .ask ⟨.empty, settings⟩ now (.extend seconds)
  have ran : (UploadSession.perform ⟨.empty, settings⟩ now (.extend seconds)).run session =
      .ok (.state answer) after := by
    simp only [UploadSession.perform, EStateM.run_bind, run]
    rfl
  have same : session.apply step = after := leaves_of_ok ran
  have touched := touch_eq_setRecord stored.held step
  rw [same] at touched
  rw [← touched]
  exact ⟨consistent.apply (.on handle step), same ▸ stored.on step⟩

/-- What an extension of a stored session has to do with the sweeps after it, and with a sweep at
the same instant in its place. -/
structure Agreement (store : Store) (id : SessionId) (handle : Handle) (session : UploadSession)
    (settings : UploadSettings) (now : Instant) (seconds : UInt64) : Prop where
  granted_iff : (∃ after, (UploadSession.extend settings now seconds).run session =
    .ok .pending after) ↔ now ≤ session.expiration
  lapsed_iff : (∃ after, (UploadSession.extend settings now seconds).run session =
    .ok .error after) ↔ session.expiration < now
  /-- Up to its new deadline the session stays in the store, and stays as it is. -/
  spared : ∀ after,
    (UploadSession.extend settings now seconds).run session = .ok .pending after →
    ∀ listing eviction reaper moment, moment ≤ after.expiration →
      ∃ stats swept,
        (Reaper.sweep (.ofVisits listing eviction) reaper moment).run
          (store.setRecord handle after) = .ok stats swept ∧
        Stored swept id handle after ∧ swept.find? after.token = some handle
  /-- From then on any sweep that gets to all overdue sessions cancels it. -/
  canceled : ∀ after,
    (UploadSession.extend settings now seconds).run session = .ok .error after →
    ∀ listing eviction reaper moment, now ≤ moment →
      (store.setRecord handle after).count (isOverdue moment) ≤ reaper.batchSize.toNat →
      ∃ stats swept,
        (Reaper.sweep (.ofVisits listing eviction) reaper moment).run
          (store.setRecord handle after) = .ok stats swept ∧
        swept.record? handle = some (after.reaped moment)
  /-- A sweep at the same instant cancels it if and only if it cannot be extended. -/
  either : ∀ listing eviction reaper,
    store.count (isOverdue now) ≤ reaper.batchSize.toNat →
    ∃ stats swept,
      (Reaper.sweep (.ofVisits listing eviction) reaper now).run store = .ok stats swept ∧
      (swept.record? handle = some (session.reaped now) ↔
        ¬∃ after, (UploadSession.extend settings now seconds).run session = .ok .pending after)

/-- Of a stored session that is pending, an extension at an instant is granted exactly if the reaper
would leave it alone then. -/
theorem extension_against_sweep {store : Store} (reachable : Reachable store) {id : SessionId}
    {handle : Handle} {session : UploadSession} (stored : Stored store id handle session)
    (pending : session.state = .pending) (distinct : (session.files.map (·.id)).Nodup)
    (settings : UploadSettings) (now : Instant) (seconds : UInt64) :
    Agreement store id handle session settings now seconds := by
  have consistent := reachable.consistent
  refine ⟨?_, ?_, ?_, ?_, ?_⟩
  · simp [UploadSession.extend_granted_iff pending]
  · simp [UploadSession.extend_lapsed_iff pending]
  · intro after run listing eviction reaper moment early
    obtain ⟨still, held⟩ := setRecord_of_extend consistent stored run
    obtain ⟨stats, swept, -⟩ :=
      sweep_run (store.setRecord handle after) listing eviction reaper moment
    have spared := still.stored_swept_of_punctual held early listing eviction reaper
    have later := still.apply (.sweep listing eviction reaper moment)
    rw [apply_sweep] at later
    exact ⟨stats, _, swept, spared, later.find?_eq_some_iff.mpr ⟨id, after, spared, rfl⟩⟩
  · intro after run listing eviction reaper moment onward covers
    obtain ⟨still, held⟩ := setRecord_of_extend consistent stored run
    obtain ⟨stats, swept, -⟩ :=
      sweep_run (store.setRecord handle after) listing eviction reaper moment
    obtain ⟨expired, rfl⟩ := (UploadSession.extend_lapsed_iff pending settings now seconds).mp run
    have late : isOverdue moment (session.lapsed .session) = true :=
      isOverdue_iff.mpr ⟨Int.lt_of_lt_of_le expired onward, .inr rfl⟩
    have canceled := still.record?_swept_of_covers held late distinct covers listing eviction
    exact ⟨stats, _, swept, canceled⟩
  · intro listing eviction reaper covers
    obtain ⟨stats, swept, -⟩ := sweep_run store listing eviction reaper now
    refine ⟨stats, _, swept, ?_⟩
    by_cases expired : session.expiration < now
    · have late : isOverdue now session = true := isOverdue_iff.mpr ⟨expired, .inl pending⟩
      have canceled :=
        consistent.record?_swept_of_covers stored late distinct covers listing eviction
      simp [UploadSession.extend_granted_iff pending, canceled, ← Instant.not_lt, expired]
    · have spared := consistent.stored_swept_of_punctual stored (Instant.not_lt.mp expired) listing
        eviction reaper
      have granted := (UploadSession.extend_granted_iff pending settings now seconds).mpr
        ⟨Instant.not_lt.mp expired, rfl⟩
      refine iff_of_false (fun canceled => ?_) (fun refused => refused ⟨_, granted⟩)
      rw [Option.some.inj (spared.held.symm.trans canceled)] at pending
      cases pending

theorem exists_pending_expiringRun :
    ∃ session, Stored (empty.after expiringRun) ⟨1#128⟩ 0 session ∧ session.state = .pending ∧
      session.expiration = .ofParts 1700000060 0 := by
  have found : (empty.after expiringRun).get? ⟨1#128⟩ = some 0 := by decide +kernel
  have waits : (empty.after expiringRun).holds
      (fun session => session.state = .pending ∧ session.expiration = .ofParts 1700000060 0)
      (⟨1#128⟩, 0) = true := by
    decide +kernel
  obtain ⟨session, held, both⟩ := holds_iff.mp waits
  obtain ⟨pending, deadline⟩ := of_decide_eq_true both
  exact ⟨session, ⟨found, held⟩, pending, deadline⟩

/-- The pending session of a run can be extended at an instant, and is canceled by a sweep at a
later one. -/
theorem expiringRun_extension_against_sweep :
    let store := empty.after expiringRun
    let early : Instant := .ofParts 1700000000 0
    let late : Instant := .ofParts 1700100000 0
    ∃ session, Reachable store ∧ Stored store ⟨1#128⟩ 0 session ∧ session.state = .pending ∧
      (session.files.map (·.id)).Nodup ∧
      (Agreement store ⟨1#128⟩ 0 session {} early 60 ∧
        ∃ after, (UploadSession.extend {} early 60).run session = .ok .pending after) ∧
      Agreement store ⟨1#128⟩ 0 session {} late 60 ∧
        ∃ stats swept,
          (Reaper.sweep (.ofVisits .inOrder .inOrder) {} late).run store = .ok stats swept ∧
          swept.record? 0 = some (session.reaped late) := by
  intro store early late
  have reachable : Reachable store := ⟨expiringRun, rfl⟩
  obtain ⟨session, stored, pending, deadline⟩ := exists_pending_expiringRun
  have distinct := expiringRun_distinct stored
  have before := extension_against_sweep reachable stored pending distinct {} early 60
  have after := extension_against_sweep reachable stored pending distinct {} late 60
  have granted := before.granted_iff.mpr (by rw [deadline]; decide)
  obtain ⟨stats, swept, run, canceled⟩ := after.either .inOrder .inOrder {} (by decide +kernel)
  refine ⟨session, reachable, stored, pending, distinct, ⟨before, granted⟩, after, stats, swept, run,
    ?_⟩
  rw [canceled, after.granted_iff, deadline]
  decide

end Store

end ReleaseUpload
