import ReleaseUpload.Proofs.Store.Indexes

/-!
The exact effect of a sweep. It cancels the sessions that it has listed, each with its overdue
files, and then takes sessions out that are past their deadline and settled. Everything else in the
store is as it was.
-/

namespace ReleaseUpload.Store

theorem isOverdue_iff {now : Instant} {session : UploadSession} :
    isOverdue now session = true ↔
      session.expiration < now ∧ (session.state = .pending ∨ session.state = .error) := by
  rw [isOverdue, UploadSession.isExpired, Bool.and_eq_true, decide_eq_true_iff]
  apply and_congr_right
  intro late
  cases session.state <;> simp [UploadSession.State.isTerminal]

theorem isEvictable_iff {now : Instant} {session : UploadSession} :
    isEvictable now session = true ↔
      session.expiration < now ∧ (session.state = .published ∨ session.state = .canceled) := by
  rw [isEvictable, UploadSession.isExpired, Bool.and_eq_true, decide_eq_true_iff]
  apply and_congr_right
  intro late
  cases session.state <;> simp [UploadSession.State.isTerminal]

theorem holds_iff {store : Store} {property : UploadSession → Bool} {entry : Entry} :
    store.holds property entry = true ↔
      ∃ session, store.record? entry.2 = some session ∧ property session = true := by
  rw [holds, Option.any_eq_true]

/-! The visits. -/

theorem reapAll_same (store : Store) (now : Instant) (handles : List Handle) :
    store.reapAll now handles = { store with records := (store.reapAll now handles).records } := by
  induction handles generalizing store with
  | nil => rfl
  | cons handle rest inductionHypothesis =>
    exact inductionHypothesis (store.touch handle (.reap now))

theorem get?_reapAll (store : Store) (now : Instant) (handles : List Handle) (id : SessionId) :
    (store.reapAll now handles).get? id = store.get? id := by
  rw [reapAll_same]
  rfl

theorem apply_reap_of_overdue {session : UploadSession} {now : Instant}
    (late : isOverdue now session = true) (distinct : (session.files.map (·.id)).Nodup) :
    session.apply (.reap now) = session.reaped now := by
  rw [UploadSession.apply, if_pos late]
  exact leaves_of_ok
    (UploadSession.cancelExpired_run now distinct (isTerminal_of_isOverdue late))

/-- The session behind the handle is overdue, and the reaper can reach each of its files. -/
def Due (store : Store) (now : Instant) (handle : Handle) : Prop :=
  ∃ session, store.record? handle = some session ∧ isOverdue now session = true ∧
    (session.files.map (·.id)).Nodup

theorem Due.touch {store : Store} {now : Instant} {handle other : Handle}
    (due : store.Due now other) (apart : handle ≠ other) (step : UploadSession.Step) :
    (store.touch handle step).Due now other := by
  rw [Due, record?_touch, if_neg apart]
  exact due

/-- Visits to different sessions are a step of each of them. -/
theorem record?_reapAll_of_nodup {handles : List Handle} (apart : handles.Nodup) (store : Store)
    (now : Instant) (handle : Handle) :
    (store.reapAll now handles).record? handle =
      (store.record? handle).map fun session =>
        if handle ∈ handles then session.apply (.reap now) else session := by
  induction handles generalizing store with
  | nil => simp
  | cons first rest inductionHypothesis =>
    obtain ⟨fresh, apart⟩ := List.nodup_cons.mp apart
    rw [reapAll_cons, inductionHypothesis apart, record?_touch]
    by_cases same : first = handle
    · subst same
      rw [if_pos rfl, Option.map_map]
      simp [fresh, Function.comp_def]
    · rw [if_neg same]
      simp [Ne.symm same]

/-- Visits to different overdue sessions cancel each of them. -/
theorem record?_reapAll_of_due {store : Store} {now : Instant} {handles : List Handle}
    (apart : handles.Nodup) (due : ∀ handle ∈ handles, store.Due now handle) (handle : Handle) :
    (store.reapAll now handles).record? handle =
      (store.record? handle).map fun session =>
        if handle ∈ handles then session.reaped now else session := by
  rw [record?_reapAll_of_nodup apart]
  by_cases listed : handle ∈ handles
  · obtain ⟨session, held, late, distinct⟩ := due handle listed
    rw [held, Option.map_some, Option.map_some, if_pos listed, if_pos listed,
      apply_reap_of_overdue late distinct]
  · simp only [listed, if_false]

/-- The identifiers that a sweep takes out of the indexes. -/
def evicted (store : Store) (listing eviction : Visit) (settings : ReaperSettings)
    (now : Instant) : List SessionId :=
  let reaped := store.reapAll now (store.expired listing now settings.batchSize.toNat)
  if settings.evictTerminal then
    (reaped.evictable eviction now settings.batchSize.toNat).map (·.1)
  else []

/-! Lookups after a removal. -/

theorem without_nil (store : Store) : store.without [] = store := by
  simp [without]

namespace Consistent

variable {store : Store} (consistent : Consistent store)
include consistent

theorem get?_without_eq_some_iff {ids : List SessionId} {id : SessionId} {handle : Handle} :
    (store.without ids).get? id = some handle ↔ store.get? id = some handle ∧ id ∉ ids := by
  rw [(consistent.without ids).get?_eq_some_iff, consistent.get?_eq_some_iff, Store.without,
    List.mem_filter, decide_eq_true_iff]

theorem lookup_tokens_without_eq_some_iff {ids : List SessionId} {token : Token}
    {id : SessionId} : (store.without ids).tokens.lookup token = some id ↔
      store.tokens.lookup token = some id ∧ id ∉ ids := by
  rw [lookup_eq_some_iff_mem (consistent.without ids).tokens,
    lookup_eq_some_iff_mem consistent.tokens, Store.without, List.mem_filter, decide_eq_true_iff]

theorem handles_nodup : (store.sessions.map (·.2)).Nodup := by
  apply List.Nodup.map_on
  · rintro ⟨first, handle⟩ found ⟨second, same⟩ foundToo rfl
    obtain ⟨token, bears⟩ := consistent.seen first handle found
    rw [consistent.id_unique found bears foundToo bears]
  · exact consistent.ids.of_map _

theorem expired_nodup (visit : Visit) (now : Instant) (limit : Nat) :
    (store.expired visit now limit).Nodup := by
  have arranged := ((visit.perm store.sessions).map (·.2)).nodup_iff.mpr consistent.handles_nodup
  exact arranged.sublist (((List.take_sublist _ _).trans List.filter_sublist).map _)

theorem stored_of_mem_take {visit : Visit} {property : UploadSession → Bool} {limit : Nat}
    {entry : Entry}
    (taken : entry ∈ ((visit.arrange store.sessions).filter (store.holds property)).take limit) :
    ∃ session, Stored store entry.1 entry.2 session ∧ property session = true := by
  obtain ⟨arranged, holds⟩ := List.mem_filter.mp (List.mem_of_mem_take taken)
  obtain ⟨session, held, suits⟩ := holds_iff.mp holds
  have found := consistent.get?_eq_some_iff.mpr ((visit.perm _).mem_iff.mp arranged)
  exact ⟨session, ⟨found, held⟩, suits⟩

theorem stored_of_mem_expired {visit : Visit} {now : Instant} {limit : Nat} {handle : Handle}
    (listed : handle ∈ store.expired visit now limit) :
    ∃ id session, Stored store id handle session ∧ isOverdue now session = true := by
  obtain ⟨entry, taken, rfl⟩ := List.mem_map.mp listed
  exact ⟨entry.1, consistent.stored_of_mem_take taken⟩

theorem stored_of_mem_evictable {visit : Visit} {now : Instant} {limit : Nat} {id : SessionId}
    (listed : id ∈ (store.evictable visit now limit).map (·.1)) :
    ∃ handle session, Stored store id handle session ∧ isEvictable now session = true := by
  obtain ⟨entry, taken, rfl⟩ := List.mem_map.mp listed
  exact ⟨entry.2, consistent.stored_of_mem_take taken⟩

theorem swept_eq_without (listing eviction : Visit) (settings : ReaperSettings) (now : Instant) :
    store.swept listing eviction settings now =
      (store.reapAll now (store.expired listing now settings.batchSize.toNat)).without
        (store.evicted listing eviction settings now) := by
  have still := consistent.reapAll now (store.expired listing now settings.batchSize.toNat)
  simp only [swept, evicted]
  split
  · exact still.dropAll_evictable eviction now _
  · exact (without_nil _).symm

theorem get?_swept_eq_some_iff {listing eviction : Visit} {settings : ReaperSettings}
    {now : Instant} {id : SessionId} {handle : Handle} :
    (store.swept listing eviction settings now).get? id = some handle ↔
      store.get? id = some handle ∧ id ∉ store.evicted listing eviction settings now := by
  have still := consistent.reapAll now (store.expired listing now settings.batchSize.toNat)
  rw [consistent.swept_eq_without, still.get?_without_eq_some_iff, get?_reapAll]

theorem lookup_tokens_swept_eq_some_iff {listing eviction : Visit} {settings : ReaperSettings}
    {now : Instant} {token : Token} {id : SessionId} :
    (store.swept listing eviction settings now).tokens.lookup token = some id ↔
      store.tokens.lookup token = some id ∧
        id ∉ store.evicted listing eviction settings now := by
  have still := consistent.reapAll now (store.expired listing now settings.batchSize.toNat)
  rw [consistent.swept_eq_without, still.lookup_tokens_without_eq_some_iff, reapAll_same]

/-- What is taken out is past its deadline and settled when it goes. -/
theorem stored_of_mem_evicted {listing eviction : Visit} {settings : ReaperSettings}
    {now : Instant} {id : SessionId} (gone : id ∈ store.evicted listing eviction settings now) :
    settings.evictTerminal = true ∧ ∃ handle session,
      Stored (store.reapAll now (store.expired listing now settings.batchSize.toNat)) id handle
        session ∧ isEvictable now session = true := by
  have still := consistent.reapAll now (store.expired listing now settings.batchSize.toNat)
  rw [evicted] at gone
  split at gone
  · rename_i evicts
    exact ⟨evicts, still.stored_of_mem_evictable gone⟩
  · cases gone

theorem record?_of_mem_evicted {listing eviction : Visit} {settings : ReaperSettings}
    {now : Instant} {id : SessionId} {handle : Handle}
    (gone : id ∈ store.evicted listing eviction settings now)
    (found : store.get? id = some handle) :
    settings.evictTerminal = true ∧ ∃ session,
      (store.swept listing eviction settings now).record? handle = some session ∧
        isEvictable now session = true := by
  obtain ⟨evicts, same, session, stored, settled⟩ := consistent.stored_of_mem_evicted gone
  have known := stored.found
  rw [get?_reapAll] at known
  obtain rfl := Option.some.inj (known.symm.trans found)
  refine ⟨evicts, session, ?_, settled⟩
  rw [record?, records_swept]
  exact stored.held

end Consistent

/-- The session was overdue, and has been canceled together with its overdue files. -/
structure Lapsed (now : Instant) (before after : UploadSession) : Prop where
  late : before.expiration < now
  opened : before.state = .pending ∨ before.state = .error
  canceled : after = before.reaped now

/-- What a sweep does to a store: it cancels the sessions that it has listed, and what it takes out
of the indexes is past its deadline and settled. -/
structure SweepEffect (listed : List Handle) (evicts : Bool) (now : Instant)
    (before after : Store) : Prop where
  size : after.records.length = before.records.length
  canceled : ∀ handle ∈ listed, ∃ id session later, Stored before id handle session ∧
    after.record? handle = some later ∧ Lapsed now session later
  unlisted : ∀ handle, handle ∉ listed → after.record? handle = before.record? handle
  ids : ∀ id handle, after.get? id = some handle → before.get? id = some handle
  tokens : ∀ token id, after.tokens.lookup token = some id ↔
    before.tokens.lookup token = some id ∧ (after.get? id).isSome
  removed : ∀ id handle session, Stored before id handle session →
    after.get? id = some handle ∨
      (evicts = true ∧ session.expiration < now ∧
        (∃ later, after.record? handle = some later ∧
          (later.state = .published ∨ later.state = .canceled)) ∧
        after.get? id = none ∧ after.tokens.lookup session.token = none)

namespace SweepEffect

variable {listed : List Handle} {evicts : Bool} {now : Instant} {before after : Store}
  (effect : SweepEffect listed evicts now before after)
include effect

theorem late_of_mem {handle : Handle} (found : handle ∈ listed) {session : UploadSession}
    (held : before.record? handle = some session) :
    session.expiration < now ∧ (session.state = .pending ∨ session.state = .error) := by
  obtain ⟨id, same, later, stored, -, lapsed⟩ := effect.canceled handle found
  obtain rfl := Option.some.inj (stored.held.symm.trans held)
  exact ⟨lapsed.late, lapsed.opened⟩

/-- Before its deadline a session is safe, whatever the deadlines of its files. -/
theorem stored_of_punctual {id : SessionId} {handle : Handle} {session : UploadSession}
    (stored : Stored before id handle session) (punctual : ¬session.expiration < now) :
    Stored after id handle session := by
  have unlisted : handle ∉ listed :=
    fun found => punctual (effect.late_of_mem found stored.held).1
  rcases effect.removed id handle session stored with found | ⟨-, late, -⟩
  · exact ⟨found, (effect.unlisted handle unlisted).trans stored.held⟩
  · exact absurd late punctual

/-- What is published stays as it is. -/
theorem record?_of_published {handle : Handle} {session : UploadSession}
    (held : before.record? handle = some session) (published : session.state = .published) :
    after.record? handle = some session := by
  have unlisted : handle ∉ listed := by
    intro found
    have opened := (effect.late_of_mem found held).2
    rw [published] at opened
    rcases opened with opened | opened <;> cases opened
  exact (effect.unlisted handle unlisted).trans held

end SweepEffect

section

variable {store : Store} (consistent : Consistent store)
  (distinct : ∀ id handle session, Stored store id handle session →
    (session.files.map (·.id)).Nodup)
include consistent distinct

theorem due_of_mem_expired {visit : Visit} {now : Instant} {limit : Nat} :
    ∀ handle ∈ store.expired visit now limit, store.Due now handle := by
  intro handle listed
  obtain ⟨id, session, stored, late⟩ := consistent.stored_of_mem_expired listed
  exact ⟨session, stored.held, late, distinct id handle session stored⟩

theorem record?_swept (listing eviction : Visit) (settings : ReaperSettings) (now : Instant)
    (handle : Handle) :
    (store.swept listing eviction settings now).record? handle =
      (store.record? handle).map fun session =>
        if handle ∈ store.expired listing now settings.batchSize.toNat then session.reaped now
        else session := by
  rw [record?, records_swept]
  exact record?_reapAll_of_due (consistent.expired_nodup listing now _)
    (due_of_mem_expired consistent distinct) handle

theorem sweepEffect_swept (listing eviction : Visit) (settings : ReaperSettings) (now : Instant) :
    SweepEffect (store.expired listing now settings.batchSize.toNat) settings.evictTerminal now
      store (store.swept listing eviction settings now) := by
  have record := record?_swept consistent distinct listing eviction settings now
  refine ⟨?_, ?_, ?_, fun id handle kept => (consistent.get?_swept_eq_some_iff.mp kept).1, ?_, ?_⟩
  · rw [records_swept, length_records_reapAll]
  · intro handle listed
    obtain ⟨id, session, stored, late⟩ := consistent.stored_of_mem_expired listed
    refine ⟨id, session, session.reaped now, stored, ?_, ?_⟩
    · rw [record, stored.held, Option.map_some, if_pos listed]
    · exact ⟨(isOverdue_iff.mp late).1, (isOverdue_iff.mp late).2, rfl⟩
  · intro handle unlisted
    rw [record]
    simp [unlisted]
  · intro token id
    rw [consistent.lookup_tokens_swept_eq_some_iff]
    apply and_congr_right
    intro known
    obtain ⟨handle, session, stored, -⟩ := consistent.lookup_tokens_iff.mp known
    rw [Option.isSome_iff_exists]
    simp [consistent.get?_swept_eq_some_iff, stored.found]
  · intro id handle session stored
    by_cases gone : id ∈ store.evicted listing eviction settings now
    · obtain ⟨evicts, later, left, evictable⟩ := consistent.record?_of_mem_evicted gone stored.found
      obtain ⟨late, closed⟩ := isEvictable_iff.mp evictable
      have expiration : later.expiration = session.expiration := by
        rw [record, stored.held, Option.map_some] at left
        rw [← Option.some.inj left]
        split <;> rfl
      refine .inr ⟨evicts, expiration ▸ late, ⟨later, left, closed⟩, ?_, ?_⟩
      · rw [Option.eq_none_iff_forall_ne_some]
        intro handle kept
        exact (consistent.get?_swept_eq_some_iff.mp kept).2 gone
      · -- An entry that is left was there before, where the token led to the removed session.
        rw [Option.eq_none_iff_forall_ne_some]
        intro other kept
        obtain ⟨known, absent⟩ := consistent.lookup_tokens_swept_eq_some_iff.mp kept
        have own := consistent.lookup_tokens_iff.mpr ⟨handle, session, stored, rfl⟩
        obtain rfl := Option.some.inj (known.symm.trans own)
        exact absent gone
    · exact .inl (consistent.get?_swept_eq_some_iff.mpr ⟨stored.found, gone⟩)

end

/-- A sweep of a reachable store cancels what it lists and takes out what is settled and past its
deadline. A session before its deadline is still stored as it was, and so is what is published, in
the store or not. -/
theorem sweep_effect {store : Store} (reachable : Reachable store)
    (distinct : ∀ id handle session, Stored store id handle session →
      (session.files.map (·.id)).Nodup)
    (listing eviction : Visit) (settings : ReaperSettings) (now : Instant) :
    ∃ stats after,
      (Reaper.sweep (.ofVisits listing eviction) settings now).run store = .ok stats after ∧
      SweepEffect (store.expired listing now settings.batchSize.toNat) settings.evictTerminal now
        store after ∧
      (∀ id handle session, Stored store id handle session → ¬session.expiration < now →
        Stored after id handle session) ∧
      ∀ handle session, store.record? handle = some session → session.state = .published →
        after.record? handle = some session := by
  obtain ⟨stats, run, -⟩ := sweep_run store listing eviction settings now
  have effect := sweepEffect_swept reachable.consistent distinct listing eviction settings now
  refine ⟨stats, _, run, effect, ?_, ?_⟩
  · intro id handle session stored punctual
    exact effect.stored_of_punctual stored punctual
  · intro handle session held published
    exact effect.record?_of_published held published

/-- One session with a file that waits and a file that is complete, and one that is published. -/
def expiringRun : List Step :=
  let start : Instant := .ofParts 1700000000 0
  let declare (id : FileId) : UploadSession.Step :=
    .ask .standard start
      (.create id { filename := "demo-1.0.tar.gz", size := 7 } Mechanism.httpPostName)
  [.insert (shownSession ⟨1#128⟩ "first"),
    .on 0 (declare ⟨1#128⟩),
    .on 0 (declare ⟨2#128⟩),
    .on 0 (.ask .standard start (.file ⟨2#128⟩ .ready)),
    .insert (shownSession ⟨2#128⟩ "second"),
    .on 1 (.ask .standard start .publish)]

theorem expiringRun_distinct {id : SessionId} {handle : Handle} {session : UploadSession}
    (stored : Stored (empty.after expiringRun) id handle session) :
    (session.files.map (·.id)).Nodup := by
  have records : ∀ session ∈ (empty.after expiringRun).records,
      (session.files.map (·.id)).Nodup := by
    decide +kernel
  exact records session (List.mem_of_getElem? stored.held)

theorem expiringRun_sweep_effect :
    let store := empty.after expiringRun
    let now : Instant := .ofParts 1700100000 0
    Reachable store ∧
      (∀ id handle session, Stored store id handle session →
        (session.files.map (·.id)).Nodup) ∧
      ∃ stats after,
        (Reaper.sweep (.ofVisits .inOrder .inOrder) {} now).run store = .ok stats after ∧
        SweepEffect (store.expired .inOrder now 1000) true now store after ∧
        (∀ id handle session, Stored store id handle session → ¬session.expiration < now →
          Stored after id handle session) ∧
        ∀ handle session, store.record? handle = some session → session.state = .published →
          after.record? handle = some session := by
  intro store now
  have reachable : Reachable store := ⟨expiringRun, rfl⟩
  have distinct : ∀ id handle session, Stored store id handle session →
      (session.files.map (·.id)).Nodup :=
    fun id handle session stored => expiringRun_distinct stored
  exact ⟨reachable, distinct, sweep_effect reachable distinct .inOrder .inOrder {} now⟩

end ReleaseUpload.Store
