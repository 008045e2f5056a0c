import Mathlib.Algebra.Order.Floor.Div
import ReleaseUpload.Proofs.Store.Accounting

/-!
Sweeps at one instant, one after another. Each of them does as much as its limit lets it, so what is
left to do shrinks by the limit, whichever sessions are visited first. `sweeps_drain` says after how
many sweeps nothing is left, and that the store is then the same for all orders of visits.
-/

namespace ReleaseUpload

namespace Reaper

/-- The orders in which one sweep visits the store. -/
structure Round where
  listing : Store.Visit
  eviction : Store.Visit

/-- Sweeps at one instant, one after another. -/
def sweepAll (settings : ReaperSettings) (now : Instant) : List Round → Store.Action (List Stats)
  | [] => return []
  | round :: rest => do
    let stats ← sweep (.ofVisits round.listing round.eviction) settings now
    let others ← sweepAll settings now rest
    return stats :: others

end Reaper

namespace Store

/-- The sessions of the store that are overdue. -/
def overdue (store : Store) (now : Instant) : List Handle :=
  (store.sessions.filter (store.holds (isOverdue now))).map (·.2)

/-- The identifiers of all sessions of the store that are past their deadline. -/
def late (store : Store) (now : Instant) : List SessionId :=
  (store.sessions.filter (store.holds (·.isExpired now))).map (·.1)

/-- The store as a sweep without a limit would leave it. -/
def drained (store : Store) (evicts : Bool) (now : Instant) : Store :=
  let reaped := store.reapAll now (store.overdue now)
  if evicts then reaped.without (store.late now) else reaped

/-- How many sessions are still to be canceled or, where sweeps evict, to be evicted. One that is
canceled has to be evicted in its turn. -/
def work (store : Store) (evicts : Bool) (now : Instant) : Nat :=
  store.count (isOverdue now) + if evicts then store.count (isEvictable now) else 0

/-- The reaper can reach every session of the store and every file in it. -/
structure Sweepable (store : Store) : Prop where
  consistent : Consistent store
  distinct : ∀ id handle session, Stored store id handle session →
    (session.files.map (·.id)).Nodup

/-! Visits and removals. -/

theorem map_id_reaped (now : Instant) (session : UploadSession) :
    (session.reaped now).files.map (·.id) = session.files.map (·.id) := by
  rw [UploadSession.reaped, List.map_map]
  apply List.map_congr_left
  intro file found
  rw [Function.comp_apply, FileUpload.reaped]
  split <;> rfl

theorem isOverdue_reaped (now : Instant) (session : UploadSession) :
    isOverdue now (session.reaped now) = false := Bool.and_false _

theorem isExpired_ite_reaped (now : Instant) (session : UploadSession) (visited : Prop)
    [Decidable visited] :
    (if visited then session.reaped now else session).isExpired now = session.isExpired now := by
  split <;> rfl

theorem reapAll_append (store : Store) (now : Instant) (first second : List Handle) :
    store.reapAll now (first ++ second) = (store.reapAll now first).reapAll now second :=
  List.foldl_append

theorem reapAll_without (store : Store) (ids : List SessionId) (now : Instant)
    (handles : List Handle) :
    (store.without ids).reapAll now handles = (store.reapAll now handles).without ids := by
  induction handles generalizing store with
  | nil => rfl
  | cons handle rest inductionHypothesis =>
    exact inductionHypothesis (store.touch handle (.reap now))

/-- It does not matter in which order different overdue sessions are visited. -/
theorem reapAll_congr {store : Store} {now : Instant} {first second : List Handle}
    (apart : first.Nodup) (apartToo : second.Nodup)
    (due : ∀ handle ∈ second, store.Due now handle)
    (same : ∀ handle, handle ∈ first ↔ handle ∈ second) :
    store.reapAll now first = store.reapAll now second := by
  have dueToo : ∀ handle ∈ first, store.Due now handle :=
    fun handle listed => due handle ((same handle).mp listed)
  have records : (store.reapAll now first).records = (store.reapAll now second).records := by
    apply List.ext_getElem?
    intro handle
    have one := record?_reapAll_of_due apart dueToo handle
    have two := record?_reapAll_of_due apartToo due handle
    simp only [same handle] at one
    exact one.trans two.symm
  rw [reapAll_same store now first, reapAll_same store now second, records]

theorem without_without (store : Store) (first second : List SessionId) :
    (store.without first).without second = store.without (first ++ second) := by
  simp only [without, List.filter_filter, List.mem_append, not_or, Bool.decide_and, Bool.and_comm]

theorem without_congr {store : Store} {first second : List SessionId}
    (same : ∀ id, id ∈ first ↔ id ∈ second) : store.without first = store.without second := by
  simp only [without, same]

theorem length_expired (store : Store) (visit : Visit) (now : Instant) (limit : Nat) :
    (store.expired visit now limit).length = min limit (store.count (isOverdue now)) := by
  rw [expired, List.length_map, length_take_filter_arrange]

namespace Consistent

variable {store : Store} (consistent : Consistent store)
include consistent

theorem mem_filter_holds_iff {property : UploadSession → Bool} {entry : Entry} :
    entry ∈ store.sessions.filter (store.holds property) ↔
      ∃ session, Stored store entry.1 entry.2 session ∧ property session = true := by
  rw [List.mem_filter, holds_iff, ← consistent.get?_eq_some_iff]
  constructor
  · rintro ⟨found, session, held, suits⟩
    exact ⟨session, ⟨found, held⟩, suits⟩
  · rintro ⟨session, ⟨found, held⟩, suits⟩
    exact ⟨found, session, held, suits⟩

theorem mem_overdue_iff {now : Instant} {handle : Handle} :
    handle ∈ store.overdue now ↔
      ∃ id session, Stored store id handle session ∧ isOverdue now session = true := by
  simp [overdue, List.mem_map, consistent.mem_filter_holds_iff]

theorem mem_late_iff {now : Instant} {id : SessionId} :
    id ∈ store.late now ↔
      ∃ handle session, Stored store id handle session ∧ session.isExpired now = true := by
  simp [late, List.mem_map, consistent.mem_filter_holds_iff]

theorem count_eq_zero_iff {property : UploadSession → Bool} :
    store.count property = 0 ↔
      ∀ id handle session, Stored store id handle session → property session = false := by
  rw [count, List.countP_eq_length_filter, List.length_eq_zero_iff,
    List.eq_nil_iff_forall_not_mem, Prod.forall]
  simp only [consistent.mem_filter_holds_iff, not_exists, not_and, Bool.not_eq_true]

theorem overdue_nodup (now : Instant) : (store.overdue now).Nodup :=
  consistent.handles_nodup.sublist (List.filter_sublist.map _)

end Consistent

namespace Sweepable

variable {store : Store} (sweepable : Sweepable store)
include sweepable

theorem due_of_mem_overdue {now : Instant} :
    ∀ handle ∈ store.overdue now, store.Due now handle := by
  intro handle listed
  obtain ⟨id, session, stored, late⟩ := sweepable.consistent.mem_overdue_iff.mp listed
  exact ⟨session, stored.held, late, sweepable.distinct id handle session stored⟩

/-! One sweep. -/

section

variable (listing eviction : Visit) (settings : ReaperSettings) (now : Instant)

theorem stored_swept_iff {id : SessionId} {handle : Handle} {later : UploadSession} :
    Stored (store.swept listing eviction settings now) id handle later ↔
      ∃ session, Stored store id handle session ∧
        id ∉ store.evicted listing eviction settings now ∧
        (if handle ∈ store.expired listing now settings.batchSize.toNat
          then session.reaped now else session) = later := by
  have record := record?_swept sweepable.consistent sweepable.distinct listing eviction settings now
    handle
  constructor
  · rintro ⟨found, held⟩
    obtain ⟨known, kept⟩ := sweepable.consistent.get?_swept_eq_some_iff.mp found
    rw [record, Option.map_eq_some_iff] at held
    obtain ⟨session, heldBefore, same⟩ := held
    exact ⟨session, ⟨known, heldBefore⟩, kept, same⟩
  · rintro ⟨session, stored, kept, rfl⟩
    refine ⟨sweepable.consistent.get?_swept_eq_some_iff.mpr ⟨stored.found, kept⟩, ?_⟩
    rw [record, stored.held, Option.map_some]

theorem swept : Sweepable (store.swept listing eviction settings now) where
  consistent := by
    rw [sweepable.consistent.swept_eq_without]
    exact (sweepable.consistent.reapAll now _).without _
  distinct id handle later stored := by
    obtain ⟨session, storedBefore, -, rfl⟩ :=
      (sweepable.stored_swept_iff listing eviction settings now).mp stored
    have distinct := sweepable.distinct id handle session storedBefore
    split
    · rw [map_id_reaped]
      exact distinct
    · exact distinct

/-- The session behind an entry that a sweep takes out, as it is after the visits. -/
theorem settled_of_mem_evicted {id : SessionId} {handle : Handle} {session : UploadSession}
    (gone : id ∈ store.evicted listing eviction settings now)
    (stored : Stored store id handle session) :
    isEvictable now (if handle ∈ store.expired listing now settings.batchSize.toNat
      then session.reaped now else session) = true := by
  obtain ⟨-, later, held, settled⟩ := sweepable.consistent.record?_of_mem_evicted gone stored.found
  rw [record?_swept sweepable.consistent sweepable.distinct, stored.held, Option.map_some] at held
  rw [Option.some.inj held]
  exact settled

/-- What a sweep lists or leaves is what was overdue. -/
theorem mem_expired_append_overdue_iff (handle : Handle) :
    handle ∈ store.expired listing now settings.batchSize.toNat ++
        (store.swept listing eviction settings now).overdue now ↔
      handle ∈ store.overdue now := by
  have after := sweepable.swept listing eviction settings now
  rw [List.mem_append, sweepable.consistent.mem_overdue_iff, after.consistent.mem_overdue_iff]
  constructor
  · rintro (listed | ⟨id, later, stored, late⟩)
    · exact sweepable.consistent.stored_of_mem_expired listed
    · obtain ⟨session, storedBefore, -, rfl⟩ :=
        (sweepable.stored_swept_iff listing eviction settings now).mp stored
      split at late
      · rw [isOverdue_reaped] at late
        cases late
      · exact ⟨id, session, storedBefore, late⟩
  · rintro ⟨id, session, stored, late⟩
    by_cases listed : handle ∈ store.expired listing now settings.batchSize.toNat
    · exact .inl listed
    · refine .inr ⟨id, session, ?_, late⟩
      refine (sweepable.stored_swept_iff listing eviction settings now).mpr
        ⟨session, stored, ?_, if_neg listed⟩
      intro gone
      have settled := sweepable.settled_of_mem_evicted listing eviction settings now gone stored
      rw [if_neg listed, isEvictable_eq_false_of_isOverdue late] at settled
      cases settled

/-- What a sweep evicts or leaves is what was past its deadline. -/
theorem mem_evicted_append_late_iff (id : SessionId) :
    id ∈ store.evicted listing eviction settings now ++
        (store.swept listing eviction settings now).late now ↔
      id ∈ store.late now := by
  have after := sweepable.swept listing eviction settings now
  rw [List.mem_append, sweepable.consistent.mem_late_iff, after.consistent.mem_late_iff]
  constructor
  · rintro (gone | ⟨handle, later, stored, late⟩)
    · obtain ⟨-, handle, later, reaped, -⟩ := sweepable.consistent.stored_of_mem_evicted gone
      have found := reaped.found
      rw [get?_reapAll] at found
      obtain ⟨session, stored⟩ := sweepable.consistent.exists_stored found
      have settled := sweepable.settled_of_mem_evicted listing eviction settings now gone stored
      rw [isEvictable, Bool.and_eq_true, isExpired_ite_reaped] at settled
      exact ⟨handle, session, stored, settled.1⟩
    · obtain ⟨session, storedBefore, -, rfl⟩ :=
        (sweepable.stored_swept_iff listing eviction settings now).mp stored
      rw [isExpired_ite_reaped] at late
      exact ⟨handle, session, storedBefore, late⟩
  · rintro ⟨handle, session, stored, late⟩
    by_cases gone : id ∈ store.evicted listing eviction settings now
    · exact .inl gone
    · have left := (sweepable.stored_swept_iff listing eviction settings now).mpr
        ⟨session, stored, gone, rfl⟩
      refine .inr ⟨handle, _, left, ?_⟩
      rw [isExpired_ite_reaped]
      exact late

/-- A sweep does not change where sweeps lead. -/
theorem drained_swept :
    (store.swept listing eviction settings now).drained settings.evictTerminal now =
      store.drained settings.evictTerminal now := by
  have after := sweepable.swept listing eviction settings now
  have apart : (store.expired listing now settings.batchSize.toNat ++
      (store.swept listing eviction settings now).overdue now).Nodup := by
    refine List.nodup_append.mpr ⟨sweepable.consistent.expired_nodup listing now _,
      after.consistent.overdue_nodup now, ?_⟩
    rintro handle listed other left rfl
    obtain ⟨id, later, stored, late⟩ := after.consistent.mem_overdue_iff.mp left
    obtain ⟨session, -, -, rfl⟩ :=
      (sweepable.stored_swept_iff listing eviction settings now).mp stored
    rw [if_pos listed, isOverdue_reaped] at late
    cases late
  have visits :
      (store.swept listing eviction settings now).reapAll now
          ((store.swept listing eviction settings now).overdue now) =
        (store.reapAll now (store.overdue now)).without
          (store.evicted listing eviction settings now) := by
    rw [← reapAll_congr apart (sweepable.consistent.overdue_nodup now)
      sweepable.due_of_mem_overdue
      (sweepable.mem_expired_append_overdue_iff listing eviction settings now), reapAll_append,
      ← reapAll_without, ← sweepable.consistent.swept_eq_without]
  simp only [drained, visits]
  split
  · rw [without_without]
    exact without_congr (sweepable.mem_evicted_append_late_iff listing eviction settings now)
  · rename_i keeps
    rw [evicted, if_neg keeps, without_nil]

/-! What is left to do. -/

theorem count_overdue_swept :
    store.count (isOverdue now) =
      (store.swept listing eviction settings now).count (isOverdue now) +
        (store.expired listing now settings.batchSize.toNat).length := by
  rw [count_swept_of_not_evictable sweepable.consistent]
  · apply count_eq_add_of_lost sweepable.consistent sweepable.distinct
    intro session late
    exact ⟨late, isOverdue_reaped now session⟩
  · intro session settled
    rw [isEvictable, Bool.and_eq_true] at settled
    rw [isOverdue, settled.2, Bool.not_true, Bool.and_false]

theorem count_evictable_swept :
    store.count (isEvictable now) +
        (store.expired listing now settings.batchSize.toNat).length =
      (store.swept listing eviction settings now).count (isEvictable now) +
        (store.evicted listing eviction settings now).length := by
  have still := sweepable.consistent.reapAll now
    (store.expired listing now settings.batchSize.toNat)
  rw [← count_evictable_eq_add sweepable.consistent sweepable.distinct,
    sweepable.consistent.swept_eq_without, count, without, count, List.countP_filter]
  apply countP_eq_add still.ids
    (sweepable.consistent.evicted_nodup listing now eviction settings)
  · intro id gone
    obtain ⟨-, handle, session, stored, -⟩ := sweepable.consistent.stored_of_mem_evicted gone
    exact List.mem_map.mpr ⟨(id, handle), still.get?_eq_some_iff.mp stored.found, rfl⟩
  · intro entry found gone
    obtain ⟨-, handle, session, stored, settled⟩ :=
      sweepable.consistent.stored_of_mem_evicted gone
    obtain rfl := still.handle_unique found (still.get?_eq_some_iff.mp stored.found)
    refine ⟨holds_iff.mpr ⟨session, stored.held, settled⟩, ?_⟩
    simp [gone]
  · intro entry found kept
    simp only [kept, not_false_eq_true, decide_true, Bool.and_true]
    rfl

/-- Each sweep takes its limit off what is to be done. -/
theorem work_swept :
    (store.swept listing eviction settings now).work settings.evictTerminal now =
      store.work settings.evictTerminal now - settings.batchSize.toNat := by
  have listed := store.length_expired listing now settings.batchSize.toNat
  have canceled := sweepable.count_overdue_swept listing eviction settings now
  have settled := sweepable.count_evictable_swept listing eviction settings now
  have reaped := count_evictable_eq_add sweepable.consistent sweepable.distinct listing now
    settings.batchSize.toNat
  have gone := store.length_evicted listing eviction settings now
  dsimp only at reaped gone
  rw [reaped] at gone
  rw [work, work]
  split at gone
  · rename_i evicts
    rw [if_pos evicts, if_pos evicts]
    omega
  · rename_i keeps
    rw [if_neg keeps, if_neg keeps]
    omega

end

/-! The store in the end. -/

theorem mem_overdue_iff_of_stored {now : Instant} {id : SessionId} {handle : Handle}
    {session : UploadSession} (stored : Stored store id handle session) :
    handle ∈ store.overdue now ↔ isOverdue now session = true := by
  rw [sweepable.consistent.mem_overdue_iff]
  constructor
  · rintro ⟨other, same, storedToo, late⟩
    obtain rfl := Option.some.inj (storedToo.held.symm.trans stored.held)
    exact late
  · intro late
    exact ⟨id, session, stored, late⟩

variable (evicts : Bool) (now : Instant)

theorem record?_drained (handle : Handle) :
    (store.drained evicts now).record? handle = (store.record? handle).map fun session =>
      if handle ∈ store.overdue now then session.reaped now else session := by
  have visited := record?_reapAll_of_due (sweepable.consistent.overdue_nodup now)
    sweepable.due_of_mem_overdue handle
  rw [drained]
  split
  · exact visited
  · exact visited

theorem get?_drained_eq_some_iff {id : SessionId} {handle : Handle} :
    (store.drained evicts now).get? id = some handle ↔
      store.get? id = some handle ∧ (evicts = true → id ∉ store.late now) := by
  have still := sweepable.consistent.reapAll now (store.overdue now)
  rw [drained]
  split
  · rename_i removes
    rw [still.get?_without_eq_some_iff, get?_reapAll]
    simp [removes]
  · rename_i keeps
    rw [get?_reapAll]
    simp [keeps]

theorem stored_drained_iff {id : SessionId} {handle : Handle} {later : UploadSession} :
    Stored (store.drained evicts now) id handle later ↔
      ∃ session, Stored store id handle session ∧
        (evicts = true → session.isExpired now = false) ∧
        (if isOverdue now session = true then session.reaped now else session) = later := by
  have ofStored : ∀ session, Stored store id handle session →
      (id ∉ store.late now ↔ session.isExpired now = false) := by
    intro session stored
    rw [← Bool.not_eq_true, not_iff_not, sweepable.consistent.mem_late_iff]
    constructor
    · rintro ⟨other, same, storedToo, late⟩
      obtain rfl := Option.some.inj (storedToo.found.symm.trans stored.found)
      obtain rfl := Option.some.inj (storedToo.held.symm.trans stored.held)
      exact late
    · intro late
      exact ⟨handle, session, stored, late⟩
  constructor
  · rintro ⟨found, held⟩
    obtain ⟨known, kept⟩ := (sweepable.get?_drained_eq_some_iff evicts now).mp found
    rw [sweepable.record?_drained, Option.map_eq_some_iff] at held
    obtain ⟨session, heldBefore, same⟩ := held
    have stored : Stored store id handle session := ⟨known, heldBefore⟩
    simp only [sweepable.mem_overdue_iff_of_stored stored] at same
    exact ⟨session, stored, fun removes => (ofStored session stored).mp (kept removes), same⟩
  · rintro ⟨session, stored, kept, rfl⟩
    refine ⟨(sweepable.get?_drained_eq_some_iff evicts now).mpr ⟨stored.found, ?_⟩, ?_⟩
    · exact fun removes => (ofStored session stored).mpr (kept removes)
    · rw [sweepable.record?_drained, stored.held, Option.map_some]
      simp only [sweepable.mem_overdue_iff_of_stored stored]

theorem drained : Sweepable (store.drained evicts now) where
  consistent := by
    have still := sweepable.consistent.reapAll now (store.overdue now)
    rw [Store.drained]
    split
    · exact still.without _
    · exact still
  distinct id handle later stored := by
    obtain ⟨session, storedBefore, -, rfl⟩ := (sweepable.stored_drained_iff evicts now).mp stored
    have distinct := sweepable.distinct id handle session storedBefore
    split
    · rw [map_id_reaped]
      exact distinct
    · exact distinct

theorem work_drained : (store.drained evicts now).work evicts now = 0 := by
  have after := sweepable.drained evicts now
  have canceled : (store.drained evicts now).count (isOverdue now) = 0 := by
    rw [after.consistent.count_eq_zero_iff]
    intro id handle later stored
    obtain ⟨session, -, -, rfl⟩ := (sweepable.stored_drained_iff evicts now).mp stored
    split
    · exact isOverdue_reaped now session
    · rename_i punctual
      exact eq_false_of_ne_true punctual
  rw [work, canceled, Nat.zero_add, ite_eq_right_iff]
  intro removes
  rw [after.consistent.count_eq_zero_iff]
  intro id handle later stored
  obtain ⟨session, -, kept, rfl⟩ := (sweepable.stored_drained_iff evicts now).mp stored
  rw [isEvictable, isExpired_ite_reaped, kept removes, Bool.false_and]

/-! Nothing left to do. -/

section

variable {evicts : Bool} {now : Instant} (idle : store.work evicts now = 0)
include idle

theorem drained_eq_self : store.drained evicts now = store := by
  obtain ⟨canceled, gone⟩ := Nat.add_eq_zero_iff.mp idle
  have punctual := sweepable.consistent.count_eq_zero_iff.mp canceled
  have unlisted : store.overdue now = [] := by
    rw [List.eq_nil_iff_forall_not_mem]
    intro handle listed
    obtain ⟨id, session, stored, late⟩ := sweepable.consistent.mem_overdue_iff.mp listed
    rw [punctual id handle session stored] at late
    cases late
  rw [Store.drained, unlisted, reapAll_nil]
  split
  · rename_i removes
    rw [if_pos removes] at gone
    have unsettled := sweepable.consistent.count_eq_zero_iff.mp gone
    have none : store.late now = [] := by
      rw [List.eq_nil_iff_forall_not_mem]
      intro id listed
      obtain ⟨handle, session, stored, late⟩ := sweepable.consistent.mem_late_iff.mp listed
      have unopened := punctual id handle session stored
      have closed := unsettled id handle session stored
      rw [isOverdue, late, Bool.true_and, Bool.not_eq_false'] at unopened
      rw [isEvictable, late, unopened] at closed
      cases closed
    rw [none, without_nil]
  · rfl

end

theorem sweep_run_of_idle {settings : ReaperSettings} {now : Instant}
    (idle : store.work settings.evictTerminal now = 0) (listing eviction : Visit) :
    (Reaper.sweep (.ofVisits listing eviction) settings now).run store = .ok {} store := by
  obtain ⟨canceled, gone⟩ := Nat.add_eq_zero_iff.mp idle
  have unlisted : store.expired listing now settings.batchSize.toNat = [] := by
    rw [← List.length_eq_zero_iff, length_expired, canceled, Nat.min_zero]
  have kept : store.evicted listing eviction settings now = [] := by
    rw [← List.length_eq_zero_iff, length_evicted, unlisted, reapAll_nil]
    split
    · rename_i removes
      rw [if_pos removes] at gone
      rw [gone, Nat.min_zero]
    · rfl
  rw [sweep_run_of_distinct sweepable.consistent sweepable.distinct,
    swept_eq_self sweepable.consistent listing now eviction settings unlisted kept, unlisted, kept,
    filesChanged_self]
  rfl

/-! Runs of sweeps. -/

theorem sweepAll_run (settings : ReaperSettings) (now : Instant) {rounds : List Reaper.Round}
    (enough : store.work settings.evictTerminal now ≤ settings.batchSize.toNat * rounds.length) :
    ∃ stats, (Reaper.sweepAll settings now rounds).run store =
      .ok stats (store.drained settings.evictTerminal now) := by
  induction rounds generalizing store with
  | nil =>
    have idle : store.work settings.evictTerminal now = 0 := by simpa using enough
    rw [sweepable.drained_eq_self idle]
    exact ⟨[], rfl⟩
  | cons round rest inductionHypothesis =>
    have left : (store.swept round.listing round.eviction settings now).work
        settings.evictTerminal now ≤ settings.batchSize.toNat * rest.length := by
      rw [sweepable.work_swept]
      rw [List.length_cons, Nat.mul_succ] at enough
      omega
    obtain ⟨others, run⟩ :=
      inductionHypothesis (sweepable.swept round.listing round.eviction settings now) left
    obtain ⟨stats, first, -⟩ := sweep_run store round.listing round.eviction settings now
    rw [sweepable.drained_swept] at run
    refine ⟨stats :: others, ?_⟩
    rw [Reaper.sweepAll, EStateM.run_bind, first]
    dsimp only
    rw [EStateM.run_bind, run]
    rfl

end Sweepable

/-- A store in which sweeps have done all that was to be done. -/
structure Drained (evicts : Bool) (now : Instant) (before after : Store) : Prop where
  held : ∀ id handle, after.get? id = some handle → ∃ session, Stored after id handle session
  tokens : ∀ token id, after.tokens.lookup token = some id ↔
    ∃ handle session, Stored after id handle session ∧ session.token = token
  closed : ∀ id handle session, Stored after id handle session → session.expiration < now →
    ¬(session.state = .pending ∨ session.state = .error)
  /-- With evictions what is left is exactly what is not past its deadline, as it was. -/
  left : evicts = true → ∀ id handle session, Stored after id handle session ↔
    Stored before id handle session ∧ ¬session.expiration < now
  /-- Without evictions nothing is removed. -/
  kept : evicts = false → (∀ id, after.get? id = before.get? id) ∧
    ∀ token, after.tokens.lookup token = before.tokens.lookup token

theorem Sweepable.drained_drained {store : Store} (sweepable : Sweepable store) (evicts : Bool)
    (now : Instant) : Drained evicts now store (store.drained evicts now) := by
  have after := sweepable.drained evicts now
  refine ⟨fun id handle found => after.consistent.exists_stored found,
    fun token id => after.consistent.lookup_tokens_iff, ?_, ?_, ?_⟩
  · intro id handle later stored late opened
    obtain ⟨session, -, -, rfl⟩ := (sweepable.stored_drained_iff evicts now).mp stored
    have overdue := isOverdue_iff.mpr ⟨late, opened⟩
    split at overdue
    · rw [isOverdue_reaped] at overdue
      cases overdue
    · contradiction
  · intro removes id handle later
    rw [sweepable.stored_drained_iff]
    constructor
    · rintro ⟨session, stored, kept, rfl⟩
      have punctual := kept removes
      rw [isOverdue, punctual, Bool.false_and, if_neg Bool.false_ne_true]
      rw [UploadSession.isExpired, decide_eq_false_iff_not] at punctual
      exact ⟨stored, punctual⟩
    · rintro ⟨stored, punctual⟩
      have unexpired : later.isExpired now = false := by
        rw [UploadSession.isExpired, decide_eq_false_iff_not]
        exact punctual
      refine ⟨later, stored, fun _ => unexpired, ?_⟩
      rw [isOverdue, unexpired, Bool.false_and, if_neg Bool.false_ne_true]
  · rintro rfl
    have same := store.reapAll_same now (store.overdue now)
    rw [Store.drained, if_neg Bool.false_ne_true]
    refine ⟨store.get?_reapAll now _, fun token => ?_⟩
    rw [same]

/-- Sweeps of a reachable store at one instant drain it. When there have been as many as the
sessions to be ended fill batches, there is nothing left to do, and it makes no difference which
sessions were visited first: all runs of sweeps end in the same store, which further sweeps leave as
it is. -/
theorem sweeps_drain {store : Store} (reachable : Reachable store)
    (distinct : ∀ id handle session, Stored store id handle session →
      (session.files.map (·.id)).Nodup)
    (settings : ReaperSettings) (positive : 0 < settings.batchSize.toNat) (now : Instant) :
    let overdue := store.count fun session =>
      session.expiration < now ∧ (session.state = .pending ∨ session.state = .error)
    let settled := store.count fun session =>
      session.expiration < now ∧ (session.state = .published ∨ session.state = .canceled)
    let enough :=
      if settings.evictTerminal then (overdue + settled) ⌈/⌉ settings.batchSize.toNat
      else overdue ⌈/⌉ settings.batchSize.toNat
    ∃ final, Drained settings.evictTerminal now store final ∧
      (∀ rounds, enough ≤ rounds.length →
        ∃ stats, (Reaper.sweepAll settings now rounds).run store = .ok stats final) ∧
      ∀ listing eviction,
        (Reaper.sweep (.ofVisits listing eviction) settings now).run final = .ok {} final := by
  intro overdue settled enough
  have sweepable : Sweepable store := ⟨reachable.consistent, distinct⟩
  have work : store.work settings.evictTerminal now =
      if settings.evictTerminal then overdue + settled else overdue := by
    rw [Store.work, isOverdue_eq, isEvictable_eq]
    split <;> rfl
  have batches : enough = store.work settings.evictTerminal now ⌈/⌉ settings.batchSize.toNat := by
    rw [work]
    exact (apply_ite (· ⌈/⌉ settings.batchSize.toNat) _ _ _).symm
  refine ⟨store.drained settings.evictTerminal now, sweepable.drained_drained _ now, ?_, ?_⟩
  · intro rounds done
    rw [batches, ceilDiv_le_iff_le_mul positive] at done
    exact sweepable.sweepAll_run settings now done
  · exact (sweepable.drained _ now).sweep_run_of_idle (sweepable.work_drained _ now)

/-- Two sessions are past their deadline, and a sweep ends one at a time. -/
theorem expiringRun_drains :
    let store := empty.after expiringRun
    let settings : ReaperSettings := { batchSize := 1 }
    let now : Instant := .ofParts 1700100000 0
    Reachable store ∧
      (∀ id handle session, Stored store id handle session →
        (session.files.map (·.id)).Nodup) ∧
      0 < settings.batchSize.toNat ∧
      ∃ final, Drained true now store final ∧
        (∀ rounds, 2 ≤ rounds.length →
          ∃ stats, (Reaper.sweepAll settings now rounds).run store = .ok stats final) ∧
        ∀ listing eviction,
          (Reaper.sweep (.ofVisits listing eviction) settings now).run final = .ok {} final := by
  intro store settings now
  have reachable : Reachable store := ⟨expiringRun, rfl⟩
  have distinct : ∀ id handle session, Stored store id handle session →
      (session.files.map (·.id)).Nodup :=
    fun id handle session stored => expiringRun_distinct stored
  have positive : 0 < settings.batchSize.toNat := by decide
  have batches : ((store.count fun session =>
        session.expiration < now ∧ (session.state = .pending ∨ session.state = .error)) +
      store.count fun session =>
        session.expiration < now ∧ (session.state = .published ∨ session.state = .canceled)) ⌈/⌉
      settings.batchSize.toNat = 2 := by
    obtain ⟨overdue, settled⟩ := count_expiringRun
    rw [overdue, settled]
    decide
  obtain ⟨final, drained, same, further⟩ :=
    sweeps_drain reachable distinct settings positive now
  refine ⟨reachable, distinct, positive, final, drained, fun rounds enough => ?_, further⟩
  apply same rounds
  rw [if_pos rfl, batches]
  exact enough

end Store

end ReleaseUpload
