import ReleaseUpload.Proofs.Store.Visits

/-!
The accounts of a sweep. How many sessions it cancels and how many it evicts depends on how many
there are and on the limit, and not on the order in which they are visited: `sweep_accounts` says
this in numbers. A sweep that reports nothing has left every session and every lookup as it was.
-/

namespace ReleaseUpload.Store

/-! Counting stored sessions. -/

/-- How many sessions of the store have a property. -/
def count (store : Store) (property : UploadSession → Bool) : Nat :=
  store.sessions.countP (store.holds property)

theorem countActive_eq_count (store : Store) :
    store.countActive = store.count fun session => !session.state.isTerminal := by
  rw [countActive, count, List.countP_eq_length_filter]

theorem length_take_filter_arrange (store : Store) (visit : Visit)
    (property : UploadSession → Bool) (limit : Nat) :
    (((visit.arrange store.sessions).filter (store.holds property)).take limit).length =
      min limit (store.count property) := by
  rw [List.length_take, ((visit.perm store.sessions).filter _).length_eq, count,
    List.countP_eq_length_filter]

/-- Where keys are distinct, a property that is lost exactly under some of them is lost as often as
there are keys. -/
theorem countP_eq_add {α Key : Type} [DecidableEq Key] {key : α → Key} {entries : List α}
    {keys : List Key} (distinct : (entries.map key).Nodup) (apart : keys.Nodup)
    (known : keys ⊆ entries.map key) {before after : α → Bool}
    (lost : ∀ entry ∈ entries, key entry ∈ keys → before entry = true ∧ after entry = false)
    (kept : ∀ entry ∈ entries, key entry ∉ keys → after entry = before entry) :
    entries.countP before = entries.countP after + keys.length := by
  have chosen : entries.countP (fun entry => decide (key entry ∈ keys)) = keys.length := by
    have same : ((entries.map key).filter fun other => decide (other ∈ keys)).Perm keys := by
      rw [List.perm_ext_iff_of_nodup (distinct.filter _) apart]
      intro other
      rw [List.mem_filter, decide_eq_true_iff, and_iff_right_iff_imp]
      exact fun listed => known listed
    rw [← same.length_eq, ← List.countP_eq_length_filter, List.countP_map]
    rfl
  rw [← chosen]
  clear distinct known chosen
  induction entries with
  | nil => rfl
  | cons head rest inductionHypothesis =>
    rw [List.forall_mem_cons] at lost kept
    have others := inductionHypothesis lost.2 kept.2
    simp only [List.countP_cons, others]
    by_cases listed : key head ∈ keys
    · obtain ⟨had, lacks⟩ := lost.1 listed
      simp only [had, lacks, listed, decide_true, if_true, Bool.false_eq_true, if_false]
      omega
    · simp only [kept.1 listed, listed, decide_false, Bool.false_eq_true, if_false]
      omega

theorem sessions_reapAll (store : Store) (now : Instant) (handles : List Handle) :
    (store.reapAll now handles).sessions = store.sessions := by
  rw [reapAll_same]

theorem isEvictable_eq_false_of_isOverdue {now : Instant} {session : UploadSession}
    (late : isOverdue now session = true) : isEvictable now session = false := by
  rw [isEvictable, isTerminal_of_isOverdue late, Bool.and_false]

theorem isEvictable_reaped {now : Instant} {session : UploadSession}
    (late : isOverdue now session = true) : isEvictable now (session.reaped now) = true :=
  isEvictable_iff.mpr ⟨(isOverdue_iff.mp late).1, .inr rfl⟩

section

variable {store : Store} {now : Instant} {handles : List Handle} (apart : handles.Nodup)
  (due : ∀ handle ∈ handles, store.Due now handle) (property : UploadSession → Bool)
include apart due

theorem holds_reapAll_of_mem {entry : Entry} (listed : entry.2 ∈ handles) :
    ∃ session, isOverdue now session = true ∧ store.holds property entry = property session ∧
      (store.reapAll now handles).holds property entry = property (session.reaped now) := by
  obtain ⟨session, held, late, -⟩ := due entry.2 listed
  refine ⟨session, late, ?_, ?_⟩
  · rw [holds, held, Option.any_some]
  · rw [holds, record?_reapAll_of_due apart due, held, Option.map_some, if_pos listed,
      Option.any_some]

theorem holds_reapAll_of_not_mem {entry : Entry} (unlisted : entry.2 ∉ handles) :
    (store.reapAll now handles).holds property entry = store.holds property entry := by
  rw [holds, record?_reapAll_of_due apart due, holds]
  simp [unlisted]

end

theorem length_evicted (store : Store) (listing eviction : Visit) (settings : ReaperSettings)
    (now : Instant) :
    let reaped := store.reapAll now (store.expired listing now settings.batchSize.toNat)
    (store.evicted listing eviction settings now).length =
      if settings.evictTerminal then
        min settings.batchSize.toNat (reaped.count (isEvictable now))
      else 0 := by
  intro reaped
  rw [evicted]
  split
  · rw [List.length_map, evictable, length_take_filter_arrange]
  · rfl

section

variable {store : Store} (consistent : Consistent store)
  (distinct : ∀ id handle session, Stored store id handle session →
    (session.files.map (·.id)).Nodup)
  (listing : Visit) (now : Instant) (limit : Nat)
include consistent

theorem Consistent.expired_subset :
    store.expired listing now limit ⊆ store.sessions.map (·.2) := by
  intro handle listed
  obtain ⟨id, session, stored, -⟩ := consistent.stored_of_mem_expired listed
  exact List.mem_map.mpr ⟨(id, handle), consistent.get?_eq_some_iff.mp stored.found, rfl⟩

include distinct

/-- A property that every overdue session has and loses when it is canceled is lost once by each
listed session. -/
theorem count_eq_add_of_lost {property : UploadSession → Bool}
    (lost : ∀ session, isOverdue now session = true →
      property session = true ∧ property (session.reaped now) = false) :
    store.count property =
      (store.reapAll now (store.expired listing now limit)).count property +
        (store.expired listing now limit).length := by
  have apart := consistent.expired_nodup listing now limit
  have due : ∀ handle ∈ store.expired listing now limit, store.Due now handle :=
    due_of_mem_expired consistent distinct
  rw [count, count, sessions_reapAll]
  apply countP_eq_add consistent.handles_nodup apart (consistent.expired_subset listing now limit)
  · intro entry found listed
    obtain ⟨session, late, before, after⟩ := holds_reapAll_of_mem apart due _ listed
    rw [before, after]
    exact lost session late
  · intro entry found unlisted
    exact holds_reapAll_of_not_mem apart due _ unlisted

/-- Each listed session is open before the visits and not open after them. -/
theorem count_open_eq_add :
    let reaped := store.reapAll now (store.expired listing now limit)
    (store.count fun session => !session.state.isTerminal) =
      (reaped.count fun session => !session.state.isTerminal) +
        (store.expired listing now limit).length := by
  intro reaped
  apply count_eq_add_of_lost consistent distinct
  intro session late
  rw [isTerminal_of_isOverdue late]
  exact ⟨rfl, rfl⟩

/-- Each listed session can be evicted after the visits and not before them. -/
theorem count_evictable_eq_add :
    let reaped := store.reapAll now (store.expired listing now limit)
    reaped.count (isEvictable now) =
      store.count (isEvictable now) + (store.expired listing now limit).length := by
  intro reaped
  have apart := consistent.expired_nodup listing now limit
  have due : ∀ handle ∈ store.expired listing now limit, store.Due now handle :=
    due_of_mem_expired consistent distinct
  rw [count, count, sessions_reapAll]
  apply countP_eq_add consistent.handles_nodup apart (consistent.expired_subset listing now limit)
  · intro entry found listed
    obtain ⟨session, late, before, after⟩ := holds_reapAll_of_mem apart due _ listed
    rw [before, after]
    exact ⟨isEvictable_reaped late, isEvictable_eq_false_of_isOverdue late⟩
  · intro entry found unlisted
    exact (holds_reapAll_of_not_mem apart due _ unlisted).symm

omit distinct

/-! Evictions. -/

variable (eviction : Visit) (settings : ReaperSettings)

theorem Consistent.evicted_nodup : (store.evicted listing eviction settings now).Nodup := by
  rw [evicted]
  split
  · exact (consistent.reapAll now _).evictable_nodup eviction now _
  · exact List.nodup_nil

theorem length_sessions_eq_add :
    store.sessions.length = (store.swept listing eviction settings now).sessions.length +
      (store.evicted listing eviction settings now).length := by
  have known : store.evicted listing eviction settings now ⊆ store.sessions.map (·.1) := by
    intro id gone
    obtain ⟨-, handle, session, stored, -⟩ := consistent.stored_of_mem_evicted gone
    have found := stored.found
    rw [get?_reapAll] at found
    exact List.mem_map.mpr ⟨(id, handle), consistent.get?_eq_some_iff.mp found, rfl⟩
  rw [consistent.swept_eq_without, without, sessions_reapAll, ← List.countP_eq_length_filter,
    ← List.countP_true]
  apply countP_eq_add consistent.ids (consistent.evicted_nodup listing now eviction settings) known
  · intro entry found gone
    simp [gone]
  · intro entry found kept
    simp [kept]

/-- A property that no evictable session has is had by as many sessions after the eviction. -/
theorem count_swept_of_not_evictable {property : UploadSession → Bool}
    (apart : ∀ session, isEvictable now session = true → property session = false) :
    (store.swept listing eviction settings now).count property =
      (store.reapAll now (store.expired listing now settings.batchSize.toNat)).count property := by
  have still := consistent.reapAll now (store.expired listing now settings.batchSize.toNat)
  rw [consistent.swept_eq_without, count, without, List.countP_filter, count]
  apply List.countP_congr
  intro entry found
  rw [Bool.and_eq_true, decide_eq_true_iff]
  apply and_iff_left_of_imp
  intro has gone
  obtain ⟨session, held, suits⟩ := holds_iff.mp has
  obtain ⟨-, handle, same, stored, settled⟩ := consistent.stored_of_mem_evicted gone
  obtain rfl := still.handle_unique found (still.get?_eq_some_iff.mp stored.found)
  obtain rfl := Option.some.inj (held.symm.trans stored.held)
  rw [apart _ settled] at suits
  cases suits

/-- What is evicted is not open. -/
theorem count_open_swept :
    let reaped := store.reapAll now (store.expired listing now settings.batchSize.toNat)
    ((store.swept listing eviction settings now).count fun session => !session.state.isTerminal) =
      reaped.count fun session => !session.state.isTerminal := by
  intro reaped
  apply count_swept_of_not_evictable consistent
  intro session settled
  rw [isEvictable, Bool.and_eq_true] at settled
  rw [settled.2]
  rfl

/-! The outcome. -/

theorem swept_eq_self
    (unlisted : store.expired listing now settings.batchSize.toNat = [])
    (kept : store.evicted listing eviction settings now = []) :
    store.swept listing eviction settings now = store := by
  rw [consistent.swept_eq_without, kept, unlisted, reapAll_nil, without_nil]

include distinct

theorem sweep_run_of_distinct :
    (Reaper.sweep (.ofVisits listing eviction) settings now).run store =
      .ok {
        examined := (store.expired listing now settings.batchSize.toNat).length
        canceled := (store.expired listing now settings.batchSize.toNat).length
        filesCanceled := store.filesChanged (store.swept listing eviction settings now)
        evicted := (store.evicted listing eviction settings now).length
        errors := 0 } (store.swept listing eviction settings now) := by
  have run := reapAll_run_of_due (consistent.expired_nodup listing now settings.batchSize.toNat)
    (due_of_mem_expired consistent distinct) {}
  have files : store.filesChanged (store.swept listing eviction settings now) =
      store.filesChanged
        (store.reapAll now (store.expired listing now settings.batchSize.toNat)) := by
    rw [filesChanged, records_swept, filesChanged]
  rw [sweep_run_of_reapAll_run run eviction, files, evicted]
  split <;> simp

end

/-- The stored sessions are as they were, and each lookup answers what it answered. -/
structure Unchanged (before after : Store) : Prop where
  stored : ∀ id handle session, Stored before id handle session →
    after.record? handle = some session
  ids : ∀ id, after.get? id = before.get? id
  tokens : ∀ token, after.tokens.lookup token = before.tokens.lookup token

theorem Unchanged.refl (store : Store) : Unchanged store store :=
  ⟨fun _ _ _ stored => stored.held, fun _ => rfl, fun _ => rfl⟩

namespace Unchanged

variable {store : Store} {listing eviction : Visit} {settings : ReaperSettings} {now : Instant}
  (unchanged : Unchanged store (store.swept listing eviction settings now))
  (consistent : Consistent store)
include unchanged consistent

/-- A listed session would be canceled. -/
theorem expired_eq_nil
    (distinct : ∀ id handle session, Stored store id handle session →
      (session.files.map (·.id)).Nodup) :
    store.expired listing now settings.batchSize.toNat = [] := by
  rw [List.eq_nil_iff_forall_not_mem]
  intro handle listed
  obtain ⟨id, session, stored, late⟩ := consistent.stored_of_mem_expired listed
  have kept := unchanged.stored id handle session stored
  rw [record?_swept consistent distinct, stored.held, Option.map_some, if_pos listed] at kept
  have opened := isTerminal_of_isOverdue late
  rw [← Option.some.inj kept] at opened
  cases opened

/-- An evicted session would not be found. -/
theorem evicted_eq_nil : store.evicted listing eviction settings now = [] := by
  rw [List.eq_nil_iff_forall_not_mem]
  intro id gone
  obtain ⟨-, handle, session, stored, -⟩ := consistent.stored_of_mem_evicted gone
  have found := stored.found
  rw [get?_reapAll, ← unchanged.ids, consistent.get?_swept_eq_some_iff] at found
  exact found.2 gone

end Unchanged

theorem isEmpty_iff (stats : Reaper.Stats) :
    stats.isEmpty = true ↔ stats.canceled = 0 ∧ stats.filesCanceled = 0 ∧ stats.evicted = 0 ∧
      stats.errors = 0 := by
  rw [Reaper.Stats.isEmpty, decide_eq_true_iff]

/-- What a sweep reports and what it does, where so many of the stored sessions were overdue and so
many settled and past their deadline. -/
structure Accounts (evicts : Bool) (batch overdue settled : Nat) (before after : Store)
    (stats : Reaper.Stats) : Prop where
  examined : stats.examined = min batch overdue
  canceled : stats.canceled = min batch overdue
  errors : stats.errors = 0
  filesCanceled : stats.filesCanceled = before.filesChanged after
  evicted : stats.evicted = if evicts then min batch (settled + min batch overdue) else 0
  active : before.countActive = after.countActive + stats.canceled
  stored : before.sessions.length = after.sessions.length + stats.evicted
  isEmpty_iff : stats.isEmpty = true ↔ Unchanged before after

theorem isOverdue_eq (now : Instant) :
    isOverdue now = fun session =>
      decide (session.expiration < now ∧ (session.state = .pending ∨ session.state = .error)) := by
  funext session
  rw [Bool.eq_iff_iff, isOverdue_iff, decide_eq_true_iff]

theorem isEvictable_eq (now : Instant) :
    isEvictable now = fun session =>
      decide (session.expiration < now ∧
        (session.state = .published ∨ session.state = .canceled)) := by
  funext session
  rw [Bool.eq_iff_iff, isEvictable_iff, decide_eq_true_iff]

/-- A sweep of a reachable store gives exact accounts of itself, which depend on the numbers of
sessions and not on the order of the visits. -/
theorem sweep_accounts {store : Store} (reachable : Reachable store)
    (distinct : ∀ id handle session, Stored store id handle session →
      (session.files.map (·.id)).Nodup)
    (listing eviction : Visit) (settings : ReaperSettings) (now : Instant) :
    let overdue := store.count fun session =>
      session.expiration < now ∧ (session.state = .pending ∨ session.state = .error)
    let settled := store.count fun session =>
      session.expiration < now ∧ (session.state = .published ∨ session.state = .canceled)
    ∃ stats after,
      (Reaper.sweep (.ofVisits listing eviction) settings now).run store = .ok stats after ∧
      Accounts settings.evictTerminal settings.batchSize.toNat overdue settled store after
        stats := by
  intro overdue settled
  have consistent := reachable.consistent
  have listed : (store.expired listing now settings.batchSize.toNat).length =
      min settings.batchSize.toNat overdue := by
    rw [expired, List.length_map, length_take_filter_arrange, isOverdue_eq]
  refine ⟨_, _, sweep_run_of_distinct consistent distinct listing now eviction settings,
    listed, listed, rfl, rfl, ?_, ?_, ?_, ?_⟩
  · rw [length_evicted, count_evictable_eq_add consistent distinct, listed, isEvictable_eq]
  · rw [countActive_eq_count, countActive_eq_count,
      count_open_eq_add consistent distinct listing now settings.batchSize.toNat,
      count_open_swept consistent]
  · exact length_sessions_eq_add consistent listing now eviction settings
  · constructor
    · intro empty
      obtain ⟨canceled, -, evicted, -⟩ := (isEmpty_iff _).mp empty
      rw [swept_eq_self consistent listing now eviction settings
        (List.eq_nil_of_length_eq_zero canceled) (List.eq_nil_of_length_eq_zero evicted)]
      exact .refl store
    · intro unchanged
      have unlisted := unchanged.expired_eq_nil consistent distinct
      have kept := unchanged.evicted_eq_nil consistent
      have same := swept_eq_self consistent listing now eviction settings unlisted kept
      rw [isEmpty_iff, unlisted, kept, same, filesChanged_self]
      exact ⟨rfl, rfl, rfl, rfl⟩

/-- Of two sessions past their deadline one is open, with a file that waits; the other is
published. -/
theorem count_expiringRun :
    let store := empty.after expiringRun
    let now : Instant := .ofParts 1700100000 0
    (store.count fun session =>
      session.expiration < now ∧ (session.state = .pending ∨ session.state = .error)) = 1 ∧
    (store.count fun session =>
      session.expiration < now ∧ (session.state = .published ∨ session.state = .canceled)) = 1 := by
  decide +kernel

/-- A sweep cancels the open one and takes both out. -/
theorem expiringRun_sweep_accounts :
    let store := empty.after expiringRun
    let now : Instant := .ofParts 1700100000 0
    Reachable store ∧
      (∀ id handle session, Stored store id handle session →
        (session.files.map (·.id)).Nodup) ∧
      ∃ stats after,
        (Reaper.sweep (.ofVisits .inOrder .inOrder) {} now).run store = .ok stats after ∧
        Accounts true 1000 1 1 store after stats := by
  intro store now
  have reachable : Reachable store := ⟨expiringRun, rfl⟩
  have distinct : ∀ id handle session, Stored store id handle session →
      (session.files.map (·.id)).Nodup :=
    fun id handle session stored => expiringRun_distinct stored
  obtain ⟨overdue, settled⟩ := count_expiringRun
  have accounts := sweep_accounts reachable distinct .inOrder .inOrder {} now
  dsimp only at accounts
  rw [overdue, settled] at accounts
  exact ⟨reachable, distinct, accounts⟩

end ReleaseUpload.Store
