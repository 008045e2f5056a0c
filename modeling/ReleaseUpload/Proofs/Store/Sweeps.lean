import Mathlib.Data.List.Count
import ReleaseUpload.Proofs.Store.Operations
import ReleaseUpload.Reaper

/-!
Sweeps as functions of the store. A sweep over the answers of the store itself never fails: it
visits what was overdue at its start, and counts as canceled exactly the sessions that it has taken
from open to canceled.
-/

namespace ReleaseUpload.Store

/-- The store after the visits of a reaper to several sessions. -/
def reapAll (store : Store) (now : Instant) (handles : List Handle) : Store :=
  handles.foldl (fun store handle => store.touch handle (.reap now)) store

/-- The store after a sweep. -/
def swept (store : Store) (listing eviction : Visit) (settings : ReaperSettings) (now : Instant) :
    Store :=
  let reaped := store.reapAll now (store.expired listing now settings.batchSize.toNat)
  if settings.evictTerminal then
    reaped.dropAll (reaped.evictable eviction now settings.batchSize.toNat)
  else reaped

@[simp] theorem reapAll_nil (store : Store) (now : Instant) : store.reapAll now [] = store := rfl

@[simp] theorem reapAll_cons (store : Store) (now : Instant) (handle : Handle)
    (rest : List Handle) :
    store.reapAll now (handle :: rest) = (store.touch handle (.reap now)).reapAll now rest := rfl

/-- Whatever is true of the record of a visited session before and after is true of each record
before and after all visits. -/
theorem record?_reapAll {Related : UploadSession → UploadSession → Prop} {now : Instant}
    (refl : ∀ session, Related session session)
    (trans : ∀ first second third, Related first second → Related second third →
      Related first third)
    (visit : ∀ session, Related session (session.apply (.reap now)))
    {store : Store} (handles : List Handle) {handle : Handle} {session : UploadSession}
    (held : store.record? handle = some session) :
    ∃ reaped, (store.reapAll now handles).record? handle = some reaped ∧
      Related session reaped := by
  induction handles generalizing store session with
  | nil => exact ⟨session, held, refl session⟩
  | cons first rest inductionHypothesis =>
    by_cases same : first = handle
    · have visited : (store.touch first (.reap now)).record? handle =
          some (session.apply (.reap now)) := by
        rw [record?_touch, if_pos same, held, Option.map_some]
      obtain ⟨reaped, found, related⟩ := inductionHypothesis visited
      exact ⟨reaped, found, trans _ _ _ (visit session) related⟩
    · have kept : (store.touch first (.reap now)).record? handle = some session := by
        rw [record?_touch, if_neg same, held]
      exact inductionHypothesis kept

theorem length_records_reapAll (store : Store) (now : Instant) (handles : List Handle) :
    (store.reapAll now handles).records.length = store.records.length := by
  induction handles generalizing store with
  | nil => rfl
  | cons handle rest inductionHypothesis =>
    rw [reapAll_cons, inductionHypothesis, touch, List.length_modify]

theorem records_swept (store : Store) (listing eviction : Visit) (settings : ReaperSettings)
    (now : Instant) :
    (store.swept listing eviction settings now).records =
      (store.reapAll now (store.expired listing now settings.batchSize.toNat)).records := by
  simp only [swept]
  split
  · exact records_dropAll _ _
  · rfl

/-! What is counted. -/

/-- The session behind the handle is open in one store and canceled in the other. -/
def turns (before after : Store) (handle : Handle) : Bool :=
  (before.record? handle).any (fun session => !session.state.isTerminal) &&
    (after.record? handle).any (fun session => decide (session.state = .canceled))

/-- The sessions that are open in one store and canceled in the other. -/
def newlyCanceled (before after : Store) : List Handle :=
  (List.range before.records.length).filter (before.turns after)

theorem turns_iff {before after : Store} {handle : Handle} {session : UploadSession}
    (held : before.record? handle = some session) :
    before.turns after handle = true ↔ session.state.isTerminal = false ∧
      ∃ canceled, after.record? handle = some canceled ∧ canceled.state = .canceled := by
  simp [turns, held, Option.any_eq_true]

theorem mem_newlyCanceled_iff {before after : Store} {handle : Handle} {session : UploadSession}
    (held : before.record? handle = some session) :
    handle ∈ before.newlyCanceled after ↔ session.state.isTerminal = false ∧
      ∃ canceled, after.record? handle = some canceled ∧ canceled.state = .canceled := by
  have inside : handle < before.records.length := (List.getElem?_eq_some_iff.mp held).1
  rw [newlyCanceled, List.mem_filter, List.mem_range, turns_iff held]
  simp [inside]

/-- A step of one session cancels no other. -/
theorem length_newlyCanceled_touch (store : Store) (handle : Handle) (step : UploadSession.Step) :
    (store.newlyCanceled (store.touch handle step)).length =
      (store.turns (store.touch handle step) handle).toNat := by
  have others : ∀ other, store.turns (store.touch handle step) other = true → other = handle := by
    intro other turned
    by_contra apart
    cases held : store.record? other with
    | none => simp [turns, held] at turned
    | some session =>
      obtain ⟨opened, canceled, found, closed⟩ := (turns_iff held).mp turned
      rw [record?_touch, if_neg (Ne.symm apart), held] at found
      rw [Option.some.inj found, closed] at opened
      cases opened
  rw [newlyCanceled, ← List.countP_eq_length_filter]
  cases turned : store.turns (store.touch handle step) handle with
  | false =>
    rw [Bool.toNat_false, List.countP_eq_zero]
    intro other listed turnedOther
    rw [others other turnedOther, turned] at turnedOther
    cases turnedOther
  | true =>
    have inside : handle ∈ List.range store.records.length := by
      rw [List.mem_range]
      by_contra outside
      have missing : store.record? handle = none :=
        List.getElem?_eq_none_iff.mpr (Nat.le_of_not_lt outside)
      simp [turns, missing] at turned
    rw [Bool.toNat_true, ← List.count_eq_one_of_mem List.nodup_range inside, List.count]
    apply List.countP_congr
    intro other listed
    rw [beq_iff_eq]
    exact ⟨others other, fun same => same ▸ turned⟩

/-- Counting over some visits and then over the others is counting over all. -/
theorem length_newlyCanceled_reapAll (store : Store) (now : Instant) (one two : List Handle) :
    let middle := store.reapAll now one
    let last := middle.reapAll now two
    (store.newlyCanceled last).length =
      (store.newlyCanceled middle).length + (middle.newlyCanceled last).length := by
  intro middle last
  simp only [newlyCanceled, ← List.countP_eq_length_filter, middle, length_records_reapAll]
  -- A session that is canceled in the end is canceled in the middle, or still what it was.
  rw [List.countP_eq_countP_filter_add _ _ fun handle =>
    (middle.record? handle).any fun session => decide (session.state = .canceled)]
  rw [List.countP_filter, List.countP_filter]
  congr 1 <;> apply List.countP_congr <;> intro handle listed
  all_goals
    obtain ⟨session, held⟩ : ∃ session, store.record? handle = some session :=
      ⟨_, List.getElem?_eq_getElem (List.mem_range.mp listed)⟩
    obtain ⟨turned, heldMiddle, reaped⟩ := record?_reapAll UploadSession.Reaped.refl
      UploadSession.Reaped.trans (·.reaped_apply_reap now) one held
    obtain ⟨final, heldLast, reapedLast⟩ := record?_reapAll UploadSession.Reaped.refl
      UploadSession.Reaped.trans (·.reaped_apply_reap now) two heldMiddle
    simp only [turns, held, middle, heldMiddle, last, heldLast, Option.any_some]
  · rcases reapedLast.state with kept | canceled
    · simp [kept]
    · simp [canceled]
  · rcases reaped.state with kept | canceled
    · rw [kept]
      cases session.state <;> simp [UploadSession.State.isTerminal]
    · simp [canceled, UploadSession.State.isTerminal]

/-! The outcome. -/

theorem isTerminal_of_isOverdue {now : Instant} {session : UploadSession}
    (late : isOverdue now session = true) : session.state.isTerminal = false := by
  simp only [isOverdue, Bool.and_eq_true, Bool.not_eq_true'] at late
  exact late.2

theorem newlyCanceled_congr {before after other : Store} (same : after.records = other.records) :
    before.newlyCanceled after = before.newlyCanceled other := by
  have turned : before.turns after = before.turns other := by
    funext handle
    rw [turns, turns, record?, record?, record?, same]
  rw [newlyCanceled, newlyCanceled, turned]

theorem newlyCanceled_self (store : Store) : store.newlyCanceled store = [] := by
  rw [newlyCanceled, List.filter_eq_nil_iff]
  intro handle listed turned
  obtain ⟨session, held⟩ : ∃ session, store.record? handle = some session :=
    ⟨_, List.getElem?_eq_getElem (List.mem_range.mp listed)⟩
  obtain ⟨opened, canceled, found, closed⟩ := (turns_iff held).mp turned
  rw [Option.some.inj (held.symm.trans found), closed] at opened
  cases opened

section

variable {store : Store} {now : Instant} {handle : Handle} {session : UploadSession}

theorem reap_run_of_overdue (held : store.record? handle = some session)
    (late : isOverdue now session = true) (stats : Reaper.Stats) :
    (Reaper.reap now stats handle).run store =
      match (UploadSession.cancelExpired now).run session with
      | .ok files after =>
        .ok { stats with
          examined := stats.examined + 1
          canceled := stats.canceled + 1
          filesCanceled := stats.filesCanceled + files } (store.setRecord handle after)
      | .error _ after =>
        .ok { stats with examined := stats.examined + 1, errors := stats.errors + 1 }
          (store.setRecord handle after) := by
  simp only [Reaper.reap, EStateM.run_bind, EStateM.run_get, held, late, if_true]
  cases (UploadSession.cancelExpired now).run session <;> rfl

theorem reap_run_of_punctual
    (punctual : ∀ session, store.record? handle = some session → isOverdue now session = false)
    (stats : Reaper.Stats) :
    (Reaper.reap now stats handle).run store =
      .ok { stats with examined := stats.examined + 1 } store := by
  simp only [Reaper.reap, EStateM.run_bind, EStateM.run_get]
  cases held : store.record? handle with
  | none => rfl
  | some session =>
    simp only [punctual session held]
    rfl

theorem touch_reap_of_punctual
    (punctual : ∀ session, store.record? handle = some session → isOverdue now session = false) :
    store.touch handle (.reap now) = store := by
  apply touch_of_apply_eq
  intro session held
  rw [UploadSession.apply, if_neg]
  simp [punctual session held]

theorem turns_touch_reap_of_overdue (held : store.record? handle = some session)
    (late : isOverdue now session = true) :
    store.turns (store.touch handle (.reap now)) handle =
      decide ((leaves (UploadSession.cancelExpired now) session).state = .canceled) := by
  simp [turns, record?_touch, held, UploadSession.apply, late, isTerminal_of_isOverdue late]

end

/-- A visit never fails, and counts the session as canceled exactly if it cancels it. -/
theorem reap_run (store : Store) (now : Instant) (stats : Reaper.Stats) (handle : Handle) :
    ∃ counted, (Reaper.reap now stats handle).run store =
        .ok counted (store.touch handle (.reap now)) ∧
      counted.canceled =
        stats.canceled + (store.newlyCanceled (store.touch handle (.reap now))).length := by
  by_cases punctual : ∀ session, store.record? handle = some session →
      isOverdue now session = false
  · rw [touch_reap_of_punctual punctual, newlyCanceled_self]
    exact ⟨_, reap_run_of_punctual punctual stats, rfl⟩
  · push Not at punctual
    obtain ⟨session, held, late⟩ := punctual
    rw [Bool.ne_false_iff] at late
    have settled := UploadSession.state_cancelExpired now session
    rw [reap_run_of_overdue held late, length_newlyCanceled_touch,
      turns_touch_reap_of_overdue held late, touch_eq_setRecord held, UploadSession.apply,
      if_pos late]
    cases ran : (UploadSession.cancelExpired now).run session with
    | ok files after =>
      rw [ran] at settled
      rw [leaves_of_ok ran]
      exact ⟨_, rfl, by simp [settled]⟩
    | error refusal after =>
      rw [ran] at settled
      rw [leaves_of_error ran]
      have uncanceled : session.state ≠ .canceled := by
        intro canceled
        have opened := isTerminal_of_isOverdue late
        rw [canceled] at opened
        cases opened
      exact ⟨_, rfl, by simp [settled, uncanceled]⟩

theorem reapAll_run_cons {store visited : Store} {now : Instant} {stats counted : Reaper.Stats}
    {handle : Handle} (visit : (Reaper.reap now stats handle).run store = .ok counted visited)
    (rest : List Handle) :
    (Reaper.reapAll now stats (handle :: rest)).run store =
      (Reaper.reapAll now counted rest).run visited := by
  rw [Reaper.reapAll, EStateM.run_bind, visit]

theorem reapAll_run (store : Store) (now : Instant) (stats : Reaper.Stats)
    (handles : List Handle) :
    ∃ counted, (Reaper.reapAll now stats handles).run store =
        .ok counted (store.reapAll now handles) ∧
      counted.canceled =
        stats.canceled + (store.newlyCanceled (store.reapAll now handles)).length := by
  induction handles generalizing store stats with
  | nil => exact ⟨stats, rfl, by rw [reapAll_nil, newlyCanceled_self]; rfl⟩
  | cons handle rest inductionHypothesis =>
    obtain ⟨visited, run, one⟩ := reap_run store now stats handle
    obtain ⟨counted, others, total⟩ :=
      inductionHypothesis (store.touch handle (.reap now)) visited
    refine ⟨counted, ?_, ?_⟩
    · exact (reapAll_run_cons run rest).trans others
    · have split := length_newlyCanceled_reapAll store now [handle] rest
      simp only [reapAll_cons, reapAll_nil] at split
      rw [total, one, reapAll_cons, split, Nat.add_assoc]

theorem sweep_run_of_reapAll_run {store : Store} {listing : Visit} {settings : ReaperSettings}
    {now : Instant} {counted : Reaper.Stats}
    (run : (Reaper.reapAll now {} (store.expired listing now settings.batchSize.toNat)).run store =
      .ok counted (store.reapAll now (store.expired listing now settings.batchSize.toNat)))
    (eviction : Visit) :
    let reaped := store.reapAll now (store.expired listing now settings.batchSize.toNat)
    let evicted := reaped.evictable eviction now settings.batchSize.toNat
    (Reaper.sweep (.ofVisits listing eviction) settings now).run store =
      .ok (if settings.evictTerminal then { counted with evicted := evicted.length } else counted)
        (store.swept listing eviction settings now) := by
  intro reaped evicted
  simp only [Reaper.sweep, Reaper.Backend.ofVisits, EStateM.run_bind, EStateM.run_get,
    EStateM.run_pure, run, swept]
  split <;> rfl

/-- A sweep never fails, and counts as canceled the sessions that it cancels and no others. -/
theorem sweep_run (store : Store) (listing eviction : Visit) (settings : ReaperSettings)
    (now : Instant) :
    ∃ stats, (Reaper.sweep (.ofVisits listing eviction) settings now).run store =
        .ok stats (store.swept listing eviction settings now) ∧
      stats.canceled =
        (store.newlyCanceled (store.swept listing eviction settings now)).length := by
  obtain ⟨counted, run, total⟩ := reapAll_run store now {}
    (store.expired listing now settings.batchSize.toNat)
  refine ⟨_, sweep_run_of_reapAll_run run eviction, ?_⟩
  rw [newlyCanceled_congr (records_swept store listing eviction settings now)]
  split <;> exact total.trans (Nat.zero_add _)

end ReleaseUpload.Store
