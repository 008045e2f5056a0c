import ReleaseUpload.Clock
import ReleaseUpload.Store

/-!
The reaper: sweeps that cancel overdue sessions together with their overdue files and then evict
what is settled. A sweep asks a `Backend` which sessions are overdue and which to evict, so that it
can be run over any answers; `Backend.ofVisits` are the answers of the store itself.
-/

namespace ReleaseUpload.Reaper

structure Stats where
  /-- Sessions that were listed as overdue. -/
  examined : Nat := 0
  canceled : Nat := 0
  filesCanceled : Nat := 0
  evicted : Nat := 0
  /-- Sessions that could not be canceled. -/
  errors : Nat := 0
  deriving DecidableEq, Repr

def Stats.isEmpty (stats : Stats) : Bool :=
  stats.canceled = 0 ∧ stats.filesCanceled = 0 ∧ stats.evicted = 0 ∧ stats.errors = 0

/-- The questions that a sweep puts to a store. -/
structure Backend where
  expired : (now : Instant) → (limit : Nat) → Store.Action (List Handle)
  evictTerminal : (now : Instant) → (limit : Nat) → Store.Action Nat

/-- The answers of the store, visited in one order for each question. -/
def Backend.ofVisits (listing eviction : Store.Visit) : Backend where
  expired now limit := return (← get).expired listing now limit
  evictTerminal := Store.evictTerminal eviction

/-- Cancels one listed session unless it has been settled or extended since it was listed. A session
that cannot be canceled keeps the changes made to its files. -/
def reap (now : Instant) (stats : Stats) (handle : Handle) : Store.Action Stats := do
  let store ← get
  let stats := { stats with examined := stats.examined + 1 }
  match store.record? handle with
  | none => return stats
  | some session =>
    if Store.isOverdue now session then
      match (UploadSession.cancelExpired now).run session with
      | .ok files session =>
        set (store.setRecord handle session)
        return { stats with
          canceled := stats.canceled + 1
          filesCanceled := stats.filesCanceled + files }
      | .error _ session =>
        set (store.setRecord handle session)
        return { stats with errors := stats.errors + 1 }
    else return stats

/-- Cancels listed sessions one after another. -/
def reapAll (now : Instant) : Stats → List Handle → Store.Action Stats
  | stats, [] => return stats
  | stats, handle :: rest => do reapAll now (← reap now stats handle) rest

/-- One sweep. What was canceled stays canceled if the eviction fails. -/
def sweep (backend : Backend) (settings : ReaperSettings) (now : Instant) : Store.Action Stats := do
  let listed ← backend.expired now settings.batchSize.toNat
  let stats ← reapAll now {} listed
  if settings.evictTerminal then
    let evicted ← backend.evictTerminal now settings.batchSize.toNat
    return { stats with evicted }
  else return stats

/-- A background task that sweeps at once and then whenever its interval has passed. -/
structure Task where
  settings : ReaperSettings
  /-- Seconds since the task was started. -/
  elapsed : Nat := 0
  deriving DecidableEq, Repr

namespace Task

/-- Whether the task sweeps at this second; without an interval it never does. -/
def isDue (task : Task) : Bool :=
  task.settings.sweepInterval ≠ 0 ∧ task.elapsed % task.settings.sweepInterval.toNat = 0

def tick (task : Task) : Task := { task with elapsed := task.elapsed + 1 }

/-- Sweeps if it is time to, and answers the task as it goes on. A sweep that fails does not end it,
but a clock that tells no instant does, before anything was asked of the store. -/
def run (backend : Backend) (task : Task) (clock : Clock) (store : Store) : Option Task × Store :=
  if task.isDue then
    match clock.now? with
    | none => (none, store)
    | some now =>
      match (sweep backend task.settings now).run store with
      | .ok _ store => (some task, store)
      | .error _ store => (some task, store)
  else (some task, store)

end Task

end ReleaseUpload.Reaper
