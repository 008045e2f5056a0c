import Mathlib.Algebra.Ring.Nat
import ReleaseUpload.Proofs.Store.Effect

/-!
What visits to overdue sessions report. `reapAll_run_of_due` says that each of them is counted as
canceled, and that the files counted are those whose state has changed. A file changes its state
once, when it is canceled, so the changes of one visit and of the visits after it add up.
-/

namespace ReleaseUpload

/-! Files whose state has changed. -/

/-- One if the state of a file has changed. -/
def FileUpload.changes (before after : FileUpload) : Nat :=
  if after.state = before.state then 0 else 1

/-- How many files of a session have changed their state. -/
def UploadSession.filesChanged (before after : UploadSession) : Nat :=
  (List.zipWith FileUpload.changes before.files after.files).sum

/-- How many files of all sessions that were ever inserted have changed their state. -/
def Store.filesChanged (before after : Store) : Nat :=
  (List.zipWith UploadSession.filesChanged before.records after.records).sum

theorem sum_zipWith_add {α : Type} {Related : α → α → Prop} {count : α → α → Nat}
    (add : ∀ first second third, Related first second → Related second third →
      count first third = count first second + count second third)
    {first second third : List α} (one : List.Forall₂ Related first second)
    (two : List.Forall₂ Related second third) :
    (List.zipWith count first third).sum =
      (List.zipWith count first second).sum + (List.zipWith count second third).sum := by
  induction one generalizing third with
  | nil =>
    cases two
    rfl
  | cons head rest inductionHypothesis =>
    cases two with
    | cons next others =>
      simp only [List.zipWith_cons_cons, List.sum_cons, add _ _ _ head next,
        inductionHypothesis others, Nat.add_add_add_comm]

theorem sum_zipWith_self {α : Type} {count : α → α → Nat} (same : ∀ entry, count entry entry = 0)
    (entries : List α) : (List.zipWith count entries entries).sum = 0 := by
  simp [List.zipWith_self, same]

theorem sum_zipWith_modify {α : Type} {count : α → α → Nat} (same : ∀ entry, count entry entry = 0)
    {entries : List α} {position : Nat} {entry : α} (held : entries[position]? = some entry)
    (change : α → α) :
    (List.zipWith count entries (entries.modify position change)).sum =
      count entry (change entry) := by
  induction entries generalizing position with
  | nil => cases held
  | cons head rest inductionHypothesis =>
    cases position with
    | zero =>
      obtain rfl := Option.some.inj held
      simp [List.zipWith_self, same]
    | succ position => simpa [same] using inductionHypothesis held

theorem forall₂_modify {α : Type} {Related : α → α → Prop} (refl : ∀ entry, Related entry entry)
    {change : α → α} (changed : ∀ entry, Related entry (change entry)) (entries : List α)
    (position : Nat) : List.Forall₂ Related entries (entries.modify position change) := by
  induction entries generalizing position with
  | nil => simp
  | cons head rest inductionHypothesis =>
    cases position with
    | zero => simpa using ⟨changed head, fun entry _ => refl entry⟩
    | succ position => simpa using ⟨refl head, inductionHypothesis position⟩

theorem FileUpload.changes_self (file : FileUpload) : file.changes file = 0 := if_pos rfl

/-- A file is canceled once, so its changes add up. -/
theorem FileUpload.changes_add (first second third : FileUpload) (one : MayCancel first second)
    (two : MayCancel second third) :
    first.changes third = first.changes second + second.changes third := by
  rcases one with rfl | rfl
  · rw [changes_self, Nat.zero_add]
  · have last : third.state = .canceled := by rcases two with rfl | rfl <;> rfl
    have settled : first.canceled.changes third = 0 := if_pos last
    rw [settled, Nat.add_zero, changes, changes, last]
    rfl

namespace UploadSession

theorem filesChanged_self (session : UploadSession) : session.filesChanged session = 0 :=
  sum_zipWith_self FileUpload.changes_self session.files

theorem filesChanged_add (first second third : UploadSession) (one : Reaped first second)
    (two : Reaped second third) :
    first.filesChanged third = first.filesChanged second + second.filesChanged third :=
  sum_zipWith_add FileUpload.changes_add one.files two.files

theorem changes_reaped (now : Instant) (file : FileUpload) :
    file.changes (file.reaped now) = (isOverdue now file).toNat := by
  by_cases late : isOverdue now file = true
  · have opened := isOverdue_iff.mp late
    rw [late, FileUpload.reaped, if_pos opened, FileUpload.changes, FileUpload.canceled,
      if_neg opened.2.2.symm]
    rfl
  · rw [FileUpload.reaped, if_neg (isOverdue_iff.not.mp late), FileUpload.changes_self,
      eq_false_of_ne_true late]
    rfl

theorem filesChanged_reaped (now : Instant) (session : UploadSession) :
    session.filesChanged (session.reaped now) = (session.overdue now).length := by
  rw [filesChanged, reaped, overdue, List.length_map]
  induction session.files with
  | nil => rfl
  | cons head rest inductionHypothesis =>
    rw [List.map_cons, List.zipWith_cons_cons, List.sum_cons, inductionHypothesis, changes_reaped,
      List.filter_cons]
    cases isOverdue now head with
    | false => exact Nat.zero_add _
    | true => exact Nat.add_comm _ _

end UploadSession

namespace Store

theorem filesChanged_self (store : Store) : store.filesChanged store = 0 :=
  sum_zipWith_self UploadSession.filesChanged_self store.records

theorem filesChanged_touch {store : Store} {handle : Handle} {session : UploadSession}
    (held : store.record? handle = some session) (step : UploadSession.Step) :
    store.filesChanged (store.touch handle step) = session.filesChanged (session.apply step) :=
  sum_zipWith_modify UploadSession.filesChanged_self held (·.apply step)

theorem forall₂_reaped_reapAll (store : Store) (now : Instant) (handles : List Handle) :
    List.Forall₂ UploadSession.Reaped store.records (store.reapAll now handles).records := by
  induction handles generalizing store with
  | nil => exact List.forall₂_same.mpr fun session _ => .refl session
  | cons handle rest inductionHypothesis =>
    have visited := forall₂_modify .refl (·.reaped_apply_reap now) store.records handle
    exact UploadSession.forall₂_trans UploadSession.Reaped.trans visited
      (inductionHypothesis (store.touch handle (.reap now)))

theorem filesChanged_reapAll_cons (store : Store) (now : Instant) (handle : Handle)
    (rest : List Handle) :
    let visited := store.touch handle (.reap now)
    store.filesChanged (store.reapAll now (handle :: rest)) =
      store.filesChanged visited + visited.filesChanged (visited.reapAll now rest) :=
  sum_zipWith_add UploadSession.filesChanged_add (store.forall₂_reaped_reapAll now [handle])
    (forall₂_reaped_reapAll _ now rest)

/-! The exact outcome of visits to overdue sessions. -/

theorem reap_run_of_due {store : Store} {now : Instant} {handle : Handle}
    (due : store.Due now handle) (stats : Reaper.Stats) :
    (Reaper.reap now stats handle).run store =
      .ok { stats with
        examined := stats.examined + 1
        canceled := stats.canceled + 1
        filesCanceled :=
          stats.filesCanceled + store.filesChanged (store.touch handle (.reap now)) }
        (store.touch handle (.reap now)) := by
  obtain ⟨session, held, late, distinct⟩ := due
  rw [reap_run_of_overdue held late,
    UploadSession.cancelExpired_run now distinct (isTerminal_of_isOverdue late),
    filesChanged_touch held, touch_eq_setRecord held, apply_reap_of_overdue late distinct,
    UploadSession.filesChanged_reaped]

theorem reapAll_run_of_due {store : Store} {now : Instant} {handles : List Handle}
    (apart : handles.Nodup) (due : ∀ handle ∈ handles, store.Due now handle)
    (stats : Reaper.Stats) :
    (Reaper.reapAll now stats handles).run store =
      .ok { stats with
        examined := stats.examined + handles.length
        canceled := stats.canceled + handles.length
        filesCanceled := stats.filesCanceled + store.filesChanged (store.reapAll now handles) }
        (store.reapAll now handles) := by
  induction handles generalizing store stats with
  | nil => rw [reapAll_nil, filesChanged_self]; rfl
  | cons handle rest inductionHypothesis =>
    obtain ⟨fresh, apart⟩ := List.nodup_cons.mp apart
    obtain ⟨first, others⟩ := List.forall_mem_cons.mp due
    have stillDue : ∀ other ∈ rest, (store.touch handle (.reap now)).Due now other :=
      fun other listed => (others other listed).touch (ne_of_mem_of_not_mem listed fresh).symm _
    rw [reapAll_run_cons (reap_run_of_due first stats), inductionHypothesis apart stillDue,
      filesChanged_reapAll_cons, reapAll_cons, List.length_cons]
    simp only [Nat.add_assoc, Nat.add_comm 1]

end Store

end ReleaseUpload
