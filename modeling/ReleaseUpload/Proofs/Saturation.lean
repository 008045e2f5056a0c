import Mathlib.Algebra.Ring.Nat
import ReleaseUpload.Proofs.UploadSession.Deadlines

/-!
Deadlines at the ends of the calendar. The deadline of a new record is its creation plus its
lifetime, cut off at either end, and an extension adds what was asked for, up to the most that the
settings allow, cut off at the last instant. Steps that only go forward are cut off once or not at
all, so extensions add up, in any order: `deadlines_add_up`.
-/

namespace ReleaseUpload

/-- The seconds that an extension adds, as far as the calendar goes. -/
def UploadSettings.extensionSeconds (settings : UploadSettings) (seconds : UInt64) : Nat :=
  min seconds.toNat settings.maxExtension.toNat

/-- The deadline after extensions that are granted one after another. -/
def UploadSettings.extendAll (settings : UploadSettings) (requests : List UInt64)
    (deadline : Instant) : Instant :=
  requests.foldl (fun deadline seconds => deadline.add (settings.extension seconds)) deadline

namespace Instant

theorem nanos_add_of_nonneg (instant : Instant) {span : Span} (forward : 0 ≤ span.nanos) :
    (instant.add span).nanos = min Calendar.last (instant.nanos + span.nanos) := by
  have inside := instant.first_le
  have ordered : Calendar.first ≤ Calendar.last := by decide
  rw [add, nanos_clamp]
  omega

/-- A span that is cut off because no longer one can be given is longer than the calendar, so it is
all the same to a deadline. -/
theorem nanos_add_extension (deadline : Instant) (settings : UploadSettings) (seconds : UInt64) :
    (deadline.add (settings.extension seconds)).nanos =
      min Calendar.last
        (deadline.nanos + settings.extensionSeconds seconds * Span.nanosPerSecond) := by
  have inside := deadline.first_le
  rw [nanos_add_of_nonneg deadline (settings.extension_nonneg seconds), UploadSettings.extension,
    Span.ofSetting, Span.ofSeconds, UInt64.toNat_min, ← UploadSettings.extensionSeconds]
  generalize settings.extensionSeconds seconds = added
  simp only [Calendar.first, Calendar.last, Span.nanosPerSecond, largestSeconds] at inside ⊢
  omega

/-- The longest extension there is stops at the end of the calendar, even from its start. -/
example :
    let settings : UploadSettings := { maxExtension := 18446744073709551615 }
    earliest.add (settings.extension 18446744073709551615) = latest := by decide

theorem nanos_extendAll (settings : UploadSettings) (requests : List UInt64)
    (deadline : Instant) :
    (settings.extendAll requests deadline).nanos =
      min Calendar.last (deadline.nanos +
        ((requests.map settings.extensionSeconds).sum : Nat) * Span.nanosPerSecond) := by
  induction requests generalizing deadline with
  | nil =>
    have inside := deadline.le_last
    simp only [UploadSettings.extendAll, List.foldl_nil, List.map_nil, List.sum_nil]
    omega
  | cons seconds rest inductionHypothesis =>
    rw [UploadSettings.extendAll, List.foldl_cons, ← UploadSettings.extendAll,
      inductionHypothesis, nanos_add_extension, List.map_cons, List.sum_cons]
    generalize (rest.map settings.extensionSeconds).sum = others
    generalize settings.extensionSeconds seconds = added
    simp only [Calendar.last, Span.nanosPerSecond]
    omega

end Instant

/-- The deadline of a new record is the exact sum of its creation and its lifetime where the calendar
has that sum, and the nearest end of the calendar where it does not. -/
structure SetBy (deadline created : Instant) (lifetime : Span) : Prop where
  nanos_eq : deadline.nanos =
    max Calendar.first (min Calendar.last (created.nanos + lifetime.nanos))
  forward : 0 ≤ lifetime.nanos → created ≤ deadline

/-- Extensions of a pending record that is not past its deadline, one or several at one instant.
`record` is the record by its deadline. -/
structure AddsUp {Record State : Type} (extend : UInt64 → EStateM Refusal Record State)
    (pending : State) (record : Instant → Record) (settings : UploadSettings)
    (deadline : Instant) : Prop where
  single : ∀ seconds, ∃ next,
    (extend seconds).run (record deadline) = .ok pending (record next) ∧
      next.nanos = min Calendar.last
        (deadline.nanos + settings.extensionSeconds seconds * Span.nanosPerSecond) ∧
      deadline ≤ next
  several : ∀ requests : List UInt64, ∃ next,
    (requests.mapM extend).run (record deadline) =
        .ok (requests.map fun _ => pending) (record next) ∧
      next.nanos = min Calendar.last (deadline.nanos +
        ((requests.map settings.extensionSeconds).sum : Nat) * Span.nanosPerSecond)
  reordered : ∀ requests other : List UInt64, other.Perm requests →
    (other.mapM extend).run (record deadline) = (requests.mapM extend).run (record deadline)

theorem Instant.setBy_add (created : Instant) (lifetime : Span) :
    SetBy (created.add lifetime) created lifetime where
  nanos_eq := rfl
  forward := Instant.le_add

theorem UploadSettings.extendAll_perm (settings : UploadSettings) {requests other : List UInt64}
    (reordered : other.Perm requests) (deadline : Instant) :
    settings.extendAll other deadline = settings.extendAll requests deadline := by
  apply Instant.eq_of_nanos_eq
  rw [Instant.nanos_extendAll, Instant.nanos_extendAll, (reordered.map _).sum_nat]

section

variable {Record State : Type} {extend : UInt64 → EStateM Refusal Record State} {pending : State}
  {record : Instant → Record} {settings : UploadSettings} {now : Instant}
  (granted : ∀ deadline seconds, now ≤ deadline →
    (extend seconds).run (record deadline) =
      .ok pending (record (deadline.add (settings.extension seconds))))
include granted

/-- Extensions at one instant are all granted, because none of them moves the deadline back. -/
theorem mapM_extend_run (requests : List UInt64) {deadline : Instant} (punctual : now ≤ deadline) :
    (requests.mapM extend).run (record deadline) =
      .ok (requests.map fun _ => pending) (record (settings.extendAll requests deadline)) := by
  induction requests generalizing deadline with
  | nil => rfl
  | cons seconds rest inductionHypothesis =>
    have onward : now ≤ deadline.add (settings.extension seconds) :=
      Int.le_trans punctual (Instant.le_add (settings.extension_nonneg seconds))
    rw [List.mapM_cons]
    simp only [EStateM.run_bind, granted deadline seconds punctual, inductionHypothesis onward]
    rfl

theorem addsUp_of_granted {deadline : Instant} (punctual : now ≤ deadline) :
    AddsUp extend pending record settings deadline where
  single seconds :=
    ⟨_, granted deadline seconds punctual, deadline.nanos_add_extension settings seconds,
      Instant.le_add (settings.extension_nonneg seconds)⟩
  several requests :=
    ⟨_, mapM_extend_run granted requests punctual, Instant.nanos_extendAll settings requests deadline⟩
  reordered requests other same := by
    rw [mapM_extend_run granted requests punctual, mapM_extend_run granted other punctual,
      settings.extendAll_perm same, List.map_const', List.map_const', same.length_eq]

end

/-- How deadlines are set and moved under some settings at an instant. -/
structure DeadlineArithmetic (settings : UploadSettings) (now : Instant) : Prop where
  newSession : ∀ lifetime id project version nonce,
    SetBy (UploadSession.new now lifetime id project version nonce).expiration now lifetime
  newFile : ∀ lifetime id declaration mechanism,
    SetBy (FileUpload.new now lifetime id declaration mechanism).expiration now lifetime
  session : ∀ session : UploadSession, session.state = .pending → session.isExpired now = false →
    AddsUp (UploadSession.extend settings now) .pending
      (fun expiration => { session with expiration }) settings session.expiration
  file : ∀ file : FileUpload, file.state = .pending → file.isExpired now = false →
    AddsUp (FileUpload.extend settings now) .pending
      (fun expiration => { file with expiration }) settings file.expiration

/-- Deadlines are exact up to the ends of the calendar, whatever the lifetime or the settings, and
extensions at one instant add up, in any order. -/
theorem deadlines_add_up (settings : UploadSettings) (now : Instant) :
    DeadlineArithmetic settings now where
  newSession lifetime _ _ _ _ := now.setBy_add lifetime
  newFile lifetime _ _ _ := now.setBy_add lifetime
  session session pending early := by
    refine addsUp_of_granted (fun deadline seconds punctual => ?_)
      (Instant.not_lt.mp (of_decide_eq_false early))
    have still : ({ session with expiration := deadline } : UploadSession).state = .pending :=
      pending
    exact UploadSession.extend_run_eq_ok_iff.mpr ⟨still, punctual, rfl⟩
  file file pending early := by
    refine addsUp_of_granted (fun deadline seconds punctual => ?_)
      (Instant.not_lt.mp (of_decide_eq_false early))
    have still : ({ file with expiration := deadline } : FileUpload).state = .pending := pending
    exact FileUpload.extend_run_eq_ok_iff.mpr ⟨still, punctual, rfl⟩

end ReleaseUpload
