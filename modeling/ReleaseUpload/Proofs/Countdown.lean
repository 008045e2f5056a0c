import ReleaseUpload.Proofs.Saturation

/-!
The seconds left of a record. They are the time until its deadline in whole seconds, rounded down,
and never less than zero. Whether the record is expired is decided on its own and to the nanosecond,
and `remaining_seconds` says how the two agree: the seconds run out with less than one second to go,
they never fall faster than the clock runs, and an extension adds to them exactly what it grants.
-/

namespace ReleaseUpload

namespace Span

/-- Whole seconds, where a part of a second counts as one. -/
def startedSeconds (span : Span) : Int := -(-span.nanos / nanosPerSecond)

theorem le_startedSeconds (span : Span) :
    span.nanos ≤ span.startedSeconds * nanosPerSecond ∧
      span.startedSeconds * nanosPerSecond < span.nanos + nanosPerSecond := by
  simp only [startedSeconds, nanosPerSecond]
  omega

/-- Rounding toward zero is rounding down on one side of zero and rounding up on the other. -/
theorem wholeSeconds_eq (span : Span) :
    span.wholeSeconds =
      if 0 ≤ span.nanos then span.nanos / nanosPerSecond else span.startedSeconds := by
  rw [wholeSeconds]
  split
  · rename_i forward
    rw [Int.tdiv_eq_ediv_of_nonneg forward]
  · rename_i backward
    have turned : 0 ≤ -span.nanos := by omega
    rw [startedSeconds, ← Int.tdiv_eq_ediv_of_nonneg turned, Int.neg_tdiv, Int.neg_neg]

end Span

namespace Instant

/-- The two ways to round differ below zero only, where nothing is left. -/
theorem secondsUntil_eq (deadline now : Instant) :
    deadline.secondsUntil now =
      max 0 ((deadline.nanos - now.nanos) / Span.nanosPerSecond) := by
  rw [secondsUntil, Span.wholeSeconds_eq, since]
  simp only [Span.startedSeconds, Span.nanosPerSecond]
  split <;> omega

/-- No two instants are further apart than can be counted. -/
theorem toInt_ofInt_wholeSeconds (deadline now : Instant) :
    (Int64.ofInt (deadline.since now).wholeSeconds).toInt = (deadline.since now).wholeSeconds := by
  have early := deadline.first_le
  have late := deadline.le_last
  have started := now.first_le
  have ended := now.le_last
  rw [Span.wholeSeconds_eq, since]
  simp only [Calendar.first, Calendar.last, Span.startedSeconds, Span.nanosPerSecond]
    at early late started ended ⊢
  split <;> exact Int64.toInt_ofInt_of_le (by omega) (by omega)

theorem toInt_ofInt_secondsUntil (deadline now : Instant) :
    (Int64.ofInt (deadline.secondsUntil now)).toInt = deadline.secondsUntil now := by
  rw [secondsUntil]
  rcases Int.le_total 0 (deadline.since now).wholeSeconds with ahead | behind
  · rw [Int.max_eq_right ahead, toInt_ofInt_wholeSeconds]
  · rw [Int.max_eq_left behind]
    rfl

theorem secondsUntil_antitone (deadline : Instant) {now later : Instant} (onward : now ≤ later) :
    deadline.secondsUntil later ≤ deadline.secondsUntil now ∧
      deadline.secondsUntil now - deadline.secondsUntil later ≤
        (later.since now).startedSeconds := by
  have elapsed := (later.since now).le_startedSeconds
  generalize (later.since now).startedSeconds = started at elapsed ⊢
  rw [le_def] at onward
  simp only [secondsUntil_eq, since, Span.nanosPerSecond] at elapsed ⊢
  omega

/-- Before the deadline, moving it on by whole seconds adds just these. -/
theorem secondsUntil_extended {deadline now : Instant} (punctual : now ≤ deadline)
    {settings : UploadSettings} {seconds : UInt64}
    (inside : deadline.nanos + settings.extensionSeconds seconds * Span.nanosPerSecond ≤
      Calendar.last) :
    (deadline.add (settings.extension seconds)).secondsUntil now =
      deadline.secondsUntil now + settings.extensionSeconds seconds := by
  rw [le_def] at punctual
  rw [secondsUntil_eq, secondsUntil_eq, nanos_add_extension, Int.min_eq_right inside]
  simp only [Span.nanosPerSecond]
  omega

end Instant

/-- The seconds left until a deadline, seen beside the question whether it has passed. -/
structure Countdown (deadline : Instant) (validFor : Instant → Int) (isExpired : Instant → Bool) :
    Prop where
  rounded_down : ∀ now,
    validFor now = max 0 ((deadline.nanos - now.nanos) / Span.nanosPerSecond)
  /-- Neither the difference in seconds nor what is made of it overflows. -/
  countable : ∀ now,
    (Int64.ofInt (deadline.since now).wholeSeconds).toInt = (deadline.since now).wholeSeconds ∧
      (Int64.ofInt (validFor now)).toInt = validFor now
  expired_iff : ∀ now, isExpired now = true ↔ deadline < now
  none_left : ∀ now, isExpired now = true → validFor now = 0
  unexpired : ∀ now, 0 < validFor now → isExpired now = false
  last_second : ∀ now, isExpired now = false ∧ validFor now = 0 ↔
    0 ≤ deadline.nanos - now.nanos ∧ deadline.nanos - now.nanos < Span.nanosPerSecond
  falls : ∀ now later, now ≤ later → validFor later ≤ validFor now ∧
    validFor now - validFor later ≤ (later.since now).startedSeconds

theorem Instant.countdown (deadline : Instant) :
    Countdown deadline deadline.secondsUntil (fun now => decide (deadline < now)) where
  rounded_down := deadline.secondsUntil_eq
  countable now := ⟨deadline.toInt_ofInt_wholeSeconds now, deadline.toInt_ofInt_secondsUntil now⟩
  expired_iff now := decide_eq_true_iff
  none_left now late := by
    have passed : deadline.nanos < now.nanos := of_decide_eq_true late
    rw [secondsUntil_eq, Span.nanosPerSecond]
    omega
  unexpired now left := by
    rw [secondsUntil_eq, Span.nanosPerSecond] at left
    rw [decide_eq_false_iff_not, lt_def]
    omega
  last_second now := by
    rw [decide_eq_false_iff_not, lt_def, secondsUntil_eq, Span.nanosPerSecond]
    omega
  falls now later := deadline.secondsUntil_antitone

/-- One nanosecond before and one nanosecond after the deadline no whole second is left. -/
example :
    let deadline : Instant := .ofParts 1700000000 0
    deadline.secondsUntil (.ofParts 1699999999 999999999) = 0 ∧
      deadline.secondsUntil (.ofParts 1700000000 1) = 0 := by decide

/-- An extension that is granted and not cut off at the end of the calendar adds the seconds that
were asked for, up to the most that the settings allow. -/
def AddsSeconds {Record State : Type} (extend : UInt64 → EStateM Refusal Record State)
    (pending : State) (settings : UploadSettings) (expiration : Record → Instant)
    (validFor : Record → Int) : Prop :=
  ∀ seconds record after, (extend seconds).run record = .ok pending after →
    (expiration record).nanos + settings.extensionSeconds seconds * Span.nanosPerSecond ≤
      Calendar.last →
    validFor after = validFor record + settings.extensionSeconds seconds

/-- How the seconds left, expiry and extensions of the records of one kind agree. -/
structure RemainingSeconds {Record State : Type} (expiration : Record → Instant)
    (validFor : Record → Instant → Int) (isExpired : Record → Instant → Bool)
    (extend : UploadSettings → Instant → UInt64 → EStateM Refusal Record State)
    (pending : State) : Prop where
  countdown : ∀ record, Countdown (expiration record) (validFor record) (isExpired record)
  extended : ∀ settings now,
    AddsSeconds (extend settings now) pending settings expiration (validFor · now)

/-- The seconds left of a session or of a file agree with its expiry to the nanosecond, and grow by
what an extension grants. -/
theorem remaining_seconds :
    RemainingSeconds UploadSession.expiration UploadSession.validFor UploadSession.isExpired
      UploadSession.extend .pending ∧
    RemainingSeconds FileUpload.expiration FileUpload.validFor FileUpload.isExpired
      FileUpload.extend .pending := by
  constructor
  · refine ⟨fun session => session.expiration.countdown, ?_⟩
    intro settings now seconds session after granted inside
    obtain ⟨-, punctual, rfl⟩ := UploadSession.extend_run_eq_ok_iff.mp granted
    exact Instant.secondsUntil_extended punctual inside
  · refine ⟨fun file => file.expiration.countdown, ?_⟩
    intro settings now seconds file after granted inside
    obtain ⟨-, punctual, rfl⟩ := FileUpload.extend_run_eq_ok_iff.mp granted
    exact Instant.secondsUntil_extended punctual inside

end ReleaseUpload
