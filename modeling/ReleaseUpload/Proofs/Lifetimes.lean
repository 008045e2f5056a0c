import ReleaseUpload.Proofs.Countdown

/-!
Lifetimes that can be kept. Upload settings are refused with the first of seven complaints that
applies, in a fixed order, and taken if none does. Settings that were taken keep what they promise:
whatever is created under them at that instant lives for the seconds that they say, exactly, and
what is created later lives as long or up to the end of the calendar. All of it is said in
`lifetimes_kept`.
-/

namespace ReleaseUpload

namespace Instant

/-- Whether the calendar has the instant that comes some seconds later. -/
def HasAfter (instant : Instant) (seconds : UInt64) : Prop :=
  instant.nanos + seconds.toNat * Span.nanosPerSecond ≤ Calendar.last

instance (instant : Instant) (seconds : UInt64) : Decidable (instant.HasAfter seconds) := by
  unfold HasAfter
  infer_instance

variable {instant : Instant} {seconds : UInt64}

/-- A span that is cut off because no longer one can be given leads out of the calendar as well. -/
theorem isNone_add?_ofSetting :
    (instant.add? (.ofSetting seconds)).isNone = decide ¬instant.HasAfter seconds := by
  have inside := instant.first_le
  have cut_off : (Calendar.first ≤ instant.nanos + (Span.ofSetting seconds).nanos ∧
      instant.nanos + (Span.ofSetting seconds).nanos ≤ Calendar.last) ↔
        instant.HasAfter seconds := by
    simp only [Calendar.first, Calendar.last, HasAfter, Span.ofSetting, Span.ofSeconds,
      Span.nanosPerSecond, largestSeconds] at inside ⊢
    omega
  rw [add?, ofNanos?]
  by_cases has : instant.HasAfter seconds
  · rw [dif_pos (cut_off.mpr has)]
    simp [has]
  · rw [dif_neg (mt cut_off.mp has)]
    simp [has]

theorem nanos_add_ofSetting (instant : Instant) (seconds : UInt64) :
    (instant.add (.ofSetting seconds)).nanos =
      min Calendar.last (instant.nanos + seconds.toNat * Span.nanosPerSecond) := by
  have inside := instant.first_le
  have forward : 0 ≤ (Span.ofSetting seconds).nanos := by
    simp only [Span.ofSetting, Span.ofSeconds, Span.nanosPerSecond]
    omega
  rw [nanos_add_of_nonneg instant forward, Span.ofSetting, Span.ofSeconds]
  simp only [Calendar.first, Calendar.last, Span.nanosPerSecond, largestSeconds] at inside ⊢
  omega

end Instant

namespace UploadSettings

/-- What may be wrong with the settings, in the order in which it is judged, and what is said. -/
def complaints (settings : UploadSettings) (now : Instant) : List (Bool × String) := [
  (settings.fileLifetime = 0, "uploads.file_session_lifetime_secs cannot be 0"),
  (settings.sessionLifetime = 0, "uploads.upload_session_lifetime_secs cannot be 0"),
  (9223372036854775807 < settings.fileLifetime.toNat,
    "uploads.file_session_lifetime_secs " ++ toString settings.fileLifetime ++
      " exceeds maximum value 9223372036854775807"),
  (9223372036854775807 < settings.sessionLifetime.toNat,
    "uploads.upload_session_lifetime_secs " ++ toString settings.sessionLifetime ++
      " exceeds maximum value 9223372036854775807"),
  (9223372036854775807 < settings.maxExtension.toNat,
    "uploads.max_extend_secs " ++ toString settings.maxExtension ++
      " exceeds maximum value 9223372036854775807"),
  (¬now.HasAfter settings.fileLifetime,
    "uploads.file_session_lifetime_secs puts the expiration out of range"),
  (¬now.HasAfter settings.sessionLifetime,
    "uploads.upload_session_lifetime_secs puts the expiration out of range")]

theorem message_tooLarge (key : Key) (value : UInt64) :
    (Fault.tooLarge key value).message = "uploads." ++ key.name ++ " " ++ toString value ++
      " exceeds maximum value 9223372036854775807" := by
  have ending : " exceeds maximum value " ++ toString largestSeconds =
      " exceeds maximum value 9223372036854775807" := rfl
  rw [← ending]
  simp only [Fault.message, String.append_assoc]
  rfl

theorem complaints_eq (settings : UploadSettings) (now : Instant) :
    settings.complaints now =
      (lifetimeKeys.map fun key =>
        (decide (settings.get key = 0), (Fault.zero key).message)) ++
      ((keys.map fun key =>
        (decide (largestSeconds < (settings.get key).toNat),
          (Fault.tooLarge key (settings.get key)).message)) ++
      lifetimeKeys.map fun key =>
        ((now.add? (settings.span key)).isNone, (Fault.outOfRange key).message)) := by
  simp only [span, Instant.isNone_add?_ofSetting, message_tooLarge]
  rfl

/-- The settings are refused with the first complaint that applies. -/
theorem message_fault? (settings : UploadSettings) (now : Instant) :
    (settings.fault? now).map (·.message) =
      ((settings.complaints now).find? (·.1)).map (·.2) := by
  rw [complaints_eq, fault?]
  simp only [List.find?_append, List.find?_map, Option.map_or, Option.map_map,
    Option.orElse_eq_orElse, Option.orElse_eq_or]
  rfl

theorem fault?_eq_none_iff {settings : UploadSettings} {now : Instant} :
    settings.fault? now = none ↔
      settings.fileLifetime ≠ 0 ∧ settings.sessionLifetime ≠ 0 ∧
      (∀ key, (settings.get key).toNat ≤ 9223372036854775807) ∧
      now.HasAfter settings.fileLifetime ∧ now.HasAfter settings.sessionLifetime := by
  have every_key : (∀ key, (settings.get key).toNat ≤ 9223372036854775807) ↔
      settings.fileLifetime.toNat ≤ 9223372036854775807 ∧
      settings.sessionLifetime.toNat ≤ 9223372036854775807 ∧
      settings.maxExtension.toNat ≤ 9223372036854775807 :=
    ⟨fun all => ⟨all .fileLifetime, all .sessionLifetime, all .maxExtension⟩,
      fun ⟨file, session, extension⟩ key => by cases key <;> assumption⟩
  rw [← Option.map_eq_none_iff, message_fault?, Option.map_eq_none_iff, List.find?_eq_none,
    every_key]
  simp [complaints, and_assoc]

end UploadSettings

/-- How long records live that are created under settings which were taken at an instant. -/
structure LivesFor {Record : Type} (created : Instant → Record → Prop)
    (expiration : Record → Instant) (validFor : Record → Instant → Int)
    (isExpired : Record → Instant → Bool) (taken : Instant) (seconds : UInt64) : Prop where
  atOnce : ∀ record, created taken record →
    (expiration record).nanos = taken.nanos + seconds.toNat * Span.nanosPerSecond ∧
      validFor record taken = seconds.toNat ∧ isExpired record taken = false
  later : ∀ now record, taken ≤ now → created now record →
    (expiration record).nanos =
        min Calendar.last (now.nanos + seconds.toNat * Span.nanosPerSecond) ∧
      now ≤ expiration record

theorem livesFor_of_add {Record : Type} {created : Instant → Record → Prop}
    {expiration : Record → Instant} {taken : Instant} {seconds : UInt64}
    (has : taken.HasAfter seconds)
    (set : ∀ now record, created now record →
      expiration record = now.add (.ofSetting seconds)) :
    LivesFor created expiration (fun record => (expiration record).secondsUntil)
      (fun record now => decide (expiration record < now)) taken seconds where
  atOnce record new := by
    have deadline := taken.nanos_add_ofSetting seconds
    rw [Int.min_eq_right has] at deadline
    rw [set taken record new]
    refine ⟨deadline, ?_, ?_⟩
    · rw [Instant.secondsUntil_eq, deadline]
      simp only [Span.nanosPerSecond]
      omega
    · rw [decide_eq_false_iff_not, Instant.lt_def, deadline]
      simp only [Span.nanosPerSecond]
      omega
  later now record _ new := by
    have inside := now.le_last
    rw [set now record new, Instant.le_def, Instant.nanos_add_ofSetting]
    refine ⟨rfl, ?_⟩
    simp only [Span.nanosPerSecond]
    omega

namespace UploadSettings

/-- The sessions that are created at an instant under the settings. -/
def CreatesSession (settings : UploadSettings) (now : Instant) (session : UploadSession) : Prop :=
  ∃ mechanisms id project version nonce,
    session = Policy.newSession ⟨mechanisms, settings⟩ now id project version nonce

/-- The files that are created at an instant under the settings, whatever the session. -/
def CreatesFile (settings : UploadSettings) (now : Instant) (file : FileUpload) : Prop :=
  ∃ mechanisms session id declaration mechanism after,
    (UploadSession.create ⟨mechanisms, settings⟩ now id declaration mechanism).run session =
      .ok (some file) after

theorem expiration_of_createsFile {settings : UploadSettings} {now : Instant} {file : FileUpload}
    (new : settings.CreatesFile now file) :
    file.expiration = now.add (.ofSetting settings.fileLifetime) := by
  obtain ⟨mechanisms, session, id, declaration, mechanism, after, ran⟩ := new
  have created : session.created? (.ask ⟨mechanisms, settings⟩ now
      (.create id declaration mechanism)) = some file := by
    rw [UploadSession.created?]
    simp only [UploadSession.perform, EStateM.run_bind, ran]
    rfl
  obtain ⟨-, policy, time, other, declared, name, same, new⟩ :=
    UploadSession.created?_eq_some created
  cases same
  exact new.expiration

/-- Which settings are taken at an instant, and what they keep then. -/
structure LifetimesKept (settings : UploadSettings) (now : Instant) : Prop where
  taken_iff : settings.fault? now = none ↔
    settings.fileLifetime ≠ 0 ∧ settings.sessionLifetime ≠ 0 ∧
    (∀ key, (settings.get key).toNat ≤ 9223372036854775807) ∧
    now.HasAfter settings.fileLifetime ∧ now.HasAfter settings.sessionLifetime
  refused : (settings.fault? now).map (·.message) =
    ((settings.complaints now).find? (·.1)).map (·.2)
  sessions : settings.fault? now = none →
    LivesFor settings.CreatesSession UploadSession.expiration UploadSession.validFor
      UploadSession.isExpired now settings.sessionLifetime
  files : settings.fault? now = none →
    LivesFor settings.CreatesFile FileUpload.expiration FileUpload.validFor
      FileUpload.isExpired now settings.fileLifetime

/-- Settings are refused with the first complaint that applies, and settings that are not refused
keep the lifetimes that they promise. -/
theorem lifetimes_kept (settings : UploadSettings) (now : Instant) :
    settings.LifetimesKept now where
  taken_iff := fault?_eq_none_iff
  refused := settings.message_fault? now
  sessions taken := by
    obtain ⟨-, -, -, -, has⟩ := fault?_eq_none_iff.mp taken
    refine livesFor_of_add has fun time session new => ?_
    obtain ⟨mechanisms, id, project, version, nonce, rfl⟩ := new
    rfl
  files taken := by
    obtain ⟨-, -, -, has, -⟩ := fault?_eq_none_iff.mp taken
    exact livesFor_of_add has fun time file => expiration_of_createsFile

/-- The lifetime of a day that is given unless settings say otherwise is taken up to the last
instant with a whole day to follow. -/
example :
    let standard : UploadSettings := {}
    standard.fault? (.ofParts 253402214399 999999999) = none ∧
      standard.fault? (.ofParts 253402214400 0) = some (.outOfRange .sessionLifetime) := by decide

end UploadSettings

end ReleaseUpload
