import ReleaseUpload.Proofs.UploadSession.Snapshot

/-!
Settings that are judged twice. `Settings.fault?` judges them as a whole when they are read, and
`Policy.ofSettings` judges the sections that it needs when the service starts. `judged_alike` says
that the two agree: the start fails for nothing that was not found before, and what it offers are
the enabled mechanisms, each built for the base that the settings give.
-/

namespace ReleaseUpload

namespace MechanismSettings

variable {settings : MechanismSettings} {name : String}

theorem fault?_eq_none_iff :
    settings.fault? = none ↔
      settings.enabled ≠ [] ∧ ∀ name ∈ settings.enabled, name ∈ available := by
  rw [fault?]
  split
  · rename_i empty
    simp [List.isEmpty_iff.mp empty]
  · rename_i some_enabled
    have enabled : settings.enabled ≠ [] := fun none => some_enabled (List.isEmpty_iff.mpr none)
    simp [enabled]

theorem fault?_ne_unbuilt (name : String) : settings.fault? ≠ some (.unbuilt name) := by
  rw [fault?]
  split <;> simp

/-- There is a mechanism for every name that is available, and for no other. -/
theorem isSome_mechanism?_iff : (settings.mechanism? name).isSome = true ↔ name ∈ available := by
  rw [mechanism?, available, List.mem_singleton]
  split <;> simp [*]

theorem mechanism?_of_available (listed : name ∈ available) :
    settings.mechanism? name = some (.httpPost settings.uploadUrlBase) :=
  if_pos (List.mem_singleton.mp listed)

/-- Names that are available are registered one after another, and none of them fails. -/
theorem foldlM_register {names : List String} (listed : ∀ name ∈ names, name ∈ available)
    (before : Registry) :
    ∃ registry, names.foldlM settings.register before = .ok registry ∧
      ∀ asked, registry.get? asked =
        if asked ∈ names then some (.httpPost settings.uploadUrlBase)
        else before.get? asked := by
  induction names generalizing before with
  | nil => exact ⟨before, rfl, fun asked => (if_neg List.not_mem_nil).symm⟩
  | cons name rest inductionHypothesis =>
    have first := listed name List.mem_cons_self
    have own_name : name = Mechanism.httpPostName := List.mem_singleton.mp first
    obtain ⟨registry, ran, found⟩ := inductionHypothesis
      (fun name inside => listed name (List.mem_cons_of_mem _ inside))
      (before.register (.httpPost settings.uploadUrlBase))
    refine ⟨registry, ?_, fun asked => ?_⟩
    · rw [List.foldlM_cons, register, mechanism?_of_available first]
      exact ran
    · rw [found, Registry.get?_register, Mechanism.httpPost, ← own_name]
      by_cases same : asked = name <;> by_cases later : asked ∈ rest <;> simp [same, later]

/-- The registry is built exactly if nothing is found wrong, and holds just what is enabled. -/
theorem registry_of_fault?_none (valid : settings.fault? = none) :
    ∃ registry, settings.registry = .ok registry ∧
      ∀ name, registry.get? name =
        if name ∈ settings.enabled then some (.httpPost settings.uploadUrlBase) else none := by
  obtain ⟨registry, ran, found⟩ :=
    foldlM_register (fault?_eq_none_iff.mp valid).2 Registry.empty
  refine ⟨registry, ?_, found⟩
  rw [MechanismSettings.registry, valid]
  exact ran

theorem registry_of_fault?_some {fault : Fault} (found : settings.fault? = some fault) :
    settings.registry = .error fault := by
  rw [MechanismSettings.registry, found]
  rfl

end MechanismSettings

namespace Settings

variable {settings : Settings} {now : Instant}

theorem fault?_eq_none_iff : settings.fault? now = none ↔
    settings.uploads.fault? now = none ∧ settings.mechanisms.fault? = none ∧
      settings.reaper.fault? = none := by
  simp [fault?]

/-- What is wrong with the first of the two sections that a policy is made of. -/
theorem ofSettings_cases (settings : Settings) (now : Instant) :
    (∃ fault, settings.fault? now = some fault ∧ Policy.ofSettings now settings = .error fault) ∨
    (settings.uploads.fault? now = none ∧ settings.mechanisms.fault? = none ∧
      ∃ policy, Policy.ofSettings now settings = .ok policy ∧
        policy.uploads = settings.uploads ∧
        settings.mechanisms.registry = .ok policy.mechanisms) := by
  cases uploads : settings.uploads.fault? now with
  | some fault =>
    refine .inl ⟨.uploads fault, ?_, ?_⟩
    · simp [fault?, uploads]
    · rw [Policy.ofSettings, uploads]
      rfl
  | none =>
    cases mechanisms : settings.mechanisms.fault? with
    | some fault =>
      refine .inl ⟨.mechanisms fault, ?_, ?_⟩
      · simp [fault?, uploads, mechanisms]
      · rw [Policy.ofSettings, uploads, MechanismSettings.registry_of_fault?_some mechanisms]
        rfl
    | none =>
      obtain ⟨registry, built, -⟩ := MechanismSettings.registry_of_fault?_none mechanisms
      refine .inr ⟨rfl, rfl, ⟨registry, settings.uploads⟩, ?_, rfl, built⟩
      rw [Policy.ofSettings, uploads, built]
      rfl

/-- What the start of a service makes of settings, and what is found wrong with them as a whole. -/
structure JudgedAlike (settings : Settings) (now : Instant) : Prop where
  valid_iff : settings.fault? now = none ↔
    (∃ policy, Policy.ofSettings now settings = .ok policy) ∧ settings.reaper.fault? = none
  /-- The same error, with the same message. -/
  refused : ∀ fault, Policy.ofSettings now settings = .error fault →
    settings.fault? now = some fault
  uploads : ∀ policy, Policy.ofSettings now settings = .ok policy →
    policy.uploads = settings.uploads
  named : ∀ policy, Policy.ofSettings now settings = .ok policy →
    policy.mechanisms.names.Pairwise (· < ·) ∧
      ∀ name, name ∈ policy.mechanisms.names ↔ name ∈ settings.mechanisms.enabled
  resolved : ∀ policy, Policy.ofSettings now settings = .ok policy →
    ∀ name ∈ settings.mechanisms.enabled,
      policy.mechanisms.get? name = some (.httpPost settings.mechanisms.uploadUrlBase)
  /-- Names that are available and mechanisms that can be built do not drift apart. -/
  in_step : ∀ name, (settings.mechanisms.mechanism? name).isSome = true ↔
    name ∈ MechanismSettings.available
  always_built : ∀ name, settings.mechanisms.registry ≠ .error (.unbuilt name)

/-- The start of a service fails for nothing that was not found wrong before, and offers just the
mechanisms that are enabled. -/
theorem judged_alike (settings : Settings) (now : Instant) : settings.JudgedAlike now := by
  have offered : ∀ policy, Policy.ofSettings now settings = .ok policy →
      policy.uploads = settings.uploads ∧ ∀ name, policy.mechanisms.get? name =
        if name ∈ settings.mechanisms.enabled
        then some (.httpPost settings.mechanisms.uploadUrlBase) else none := by
    intro policy made
    rcases settings.ofSettings_cases now with
      ⟨fault, -, refused⟩ | ⟨-, valid, other, same, kept, built⟩
    · cases made.symm.trans refused
    · cases made.symm.trans same
      obtain ⟨registry, again, found⟩ := MechanismSettings.registry_of_fault?_none valid
      cases built.symm.trans again
      exact ⟨kept, found⟩
  constructor
  case valid_iff =>
    rcases settings.ofSettings_cases now with
      ⟨fault, found, refused⟩ | ⟨uploads, mechanisms, policy, made, -⟩
    · simp [found, refused]
    · simp [fault?_eq_none_iff, uploads, mechanisms, made]
  case refused =>
    intro fault refused
    rcases settings.ofSettings_cases now with
      ⟨first, found, same⟩ | ⟨-, -, policy, made, -⟩
    · cases refused.symm.trans same
      exact found
    · cases refused.symm.trans made
  case uploads => exact fun policy made => (offered policy made).1
  case named =>
    intro policy made
    refine ⟨policy.mechanisms.mechanisms.pairwise_keys, fun name => ?_⟩
    rw [Registry.mem_names_iff, (offered policy made).2]
    simp
  case resolved =>
    intro policy made name enabled
    rw [(offered policy made).2, if_pos enabled]
  case in_step => exact fun name => MechanismSettings.isSome_mechanism?_iff
  case always_built =>
    intro name unbuilt
    cases judged : settings.mechanisms.fault? with
    | none =>
      obtain ⟨registry, built, -⟩ := MechanismSettings.registry_of_fault?_none judged
      cases unbuilt.symm.trans built
    | some fault =>
      cases unbuilt.symm.trans (MechanismSettings.registry_of_fault?_some judged)
      exact MechanismSettings.fault?_ne_unbuilt name judged

end Settings

end ReleaseUpload
