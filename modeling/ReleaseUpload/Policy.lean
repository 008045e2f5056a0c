import ReleaseUpload.Mechanism.Registry
import ReleaseUpload.Settings

/-!
What every session runs under: the mechanisms on offer and the lifetimes. `Policy.ofSettings` takes
the settings of a service only if nothing is wrong with them.
-/

namespace ReleaseUpload

structure Policy where
  mechanisms : Registry
  uploads : UploadSettings

namespace Policy

/-- The policy of a service without settings. -/
def standard : Policy := ⟨.standard, {}⟩

end Policy

def MechanismSettings.mechanism? (settings : MechanismSettings) (name : String) :
    Option Mechanism :=
  if name = Mechanism.httpPostName then some (.httpPost settings.uploadUrlBase) else none

/-- Registers the mechanism of a name. -/
def MechanismSettings.register (settings : MechanismSettings) (registry : Registry)
    (name : String) : Except MechanismSettings.Fault Registry :=
  match settings.mechanism? name with
  | some mechanism => .ok (registry.register mechanism)
  | none => .error (.unbuilt name)

def MechanismSettings.registry (settings : MechanismSettings) :
    Except MechanismSettings.Fault Registry := do
  if let some fault := settings.fault? then throw fault
  settings.enabled.foldlM settings.register Registry.empty

/-- The upload section is judged first; the reaper section plays no part. -/
def Policy.ofSettings (now : Instant) (settings : Settings) : Except Settings.Fault Policy := do
  if let some fault := settings.uploads.fault? now then throw (.uploads fault)
  let mechanisms ← settings.mechanisms.registry.mapError .mechanisms
  return ⟨mechanisms, settings.uploads⟩

end ReleaseUpload
