import ReleaseUpload.Json.Typed
import ReleaseUpload.Settings.Layer

/-!
Settings as a JSON document. Every section and every key may be left out, keys without a meaning do
not count, and no key of a section may be given twice.
-/

namespace ReleaseUpload

open Json (Node)

def UploadSettings.toNode (settings : UploadSettings) : Node :=
  .ofFields (keys.map fun key => (key.name, .ofNat (settings.get key).toNat))

def MechanismSettings.toNode (settings : MechanismSettings) : Node := .ofFields [
  ("enabled", .list (settings.enabled.map .ofString)),
  ("upload_url_base", .ofString settings.uploadUrlBase)]

def ReaperSettings.toNode (settings : ReaperSettings) : Node := .ofFields [
  (Key.sweepInterval.name, .ofNat settings.sweepInterval.toNat),
  (Key.batchSize.name, .ofNat settings.batchSize.toNat),
  ("evict_terminal", .bool settings.evictTerminal)]

def Settings.toNode (settings : Settings) : Node := .ofFields [
  ("uploads", settings.uploads.toNode),
  ("mechanisms", settings.mechanisms.toNode),
  ("reaper", settings.reaper.toNode)]

def UploadSettings.ofNode? (node : Node) : Option UploadSettings := do
  let part ← node.fields? partNames
  let absent : UploadSettings := {}
  let fileLifetime ← Node.optional? (part Key.fileLifetime.name) absent.fileLifetime (·.uint64?)
  let sessionLifetime ←
    Node.optional? (part Key.sessionLifetime.name) absent.sessionLifetime (·.uint64?)
  let maxExtension ← Node.optional? (part Key.maxExtension.name) absent.maxExtension (·.uint64?)
  return { fileLifetime, sessionLifetime, maxExtension }

def MechanismSettings.ofNode? (node : Node) : Option MechanismSettings := do
  let part ← node.fields? partNames
  let absent : MechanismSettings := {}
  let enabled ← Node.optional? (part "enabled") absent.enabled (·.listOf? (·.string?))
  let uploadUrlBase ← Node.optional? (part "upload_url_base") absent.uploadUrlBase (·.string?)
  return { enabled, uploadUrlBase }

def ReaperSettings.ofNode? (node : Node) : Option ReaperSettings := do
  let part ← node.fields? partNames
  let absent : ReaperSettings := {}
  let sweepInterval ← Node.optional? (part Key.sweepInterval.name) absent.sweepInterval (·.uint64?)
  let batchSize ← Node.optional? (part Key.batchSize.name) absent.batchSize (·.uint32?)
  let evictTerminal ← Node.optional? (part "evict_terminal") absent.evictTerminal (·.bool?)
  return { sweepInterval, batchSize, evictTerminal }

def Settings.ofNode? (node : Node) : Option Settings := do
  let part ← node.fields? partNames
  let uploads ← Node.optional? (part "uploads") {} UploadSettings.ofNode?
  let mechanisms ← Node.optional? (part "mechanisms") {} MechanismSettings.ofNode?
  let reaper ← Node.optional? (part "reaper") {} ReaperSettings.ofNode?
  return { uploads, mechanisms, reaper }

end ReleaseUpload
