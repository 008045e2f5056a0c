import ReleaseUpload.Settings

/-!
Layers of settings before they are typed. A layer is a table of items, an item may itself be a
table, and one layer goes over another key by key: where both have a table the tables are joined,
and elsewhere the upper item hides the lower one.
-/

namespace ReleaseUpload.Settings

inductive Item where
  | flag (value : Bool)
  | integer (value : Int)
  | text (value : String)
  | list (items : List Item)
  | table (fields : List (String × Item))
  /-- A value of a kind that no setting takes. -/
  | foreign

abbrev Layer := List (String × Item)

namespace Layer

/-- Puts an item under a key, in the place of the one that is there. -/
def put (layer : Layer) (key : String) (item : Item) : Layer :=
  match layer with
  | [] => [(key, item)]
  | head :: rest => if head.1 = key then (key, item) :: rest else head :: put rest key item

end Layer

mutual

/-- An item with another over it. -/
def Item.under (lower : Item) : Item → Item
  | .table upper =>
    match lower with
    | .table fields => .table (Layer.under fields upper)
    | _ => .table upper
  | .flag value => .flag value
  | .integer value => .integer value
  | .text value => .text value
  | .list items => .list items
  | .foreign => .foreign

/-- A layer with another over it. -/
def Layer.under (lower : Layer) : Layer → Layer
  | [] => lower
  | (key, item) :: rest =>
    Layer.under
      (lower.put key
        (match lower.lookup key with
        | some below => below.under item
        | none => item))
      rest

end

namespace Item

/-- Items by name. A table has them under their keys; a list has them in the order of the names, and
what is left over does not count. -/
def fields? (names : List String) : Item → Option (String → Option Item)
  | .table fields => some fun name => fields.lookup name
  | .list items => some fun name => (names.zip items).lookup name
  | _ => none

def bool? : Item → Option Bool
  | .flag value => some value
  | _ => none

def natural? (bound : Nat) : Item → Option Nat
  | .integer value => if 0 ≤ value ∧ value ≤ bound then some value.toNat else none
  | _ => none

def uint32? (item : Item) : Option UInt32 := (item.natural? 0xffffffff).map UInt32.ofNat

def uint64? (item : Item) : Option UInt64 := (item.natural? 0xffffffffffffffff).map UInt64.ofNat

def text? : Item → Option String
  | .text value => some value
  | _ => none

def texts? : Item → Option (List String)
  | .list items => items.mapM text?
  | _ => none

/-- A part as `read` reads it, and a value of its own when it is left out. -/
def part? {α : Type} (part : Option Item) (absent : α) (read : Item → Option α) : Option α :=
  match part with
  | some item => read item
  | none => some absent

end Item

end ReleaseUpload.Settings

namespace ReleaseUpload

open Settings (Item Layer)

/-- The keys of a section in the order of its parts. -/
def UploadSettings.partNames : List String := keys.map Key.name

def MechanismSettings.partNames : List String := ["enabled", "upload_url_base"]

def ReaperSettings.partNames : List String :=
  [Key.sweepInterval.name, Key.batchSize.name, "evict_terminal"]

def Settings.partNames : List String := ["uploads", "mechanisms", "reaper"]

def UploadSettings.toItem (settings : UploadSettings) : Item :=
  .table (keys.map fun key => (key.name, .integer (settings.get key).toNat))

def MechanismSettings.toItem (settings : MechanismSettings) : Item := .table [
  ("enabled", .list (settings.enabled.map .text)),
  ("upload_url_base", .text settings.uploadUrlBase)]

def ReaperSettings.toItem (settings : ReaperSettings) : Item := .table [
  (Key.sweepInterval.name, .integer settings.sweepInterval.toNat),
  (Key.batchSize.name, .integer settings.batchSize.toNat),
  ("evict_terminal", .flag settings.evictTerminal)]

/-- Settings as a layer that has every key. -/
def Settings.toLayer (settings : Settings) : Layer := [
  ("uploads", settings.uploads.toItem),
  ("mechanisms", settings.mechanisms.toItem),
  ("reaper", settings.reaper.toItem)]

def UploadSettings.ofItem? (item : Item) : Option UploadSettings := do
  let part ← item.fields? partNames
  let absent : UploadSettings := {}
  let fileLifetime ← Item.part? (part Key.fileLifetime.name) absent.fileLifetime (·.uint64?)
  let sessionLifetime ←
    Item.part? (part Key.sessionLifetime.name) absent.sessionLifetime (·.uint64?)
  let maxExtension ← Item.part? (part Key.maxExtension.name) absent.maxExtension (·.uint64?)
  return { fileLifetime, sessionLifetime, maxExtension }

def MechanismSettings.ofItem? (item : Item) : Option MechanismSettings := do
  let part ← item.fields? partNames
  let absent : MechanismSettings := {}
  let enabled ← Item.part? (part "enabled") absent.enabled (·.texts?)
  let uploadUrlBase ← Item.part? (part "upload_url_base") absent.uploadUrlBase (·.text?)
  return { enabled, uploadUrlBase }

def ReaperSettings.ofItem? (item : Item) : Option ReaperSettings := do
  let part ← item.fields? partNames
  let absent : ReaperSettings := {}
  let sweepInterval ← Item.part? (part Key.sweepInterval.name) absent.sweepInterval (·.uint64?)
  let batchSize ← Item.part? (part Key.batchSize.name) absent.batchSize (·.uint32?)
  let evictTerminal ← Item.part? (part "evict_terminal") absent.evictTerminal (·.bool?)
  return { sweepInterval, batchSize, evictTerminal }

/-- Settings from a layer; what it leaves out has its own value, what it has must be of the right
type, and keys without a meaning do not count. -/
def Settings.ofLayer? (layer : Layer) : Option Settings := do
  let uploads ← Item.part? (layer.lookup "uploads") {} UploadSettings.ofItem?
  let mechanisms ← Item.part? (layer.lookup "mechanisms") {} MechanismSettings.ofItem?
  let reaper ← Item.part? (layer.lookup "reaper") {} ReaperSettings.ofItem?
  return { uploads, mechanisms, reaper }

end ReleaseUpload
