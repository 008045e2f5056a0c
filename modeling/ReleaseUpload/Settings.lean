import ReleaseUpload.Instant
import ReleaseUpload.Mechanism

/-!
Settings of the service in three sections: lifetimes of uploads, mechanisms on offer, and the reaper
that ends what has expired. Each section has a value of its own for whatever is left out. A section
is judged by `fault?`, which names the first thing wrong with it in a fixed order.
-/

namespace ReleaseUpload

inductive UploadSettings.Key where
  | fileLifetime
  | sessionLifetime
  | maxExtension
  deriving DecidableEq, Repr

structure UploadSettings where
  fileLifetime : UInt64 := 3600
  sessionLifetime : UInt64 := 86400
  /-- The most that one extension adds. -/
  maxExtension : UInt64 := 86400
  deriving DecidableEq, Repr

structure MechanismSettings where
  enabled : List String := [Mechanism.httpPostName]
  uploadUrlBase : String := Mechanism.defaultUrlBase
  deriving DecidableEq, Repr

/-- The keys of the reaper section whose value must not be zero. -/
inductive ReaperSettings.Key where
  | sweepInterval
  | batchSize
  deriving DecidableEq, Repr

structure ReaperSettings where
  /-- Seconds from one sweep to the next. -/
  sweepInterval : UInt64 := 60
  /-- The most sessions that one sweep ends, and the most that it evicts. -/
  batchSize : UInt32 := 1000
  /-- Whether a sweep evicts expired sessions that are settled. -/
  evictTerminal : Bool := true
  deriving DecidableEq, Repr

structure Settings where
  uploads : UploadSettings := {}
  mechanisms : MechanismSettings := {}
  reaper : ReaperSettings := {}
  deriving DecidableEq, Repr

def largestSeconds : Nat := 0x7fffffffffffffff

/-- A span of seconds, cut off at the most that a span can be given. -/
def Span.ofSetting (seconds : UInt64) : Span := .ofSeconds (min seconds.toNat largestSeconds)

namespace UploadSettings

def Key.name : Key → String
  | .fileLifetime => "file_session_lifetime_secs"
  | .sessionLifetime => "upload_session_lifetime_secs"
  | .maxExtension => "max_extend_secs"

def get (settings : UploadSettings) : Key → UInt64
  | .fileLifetime => settings.fileLifetime
  | .sessionLifetime => settings.sessionLifetime
  | .maxExtension => settings.maxExtension

/-- The two keys that say how long a new record lives. -/
def lifetimeKeys : List Key := [.fileLifetime, .sessionLifetime]

def keys : List Key := [.fileLifetime, .sessionLifetime, .maxExtension]

def span (settings : UploadSettings) (key : Key) : Span := .ofSetting (settings.get key)

/-- A requested extension, cut down to the most that one extension adds. -/
def extension (settings : UploadSettings) (seconds : UInt64) : Span :=
  .ofSetting (min seconds settings.maxExtension)

inductive Fault where
  | zero (key : Key)
  | tooLarge (key : Key) (value : UInt64)
  | outOfRange (key : Key)
  deriving DecidableEq, Repr

def Fault.message : Fault → String
  | .zero key => "uploads." ++ key.name ++ " cannot be 0"
  | .tooLarge key value =>
    "uploads." ++ key.name ++ s!" {value} exceeds maximum value {largestSeconds}"
  | .outOfRange key => "uploads." ++ key.name ++ " puts the expiration out of range"

/-- Zero lifetimes first, then values that no span holds, then lifetimes past the calendar. -/
def fault? (settings : UploadSettings) (now : Instant) : Option Fault :=
  (lifetimeKeys.find? fun key => settings.get key = 0).map .zero <|>
  ((keys.find? fun key => largestSeconds < (settings.get key).toNat).map
    fun key => .tooLarge key (settings.get key)) <|>
  (lifetimeKeys.find? fun key => (now.add? (settings.span key)).isNone).map .outOfRange

end UploadSettings

namespace MechanismSettings

def available : List String := [Mechanism.httpPostName]

inductive Fault where
  | noneEnabled
  | unknown (name : String)
  /-- A name that is available, but of no mechanism. -/
  | unbuilt (name : String)
  deriving DecidableEq, Repr

def Fault.message : Fault → String
  | .noneEnabled => "mechanisms.enabled must name at least one mechanism"
  | .unknown name => "mechanisms.enabled: unknown mechanism '" ++ name ++ "'"
  | .unbuilt name => "unknown mechanism '" ++ name ++ "'"

def fault? (settings : MechanismSettings) : Option Fault :=
  if settings.enabled.isEmpty then some .noneEnabled
  else (settings.enabled.find? fun name => name ∉ available).map .unknown

end MechanismSettings

namespace ReaperSettings

def Key.name : Key → String
  | .sweepInterval => "sweep_interval_secs"
  | .batchSize => "batch_size"

inductive Fault where
  | zero (key : Key)
  deriving DecidableEq, Repr

def Fault.message : Fault → String
  | .zero key => "reaper." ++ key.name ++ " cannot be 0"

def fault? (settings : ReaperSettings) : Option Fault :=
  if settings.sweepInterval = 0 then some (.zero .sweepInterval)
  else if settings.batchSize = 0 then some (.zero .batchSize)
  else none

end ReaperSettings

namespace Settings

inductive Fault where
  | uploads (fault : UploadSettings.Fault)
  | mechanisms (fault : MechanismSettings.Fault)
  | reaper (fault : ReaperSettings.Fault)
  deriving DecidableEq, Repr

def Fault.message : Fault → String
  | .uploads fault => fault.message
  | .mechanisms fault => fault.message
  | .reaper fault => fault.message

/-- The sections in order. -/
def fault? (settings : Settings) (now : Instant) : Option Fault :=
  (settings.uploads.fault? now).map .uploads <|>
  settings.mechanisms.fault?.map .mechanisms <|>
  settings.reaper.fault?.map .reaper

end Settings

end ReleaseUpload
