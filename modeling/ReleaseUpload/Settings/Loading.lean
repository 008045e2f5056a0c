import ReleaseUpload.Settings.Environment
import ReleaseUpload.Settings.Toml.Reading

/-!
Where settings come from: their own values, a settings file over them, and the environment over
both. The layers are joined before anything is typed, so a setting of the wrong type does no harm
under one that hides it, and the result is judged last.
-/

namespace ReleaseUpload.Settings

inductive LoadError where
  /-- The text of the settings file is no TOML document, or has a tag on a value. -/
  | malformed
  /-- A setting has a value of the wrong type or out of range. -/
  | mistyped
  | invalid (fault : Fault)
  deriving DecidableEq, Repr

/-- The text of a settings file over nothing at all. -/
def fileLayer (file : Option String) : Except LoadError Layer :=
  match file with
  | none => .ok []
  | some text =>
    match Toml.layer? text with
    | some layer => .ok layer
    | none => .error .malformed

/-- The layers joined, the built-in values at the bottom. -/
def joined (file environment : Layer) : Layer :=
  ((Settings.toLayer {}).under file).under environment

/-- Settings from a file, if there is one, and from the variables of an environment. -/
def load (now : Instant) (file : Option String) (environment : List (String × String)) :
    Except LoadError Settings := do
  let layer := joined (← fileLayer file) (Environment.layer environment)
  match ofLayer? layer with
  | none => throw .mistyped
  | some settings =>
    match settings.fault? now with
    | some fault => throw (.invalid fault)
    | none => return settings

end ReleaseUpload.Settings
