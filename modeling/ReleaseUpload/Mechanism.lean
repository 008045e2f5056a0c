import ReleaseUpload.Identifier
import ReleaseUpload.Json.Value
import ReleaseUpload.Text.Quoted

/-!
Upload mechanisms: how a client hands over the bytes of a file. A mechanism has a name on the wire
and gives each file its instructions, which depend on nothing but the identifier of the file.
-/

namespace ReleaseUpload

/-- What a client is told in order to hand over a file. -/
abbrev Instructions := Json.Record

/-- A way to hand over the bytes of a file. -/
structure Mechanism where
  name : String
  /-- Whether the bytes have to be processed before the file is complete. -/
  requiresProcessing : Bool
  instructions : FileId → Instructions

namespace Mechanism

/-- The name of the mechanism that takes the bytes as the body of an HTTP request. -/
def httpPostName : String := "http-post-application-octet-stream"

/-- Drops every slash at the end. -/
def trimSlashes (base : List Char) : List Char := (base.reverse.dropWhile (· == '/')).reverse

/-- The base without slashes at its end, a slash, and the identifier. -/
def uploadUrl (base : String) (id : FileId) : String :=
  String.ofList (trimSlashes base.toList ++ '/' :: id.toChars)

/-- Takes the bytes in one HTTP request to a URL under `base`; they can be used as they come. -/
def httpPost (base : String) : Mechanism where
  name := httpPostName
  requiresProcessing := false
  instructions id := Json.Record.empty.insertText "upload-url" (uploadUrl base id)

/-- Where files are sent unless the settings say otherwise. -/
def defaultUrlBase : String := "/_/upload/files"

/-- Gives every file the same fields, and one that names the file if `idKey` is given. -/
def hosted (name : String) (requiresProcessing : Bool) (fields : Instructions)
    (idKey : Option String) (idMark : String) : Mechanism where
  name := name
  requiresProcessing := requiresProcessing
  instructions id :=
    match idKey with
    | some key => fields.insertText key (idMark ++ id.toString)
    | none => fields

def describe (mechanism : Mechanism) : String :=
  "UploadMechanism \x7b name: " ++ Text.quote mechanism.name ++ ", requires_processing: " ++
    (if mechanism.requiresProcessing then "true" else "false") ++ " \x7d"

end Mechanism

end ReleaseUpload
