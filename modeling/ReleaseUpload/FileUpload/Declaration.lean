import ReleaseUpload.Json.Typed

/-!
What a client declares about a file before it sends the bytes. Nothing here is checked against the
bytes.
-/

namespace ReleaseUpload.FileUpload

structure Declaration where
  filename : String := ""
  /-- Size in bytes. -/
  size : UInt64 := 0
  /-- Digests by the name of their algorithm. -/
  hashes : Dictionary String := .empty
  metadata : String := ""
  deriving DecidableEq

namespace Declaration

/-- Adds a digest; an earlier one of the same algorithm is replaced. -/
def addHash (declaration : Declaration) (algorithm digest : String) : Declaration :=
  { declaration with hashes := declaration.hashes.insert algorithm digest }

def hashesNode (hashes : Dictionary String) : Json.Node :=
  .ofFields (hashes.map Json.Node.ofString).entries

def toNode (declaration : Declaration) : Json.Node := .ofFields [
  ("filename", .ofString declaration.filename),
  ("size", .ofNat declaration.size.toNat),
  ("hashes", hashesNode declaration.hashes),
  ("metadata", .ofString declaration.metadata)]

/-- The hashes and the metadata may be left out. -/
def ofNode? (node : Json.Node) : Option Declaration := do
  let part ← node.fields? ["filename", "size", "hashes", "metadata"]
  let filename ← Json.Node.required? (part "filename") (·.string?)
  let size ← Json.Node.required? (part "size") (·.uint64?)
  let hashes ← Json.Node.optional? (part "hashes") .empty (·.dictionaryOf? (·.string?))
  let metadata ← Json.Node.optional? (part "metadata") "" (·.string?)
  return { filename, size, hashes, metadata }

end Declaration

end ReleaseUpload.FileUpload
