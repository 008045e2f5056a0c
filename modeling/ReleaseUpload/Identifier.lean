import ReleaseUpload.Text.Hex

/-!
Identifiers of upload sessions and of files, each 128 bits. The written form is thirty-two
lower-case hex digits in groups of eight, four, four, four and twelve.
-/

namespace ReleaseUpload

inductive IdKind where
  | session
  | file
  deriving DecidableEq, Repr

/-- An identifier; those of different kinds do not mix. -/
structure Id (kind : IdKind) where
  bits : BitVec 128
  deriving DecidableEq, Repr

abbrev SessionId := Id .session

abbrev FileId := Id .file

namespace Id

variable {kind : IdKind}

instance : LT (Id kind) := ⟨fun a b => a.bits < b.bits⟩

instance : LE (Id kind) := ⟨fun a b => a.bits ≤ b.bits⟩

instance (a b : Id kind) : Decidable (a < b) := inferInstanceAs (Decidable (a.bits < b.bits))

instance (a b : Id kind) : Decidable (a ≤ b) := inferInstanceAs (Decidable (a.bits ≤ b.bits))

/-- Random bits with the version four and the variant two written over their fields. -/
def ofRandom (bits : BitVec 128) : Id kind :=
  let versioned := (bits &&& ~~~(0xF#128 <<< 76)) ||| (0x4#128 <<< 76)
  ⟨(versioned &&& ~~~(0x3#128 <<< 62)) ||| (0x2#128 <<< 62)⟩

/-- Widths of the groups that a hyphen follows; the last group takes the rest. -/
def groupWidths : List Nat := [8, 4, 4, 4]

/-- Cuts groups off the front and sets a hyphen after each. -/
def hyphenate : (widths : List Nat) → List Char → List Char
  | [], rest => rest
  | width :: widths, digits => digits.take width ++ '-' :: hyphenate widths (digits.drop width)

def toChars (id : Id kind) : List Char := hyphenate groupWidths (Hex.digits 32 id.bits.toNat)

def toString (id : Id kind) : String := String.ofList id.toChars

instance : ToString (Id kind) := ⟨toString⟩

/-- The identifier with the name of its kind around it. -/
def label (id : Id kind) : String :=
  match kind with
  | .session => "UploadSessionId(" ++ id.toString ++ ")"
  | .file => "FileUploadSessionId(" ++ id.toString ++ ")"

end Id

end ReleaseUpload
