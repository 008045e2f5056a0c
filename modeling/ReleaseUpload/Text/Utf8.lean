import ReleaseUpload.Text.Size

/-!
Texts as bytes of UTF-8. `Utf8.fault?` says where a list of bytes stops being text, and
`Utf8.fault?_of_ascii` that bytes of ASCII never do.
-/

namespace ReleaseUpload

/-- The bytes of a text. -/
def Text.bytes (text : String) : List UInt8 := text.toByteArray.data.toList

@[simp] theorem Text.length_bytes (text : String) : (bytes text).length = text.utf8ByteSize := by
  rw [← String.size_toByteArray]
  rfl

theorem Text.bytes_append (first second : String) :
    bytes (first ++ second) = bytes first ++ bytes second := by
  simp [bytes, String.toByteArray_append]

/-- Texts with the same bytes are the same. -/
theorem Text.bytes_injective {first second : String} (same : bytes first = bytes second) :
    first = second :=
  String.toByteArray_inj.mp (ByteArray.ext (Array.toList_inj.mp same))

theorem Text.bytes_ofList_eq_flatMap (chars : List Char) :
    bytes (String.ofList chars) = chars.flatMap String.utf8EncodeChar := by
  rw [bytes, String.toByteArray_ofList, List.utf8Encode, List.data_toByteArray,
    List.toList_toArray]

/-- Characters of one byte each are their bytes. -/
theorem Text.bytes_ofList {chars : List Char} (narrow : ∀ c ∈ chars, c.utf8Size = 1) :
    bytes (String.ofList chars) = chars.map Char.toUInt8 := by
  rw [bytes_ofList_eq_flatMap]
  induction chars with
  | nil => rfl
  | cons c rest inductionHypothesis =>
    have one : String.utf8EncodeChar c = [c.toUInt8] :=
      String.utf8EncodeChar_eq_singleton (narrow c List.mem_cons_self)
    have others := inductionHypothesis fun c found => narrow c (List.mem_cons_of_mem _ found)
    rw [List.flatMap_cons, one, others, List.singleton_append, List.map_cons]

namespace Utf8

/-- Whole characters up to `index`, and then none: either the bytes break off inside a character, or
`length` of them begin one that does not go on like this. -/
structure Fault where
  index : Nat
  length : Option Nat
  deriving DecidableEq, Repr

def Fault.message : Fault → String
  | ⟨index, some length⟩ => s!"invalid utf-8 sequence of {length} bytes from index {index}"
  | ⟨index, none⟩ => s!"incomplete utf-8 byte sequence from index {index}"

/-- The least and the greatest byte of those that may stand in one place. -/
abbrev Range := UInt8 × UInt8

/-- What has to follow the first byte of a character, if it is one. The narrower ranges keep out
surrogates, code points past the last, and characters that have a shorter form. -/
def following? (byte : UInt8) : Option (List Range) :=
  let any : Range := (0x80, 0xbf)
  if byte < 0x80 then some []
  else if byte < 0xc2 then none
  else if byte < 0xe0 then some [any]
  else if byte = 0xe0 then some [(0xa0, 0xbf), any]
  else if byte = 0xed then some [(0x80, 0x9f), any]
  else if byte < 0xf0 then some [any, any]
  else if byte = 0xf0 then some [(0x90, 0xbf), any, any]
  else if byte < 0xf4 then some [any, any, any]
  else if byte = 0xf4 then some [(0x80, 0x8f), any, any]
  else none

/-- The first fault after `seen` bytes of the character at `index`, to which more are expected. -/
def faultFrom? (index seen : Nat) : (expected : List Range) → List UInt8 → Option Fault
  | [], [] => none
  | _ :: _, [] => some ⟨index, none⟩
  | [], byte :: rest =>
    match following? byte with
    | some expected => faultFrom? (index + seen) 1 expected rest
    | none => some ⟨index + seen, some 1⟩
  | (least, most) :: expected, byte :: rest =>
    if least ≤ byte ∧ byte ≤ most then faultFrom? index (seen + 1) expected rest
    else some ⟨index, some seen⟩

def fault? (bytes : List UInt8) : Option Fault := faultFrom? 0 0 [] bytes

theorem faultFrom?_of_ascii {bytes : List UInt8} (ascii : ∀ byte ∈ bytes, byte < 0x80)
    (index seen : Nat) : faultFrom? index seen [] bytes = none := by
  induction bytes generalizing index seen with
  | nil => rfl
  | cons byte rest inductionHypothesis =>
    have alone : following? byte = some [] := if_pos (ascii byte List.mem_cons_self)
    rw [faultFrom?, alone]
    exact inductionHypothesis (fun byte found => ascii byte (List.mem_cons_of_mem _ found)) _ _

theorem fault?_of_ascii {bytes : List UInt8} (ascii : ∀ byte ∈ bytes, byte < 0x80) :
    fault? bytes = none := faultFrom?_of_ascii ascii 0 0

end Utf8

end ReleaseUpload
