import ReleaseUpload.Json.Typed
import ReleaseUpload.Sha256
import ReleaseUpload.Text.Hex
import ReleaseUpload.Text.Utf8

/-!
Session tokens: thirty-two bytes that name a release upload. A token is derived from the project,
the version and a nonce set side by side, and is written as sixty-four hex digits. `ofHex_toHex`
says that a written token reads back.
-/

namespace ReleaseUpload

structure Token where
  bytes : List UInt8
  length_bytes : bytes.length = 32
  deriving DecidableEq

namespace Token

inductive TextError where
  | length (bytes : Nat)
  | digit
  /-- Two bytes that are no text. -/
  | encoding (fault : Utf8.Fault)
  /-- Two bytes that are no number. -/
  | number (fault : Hex.NumberFault)
  deriving DecidableEq, Repr

def TextError.message : TextError → String
  | .length bytes => s!"expected 64 hex chars, got {bytes}"
  | .digit => "token must contain only hex digits"
  | .encoding fault => fault.message
  | .number fault => fault.message

/-- The digest of the three texts set side by side, with nothing between them. -/
def derive (project version nonce : String) : Token :=
  ⟨Sha256.digest (project ++ version ++ nonce).toByteArray.data.toList, Sha256.length_digest _⟩

/-- Sixty-four lower-case hex digits. -/
def toHex (token : Token) : String := String.ofList (Hex.ofBytes token.bytes)

/-- The byte that two digits write. -/
def readPair (pair : List UInt8) : Except TextError UInt8 :=
  match Utf8.fault? pair with
  | some fault => .error (.encoding fault)
  | none => (Hex.readByte pair).mapError .number

/-- The bytes that digits write, two by two, up to the first pair that writes none. -/
def readPairs : List UInt8 → Except TextError (List UInt8)
  | [] => .ok []
  | [last] => (readPair [last]).map ([·])
  | first :: second :: rest =>
    (readPair [first, second]).bind fun byte => (readPairs rest).map (byte :: ·)

theorem readPairs_cons_eq_ok_iff {first second : UInt8} {rest bytes : List UInt8} :
    readPairs (first :: second :: rest) = .ok bytes ↔
      ∃ byte others, readPair [first, second] = .ok byte ∧ readPairs rest = .ok others ∧
        bytes = byte :: others := by
  rw [readPairs]
  cases readPair [first, second] with
  | error error => simp [Except.bind]
  | ok byte =>
    cases readPairs rest with
    | error error => simp [Except.bind, Except.map]
    | ok others => simp [Except.bind, Except.map, eq_comm]

theorem length_of_readPairs {digits bytes : List UInt8} (read : readPairs digits = .ok bytes) :
    bytes.length = (digits.length + 1) / 2 := by
  induction digits using readPairs.induct generalizing bytes with
  | case1 =>
    cases read
    rfl
  | case2 last =>
    rw [readPairs] at read
    cases pair : readPair [last] with
    | error error =>
      rw [pair] at read
      cases read
    | ok byte =>
      rw [pair] at read
      cases read
      rw [List.length_singleton, List.length_singleton]
  | case3 first second rest inductionHypothesis =>
    obtain ⟨byte, others, -, read_rest, rfl⟩ := readPairs_cons_eq_ok_iff.mp read
    have shorter := inductionHypothesis read_rest
    simp only [List.length_cons]
    omega

theorem readPair_of_digits {first second : UInt8} {high low : Nat}
    (first_digit : Hex.digitValue? first = some high)
    (second_digit : Hex.digitValue? second = some low) :
    readPair [first, second] = .ok (UInt8.ofNat (high * 16 + low)) := by
  have whole : Utf8.fault? [first, second] = none := by
    refine Utf8.fault?_of_ascii fun byte found => ?_
    rcases List.mem_cons.mp found with rfl | found
    · exact (Hex.of_digitValue? first_digit).2.1
    · rw [List.mem_singleton.mp found]
      exact (Hex.of_digitValue? second_digit).2.1
  rw [readPair, whole]
  simp only [Hex.readByte_of_digits first_digit second_digit]
  rfl

/-- Every byte that was written reads back. -/
theorem readPairs_ofBytes (bytes : List UInt8) :
    readPairs ((Hex.ofBytes bytes).map Char.toUInt8) = .ok bytes := by
  induction bytes with
  | nil => rfl
  | cons byte rest inductionHypothesis =>
    have bound := byte.toNat_lt
    have halves : byte.toNat / 16 % 16 * 16 + byte.toNat % 16 = byte.toNat := by omega
    have high : byte.toNat / 16 % 16 < 16 := Nat.mod_lt _ (by decide)
    have low : byte.toNat % 16 < 16 := Nat.mod_lt _ (by decide)
    have pair := readPair_of_digits (Hex.digitValue?_digit high) (Hex.digitValue?_digit low)
    rw [halves, UInt8.ofNat_toNat] at pair
    exact readPairs_cons_eq_ok_iff.mpr ⟨byte, rest, pair, inductionHypothesis, rfl⟩

/-- Digits of either case. The length counts bytes of UTF-8 and is judged first, then all bytes
together, and only then are they read. -/
def ofHex (text : String) : Except TextError Token :=
  if long : text.utf8ByteSize = 64 then
    if (Text.bytes text).all Hex.isDigitByte then
      match read : readPairs (Text.bytes text) with
      | .ok bytes => .ok ⟨bytes, by
          rw [length_of_readPairs read, Text.length_bytes, long]⟩
      | .error error => .error error
    else .error .digit
  else .error (.length text.utf8ByteSize)

theorem ofHex_of_readPairs {text : String} {bytes : List UInt8} (long : text.utf8ByteSize = 64)
    (digits : (Text.bytes text).all Hex.isDigitByte = true)
    (read : readPairs (Text.bytes text) = .ok bytes) :
    ∃ whole, ofHex text = .ok ⟨bytes, whole⟩ := by
  have whole : bytes.length = 32 := by rw [length_of_readPairs read, Text.length_bytes, long]
  refine ⟨whole, ?_⟩
  rw [ofHex, dif_pos long, if_pos digits]
  split
  · rename_i other same
    cases read.symm.trans same
    rfl
  · rename_i error same
    cases read.symm.trans same

theorem bytes_toHex (token : Token) :
    Text.bytes token.toHex = (Hex.ofBytes token.bytes).map Char.toUInt8 :=
  Text.bytes_ofList fun _ found => Hex.utf8Size_of_mem_ofBytes found

theorem ofHex_toHex (token : Token) : ofHex token.toHex = .ok token := by
  have long : token.toHex.utf8ByteSize = 64 := by
    rw [toHex, Text.utf8ByteSize_ofList, Hex.size_ofBytes, token.length_bytes]
  have digits : (Text.bytes token.toHex).all Hex.isDigitByte = true := by
    rw [bytes_toHex, List.all_map, List.all_eq_true]
    intro c found
    obtain ⟨value, small, rfl⟩ := Hex.exists_of_mem_ofBytes found
    exact Option.isSome_iff_exists.mpr ⟨value, Hex.digitValue?_digit small⟩
  obtain ⟨whole, read⟩ := ofHex_of_readPairs long digits
    (by rw [bytes_toHex, readPairs_ofBytes])
  exact read

/-- The first sixteen digits, enough to tell tokens apart in a trace. -/
def abbreviation (token : Token) : String :=
  "SessionToken(" ++ String.ofList (token.toHex.toList.take 16) ++ ")"

def toNode (token : Token) : Json.Node :=
  .list (token.bytes.map fun byte => .ofNat byte.toNat)

def ofNode? (node : Json.Node) : Option Token :=
  (node.listOf? (·.byte?)).bind fun bytes =>
    if whole : bytes.length = 32 then some ⟨bytes, whole⟩ else none

end Token

end ReleaseUpload
