import ReleaseUpload.Token

/-!
Tokens as texts. A token has one written form of sixty-four digits. A text is read if it is
sixty-four bytes long and all of them are hex digits, and then it is the written form of its token
but for the case of its letters. Any other text is refused for its length in bytes, and for its
digits only if the length is right; after that no two digits can fail to be text or to be a number.
-/

namespace ReleaseUpload

/-- More than one byte of UTF-8 is never ASCII. -/
theorem Utf8.utf8Size_of_ascii {c : Char}
    (ascii : ∀ byte ∈ String.utf8EncodeChar c, byte < 0x80) : c.utf8Size = 1 := by
  refine Decidable.byContradiction fun wide => ?_
  have beyond : ¬c.val.toNat ≤ 127 := fun within => wide (Char.utf8Size_eq_one_iff.mpr within)
  unfold String.utf8EncodeChar at ascii
  simp only [if_neg beyond] at ascii
  have first_byte : ∀ number : Nat, 192 ≤ number → number < 256 → ¬UInt8.ofNat number < 0x80 := by
    intro number least most below
    rw [UInt8.lt_iff_toNat_lt, UInt8.toNat_ofNat_of_lt' most] at below
    have : (0x80 : UInt8).toNat = 128 := rfl
    omega
  split at ascii
  · exact first_byte _ (by omega) (by omega) (ascii _ List.mem_cons_self)
  · split at ascii
    · exact first_byte _ (by omega) (by omega) (ascii _ List.mem_cons_self)
    · exact first_byte _ (by omega) (by omega) (ascii _ List.mem_cons_self)

theorem Text.ofUInt8_toUInt8 {c : Char} (narrow : c.utf8Size = 1) :
    Char.ofUInt8 c.toUInt8 = c := by
  have within : c.val.toNat ≤ 127 := Char.utf8Size_eq_one_iff.mp narrow
  apply Char.ext
  apply UInt32.toNat_inj.mp
  change c.val.toUInt8.toUInt32.toNat = c.val.toNat
  rw [UInt8.toNat_toUInt32, UInt32.toNat_toUInt8]
  omega

/-- The characters of a text of ASCII are its bytes one by one. -/
theorem Text.map_bytes_of_ascii {text : String} (ascii : ∀ byte ∈ bytes text, byte < 0x80) :
    (bytes text).map Char.ofUInt8 = text.toList := by
  have spread : bytes text = text.toList.flatMap String.utf8EncodeChar := by
    rw [← bytes_ofList_eq_flatMap, String.ofList_toList]
  have narrow : ∀ c ∈ text.toList, c.utf8Size = 1 := fun c found =>
    Utf8.utf8Size_of_ascii fun byte inside =>
      ascii byte (spread ▸ List.mem_flatMap.mpr ⟨c, found, inside⟩)
  have single : bytes text = text.toList.map Char.toUInt8 := by
    rw [← bytes_ofList narrow, String.ofList_toList]
  rw [single, List.map_map]
  exact (List.map_congr_left fun c found => ofUInt8_toUInt8 (narrow c found)).trans
    (List.map_id _)

namespace Hex

/-- An ASCII digit, or one of the first six letters in lower or upper case. -/
def IsHexByte (byte : UInt8) : Prop :=
  (0x30 ≤ byte ∧ byte ≤ 0x39) ∨ (0x61 ≤ byte ∧ byte ≤ 0x66) ∨ (0x41 ≤ byte ∧ byte ≤ 0x46)

instance (byte : UInt8) : Decidable (IsHexByte byte) := by
  unfold IsHexByte
  infer_instance

def IsLowerHexDigit (c : Char) : Prop := ('0' ≤ c ∧ c ≤ '9') ∨ ('a' ≤ c ∧ c ≤ 'f')

instance (c : Char) : Decidable (IsLowerHexDigit c) := by
  unfold IsLowerHexDigit
  infer_instance

theorem isDigitByte_iff {byte : UInt8} : isDigitByte byte = true ↔ IsHexByte byte := by
  have all : ∀ byte, isDigitByte byte = true ↔ IsHexByte byte := forall_byte (by decide +kernel)
  exact all byte

theorem isLowerHexDigit_digit {value : Nat} (small : value < 16) :
    IsLowerHexDigit (digit value) := by
  have all : ∀ value : Fin 16, IsLowerHexDigit (digit value) := by decide
  exact all ⟨value, small⟩

end Hex

namespace Token

/-- Two by two, digits are read as the bytes that they write but for their case. -/
theorem readPairs_of_digits {digits : List UInt8}
    (all : ∀ byte ∈ digits, Hex.isDigitByte byte = true) (even : digits.length % 2 = 0) :
    ∃ bytes, readPairs digits = .ok bytes ∧
      Hex.ofBytes bytes = digits.map fun byte => (Char.ofUInt8 byte).toLower := by
  induction digits using readPairs.induct with
  | case1 => exact ⟨[], rfl, rfl⟩
  | case2 last => simp at even
  | case3 first second rest inductionHypothesis =>
    obtain ⟨high, first_digit⟩ := Option.isSome_iff_exists.mp (all first (by simp))
    obtain ⟨low, second_digit⟩ := Option.isSome_iff_exists.mp (all second (by simp))
    obtain ⟨others, read, written⟩ := inductionHypothesis
      (fun byte found => all byte (by simp [found])) (by simp at even; omega)
    obtain ⟨small_high, -, first_lower⟩ := Hex.of_digitValue? first_digit
    obtain ⟨small_low, -, second_lower⟩ := Hex.of_digitValue? second_digit
    have pair := readPair_of_digits first_digit second_digit
    refine ⟨_, readPairs_cons_eq_ok_iff.mpr ⟨_, others, pair, read, rfl⟩, ?_⟩
    have value : (UInt8.ofNat (high * 16 + low)).toNat = high * 16 + low :=
      UInt8.toNat_ofNat_of_lt' (show _ < 256 by omega)
    have front : (high * 16 + low) / 16 % 16 = high := by omega
    have back : (high * 16 + low) % 16 = low := by omega
    have two : Hex.digits 2 (UInt8.ofNat (high * 16 + low)).toNat =
        [Hex.digit high, Hex.digit low] := by
      rw [value, Hex.digits, Hex.digits, Hex.digits, front, back]
      rfl
    rw [Hex.ofBytes, List.flatMap_cons, ← Hex.ofBytes, two, written, List.map_cons, List.map_cons,
      first_lower, second_lower]
    rfl

/-- The texts that are read: sixty-four bytes, all of them hex digits. -/
structure IsHexText (text : String) : Prop where
  long : text.utf8ByteSize = 64
  digits : ∀ byte ∈ Text.bytes text, Hex.IsHexByte byte

section

variable {text other : String} {token : Token}

theorem all_isDigitByte_iff : (Text.bytes text).all Hex.isDigitByte = true ↔
    ∀ byte ∈ Text.bytes text, Hex.IsHexByte byte := by
  simp only [List.all_eq_true, Hex.isDigitByte_iff]

/-- A text of digits is its token's written form but for the case of the letters. -/
theorem ofHex_of_isHexText (hex : IsHexText text) :
    ∃ token, ofHex text = .ok token ∧ token.toHex = text.toLower := by
  have digits : ∀ byte ∈ Text.bytes text, Hex.isDigitByte byte = true := fun byte found =>
    Hex.isDigitByte_iff.mpr (hex.digits byte found)
  have ascii : ∀ byte ∈ Text.bytes text, byte < 0x80 := fun byte found => by
    obtain ⟨value, digit⟩ := Option.isSome_iff_exists.mp (digits byte found)
    exact (Hex.of_digitValue? digit).2.1
  have even : (Text.bytes text).length % 2 = 0 := by rw [Text.length_bytes, hex.long]
  obtain ⟨bytes, read, written⟩ := readPairs_of_digits digits even
  obtain ⟨whole, accepted⟩ := ofHex_of_readPairs hex.long (List.all_eq_true.mpr digits) read
  refine ⟨_, accepted, ?_⟩
  have lowered : Hex.ofBytes bytes = text.toLower.toList := by
    have letterwise : text.toLower.toList = text.toList.map Char.toLower := String.toList_map
    rw [written, letterwise, ← Text.map_bytes_of_ascii ascii, List.map_map]
    rfl
  rw [toHex, lowered, String.ofList_toList]

theorem ofHex_of_length (short : text.utf8ByteSize ≠ 64) :
    ofHex text = .error (.length text.utf8ByteSize) := by
  rw [ofHex, dif_neg short]

theorem ofHex_of_digit (long : text.utf8ByteSize = 64)
    (strange : ¬∀ byte ∈ Text.bytes text, Hex.IsHexByte byte) :
    ofHex text = .error .digit := by
  rw [ofHex, dif_pos long, if_neg (mt all_isDigitByte_iff.mp strange)]

/-- The three outcomes of reading a text, and no other. -/
theorem ofHex_cases (text : String) :
    (IsHexText text ∧ ∃ token, ofHex text = .ok token ∧ token.toHex = text.toLower) ∨
    (text.utf8ByteSize ≠ 64 ∧ ofHex text = .error (.length text.utf8ByteSize)) ∨
    (text.utf8ByteSize = 64 ∧ (∃ byte ∈ Text.bytes text, ¬Hex.IsHexByte byte) ∧
      ofHex text = .error .digit) := by
  by_cases long : text.utf8ByteSize = 64
  · by_cases digits : ∀ byte ∈ Text.bytes text, Hex.IsHexByte byte
    · exact .inl ⟨⟨long, digits⟩, ofHex_of_isHexText ⟨long, digits⟩⟩
    · refine .inr (.inr ⟨long, ?_, ofHex_of_digit long digits⟩)
      simpa using digits
  · exact .inr (.inl ⟨long, ofHex_of_length long⟩)

theorem ofHex_eq_ok_iff :
    ofHex text = .ok token ↔ IsHexText text ∧ token.toHex = text.toLower := by
  constructor
  · intro accepted
    rcases ofHex_cases text with ⟨hex, read, same, written⟩ | ⟨-, refused⟩ | ⟨-, -, refused⟩
    · cases accepted.symm.trans same
      exact ⟨hex, written⟩
    · cases accepted.symm.trans refused
    · cases accepted.symm.trans refused
  · rintro ⟨hex, written⟩
    obtain ⟨read, accepted, same⟩ := ofHex_of_isHexText hex
    have twice := ofHex_toHex read
    rw [same.trans written.symm, ofHex_toHex] at twice
    rw [accepted, Except.ok.inj twice]

end

/-- How tokens and texts of hex digits correspond. -/
structure HexCodec : Prop where
  written : ∀ token : Token,
    token.toHex.length = 64 ∧ ∀ c ∈ token.toHex.toList, Hex.IsLowerHexDigit c
  read_back : ∀ token : Token, ofHex token.toHex = .ok token
  accepted_iff : ∀ text, (∃ token, ofHex text = .ok token) ↔ IsHexText text
  written_back : ∀ text token, ofHex text = .ok token → token.toHex = text.toLower
  /-- The length is judged first, in bytes. -/
  wrong_length : ∀ text, text.utf8ByteSize ≠ 64 →
    ofHex text = .error (.length text.utf8ByteSize)
  wrong_digit : ∀ text, text.utf8ByteSize = 64 → ¬IsHexText text → ofHex text = .error .digit
  /-- What comes after the two judgements never fails. -/
  no_other_error : ∀ text, (∀ fault, ofHex text ≠ .error (.encoding fault)) ∧
    ∀ fault, ofHex text ≠ .error (.number fault)
  same_iff : ∀ text other, IsHexText text → IsHexText other →
    (ofHex text = ofHex other ↔ text.toLower = other.toLower)

/-- Tokens have one written form, and the texts that are read are these forms in any case. -/
theorem hex_codec : HexCodec where
  written token := by
    constructor
    · rw [toHex, String.length_ofList, Hex.length_ofBytes, token.length_bytes]
    · intro c found
      rw [toHex, String.toList_ofList] at found
      obtain ⟨value, small, rfl⟩ := Hex.exists_of_mem_ofBytes found
      exact Hex.isLowerHexDigit_digit small
  read_back := ofHex_toHex
  accepted_iff text := by
    simp only [ofHex_eq_ok_iff]
    constructor
    · rintro ⟨token, hex, -⟩
      exact hex
    · intro hex
      obtain ⟨token, -, written⟩ := ofHex_of_isHexText hex
      exact ⟨token, hex, written⟩
  written_back text token accepted := (ofHex_eq_ok_iff.mp accepted).2
  wrong_length text := ofHex_of_length
  wrong_digit text long strange := ofHex_of_digit long fun digits => strange ⟨long, digits⟩
  no_other_error text := by
    rcases ofHex_cases text with ⟨-, token, outcome, -⟩ | ⟨-, outcome⟩ | ⟨-, -, outcome⟩ <;>
      simp [outcome]
  same_iff text other hex hex_other := by
    obtain ⟨token, read, written⟩ := ofHex_of_isHexText hex
    obtain ⟨token_other, read_other, written_other⟩ := ofHex_of_isHexText hex_other
    rw [read, read_other, ← written, ← written_other]
    constructor
    · intro same
      rw [Except.ok.inj same]
    · intro same
      rw [← ofHex_toHex token, same, ofHex_toHex]

/-- A sign gets past the reader of numbers, so it has to be refused before. -/
example : readPair ['+'.toUInt8, 'f'.toUInt8] = .ok 15 ∧ ¬Hex.IsHexByte '+'.toUInt8 :=
  ⟨rfl, by decide⟩

end Token

end ReleaseUpload
