import ReleaseUpload.Text.Size

/-!
Hexadecimal digits. Writing uses the lower case, reading takes either case, and `value?_digit` says
that a written digit reads back as its value. `readByte` reads the digits of a number of one byte as
numbers are read elsewhere: a sign may stand before them.
-/

namespace ReleaseUpload.Hex

/-- The lower-case digit of a value below sixteen. -/
def digit (value : Nat) : Char :=
  if value < 10 then Char.ofNat ('0'.toNat + value) else Char.ofNat ('a'.toNat + (value - 10))

def value? (c : Char) : Option Nat :=
  if '0' ≤ c ∧ c ≤ '9' then some (c.toNat - '0'.toNat)
  else if 'a' ≤ c ∧ c ≤ 'f' then some (c.toNat - 'a'.toNat + 10)
  else if 'A' ≤ c ∧ c ≤ 'F' then some (c.toNat - 'A'.toNat + 10)
  else none

def isDigit (c : Char) : Bool := (value? c).isSome

theorem value?_digit {value : Nat} (small : value < 16) : value? (digit value) = some value := by
  have all : ∀ value : Fin 16, value? (digit value) = some value.val := by decide
  exact all ⟨value, small⟩

/-- The last `count` digits of a number, most significant first. -/
def digits : (count : Nat) → (number : Nat) → List Char
  | 0, _ => []
  | count + 1, number => digits count (number / 16) ++ [digit (number % 16)]

@[simp] theorem length_digits (count number : Nat) : (digits count number).length = count := by
  induction count generalizing number with
  | zero => rfl
  | succ count inductionHypothesis => simp [digits, inductionHypothesis]

theorem exists_of_mem_digits {count number : Nat} {c : Char} (found : c ∈ digits count number) :
    ∃ value < 16, digit value = c := by
  induction count generalizing number with
  | zero => simp [digits] at found
  | succ count inductionHypothesis =>
    rcases List.mem_append.mp found with found | found
    · exact inductionHypothesis found
    · exact ⟨number % 16, Nat.mod_lt _ (by decide), (List.mem_singleton.mp found).symm⟩

theorem utf8Size_digit {value : Nat} (small : value < 16) : (digit value).utf8Size = 1 := by
  have all : ∀ value : Fin 16, (digit value).utf8Size = 1 := by decide
  exact all ⟨value, small⟩

/-- The number that digits write, continuing from the digits before them. -/
def number? (before : Nat) : List Char → Option Nat
  | [] => some before
  | c :: rest => (value? c).bind fun value => number? (before * 16 + value) rest

theorem number?_append (before : Nat) (front back : List Char) :
    number? before (front ++ back) = (number? before front).bind (number? · back) := by
  induction front generalizing before with
  | nil => rfl
  | cons c rest inductionHypothesis =>
    simp only [List.cons_append, number?]
    cases value? c with
    | none => rfl
    | some value => exact inductionHypothesis _

theorem number?_digits (before count number : Nat) (small : number < Nat.pow 16 count) :
    number? before (digits count number) = some (before * Nat.pow 16 count + number) := by
  induction count generalizing number with
  | zero => simp [digits, number?] at small ⊢; omega
  | succ count inductionHypothesis =>
    have power : Nat.pow 16 (count + 1) = Nat.pow 16 count * 16 := rfl
    have less : number / 16 < Nat.pow 16 count := by
      rw [power] at small; omega
    rw [digits, number?_append, inductionHypothesis _ less]
    simp only [Option.bind_some, number?, value?_digit (Nat.mod_lt number (by decide)),
      Option.some.injEq]
    rw [power, ← Nat.mul_assoc]
    generalize before * Nat.pow 16 count = high
    omega

def ofBytes (bytes : List UInt8) : List Char := bytes.flatMap fun byte => digits 2 byte.toNat

@[simp] theorem length_ofBytes (bytes : List UInt8) :
    (ofBytes bytes).length = 2 * bytes.length := by
  induction bytes with
  | nil => rfl
  | cons byte rest inductionHypothesis =>
    simp only [ofBytes, List.flatMap_cons, List.length_append, length_digits, List.length_cons]
    simp only [ofBytes] at inductionHypothesis
    omega

theorem exists_of_mem_ofBytes {bytes : List UInt8} {c : Char} (found : c ∈ ofBytes bytes) :
    ∃ value < 16, digit value = c := by
  obtain ⟨byte, _, found⟩ := List.mem_flatMap.mp found
  exact exists_of_mem_digits found

theorem utf8Size_of_mem_ofBytes {bytes : List UInt8} {c : Char} (found : c ∈ ofBytes bytes) :
    c.utf8Size = 1 := by
  obtain ⟨value, small, rfl⟩ := exists_of_mem_ofBytes found
  exact utf8Size_digit small

@[simp] theorem size_ofBytes (bytes : List UInt8) :
    Text.size (ofBytes bytes) = 2 * bytes.length := by
  rw [← length_ofBytes]
  exact Text.size_eq_length fun c found => utf8Size_of_mem_ofBytes found

/-- The value of a digit that is one byte. -/
def digitValue? (byte : UInt8) : Option Nat := value? (Char.ofUInt8 byte)

def isDigitByte (byte : UInt8) : Bool := (digitValue? byte).isSome

/-- What keeps bytes from being the digits of a number of one byte. -/
inductive NumberFault where
  | empty
  | digit
  | tooLarge
  deriving DecidableEq, Repr

def NumberFault.message : NumberFault → String
  | .empty => "cannot parse integer from empty string"
  | .digit => "invalid digit found in string"
  | .tooLarge => "number too large to fit in target type"

/-- The number of one byte that digits write, continuing from the digits before them. -/
def readDigits (before : Nat) : List UInt8 → Except NumberFault UInt8
  | [] => .ok (UInt8.ofNat before)
  | byte :: rest =>
    match digitValue? byte with
    | none => .error .digit
    | some value =>
      if before * 16 + value < 256 then readDigits (before * 16 + value) rest
      else .error .tooLarge

/-- A number of one byte; a plus sign may stand before its digits. -/
def readByte : List UInt8 → Except NumberFault UInt8
  | [] => .error .empty
  | first :: rest =>
    readDigits 0 (if first = '+'.toUInt8 ∧ rest ≠ [] then rest else first :: rest)

theorem digitValue?_digit {value : Nat} (small : value < 16) :
    digitValue? (digit value).toUInt8 = some value := by
  have all : ∀ value : Fin 16, digitValue? (digit value).toUInt8 = some value.val := by decide
  exact all ⟨value, small⟩

/-- What holds of all 256 bytes is decided by looking at each. -/
theorem forall_byte {p : UInt8 → Prop} (all : ∀ code : Fin 256, p (UInt8.ofNat code))
    (byte : UInt8) : p byte := by
  have this_byte := all ⟨byte.toNat, byte.toNat_lt⟩
  rwa [UInt8.ofNat_toNat] at this_byte

/-- A digit is one of sixteen values, is written in one byte, and is the written digit of its value
but for its case. -/
theorem of_digitValue? {byte : UInt8} {value : Nat} (found : digitValue? byte = some value) :
    value < 16 ∧ byte < 0x80 ∧ (Char.ofUInt8 byte).toLower = digit value := by
  have all : ∀ byte, ∀ value ∈ digitValue? byte,
      value < 16 ∧ byte < 0x80 ∧ (Char.ofUInt8 byte).toLower = digit value :=
    forall_byte (by decide +kernel)
  exact all byte value found

/-- Two digits do not begin with a sign and are never too large. -/
theorem readByte_of_digits {first second : UInt8} {high low : Nat}
    (first_digit : digitValue? first = some high) (second_digit : digitValue? second = some low) :
    readByte [first, second] = .ok (UInt8.ofNat (high * 16 + low)) := by
  have unsigned : first ≠ '+'.toUInt8 := by
    rintro rfl
    have none_there : digitValue? '+'.toUInt8 = none := by decide
    rw [none_there] at first_digit
    cases first_digit
  have small_high := (of_digitValue? first_digit).1
  have small_low := (of_digitValue? second_digit).1
  rw [readByte, if_neg (fun sign => unsigned sign.1)]
  simp only [readDigits, first_digit, second_digit, Nat.zero_mul, Nat.zero_add]
  rw [if_pos (by omega), if_pos (by omega)]

end ReleaseUpload.Hex
