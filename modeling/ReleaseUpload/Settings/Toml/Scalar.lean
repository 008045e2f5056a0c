import ReleaseUpload.Decimal
import ReleaseUpload.Settings.Layer
import ReleaseUpload.Text.Hex

/-!
Scalars of a TOML document other than strings: booleans, integers in four bases, decimals and dates.
A scalar is judged as one word. Decimals and dates are checked but not kept, because no setting
takes one; a date counts as a table of parts, none of which is a setting.
-/

namespace ReleaseUpload.Settings.Toml

/-- Takes out underscores, each of which must stand between two digits. -/
def plainDigits? (isDigit : Char → Bool) : List Char → Option (List Char)
  | [] => none
  | [c] => if isDigit c then some [c] else none
  | c :: '_' :: d :: rest =>
    if isDigit c && isDigit d then (plainDigits? isDigit (d :: rest)).map (c :: ·) else none
  | c :: rest => if isDigit c then (plainDigits? isDigit rest).map (c :: ·) else none

/-- Digits without a leading zero, unless they are one zero. -/
def wholeDigits? (chars : List Char) : Option (List Char) :=
  (plainDigits? Char.isDigit chars).bind fun digits =>
    match digits with
    | '0' :: _ :: _ => none
    | digits => some digits

def smallest : Int := -0x8000000000000000

def largest : Int := 0x7fffffffffffffff

def bounded? (value : Int) : Option Item :=
  if smallest ≤ value ∧ value ≤ largest then some (.integer value) else none

/-- A sign off the front, and whether it is a minus. -/
def splitSign : List Char → Bool × List Char
  | '-' :: rest => (true, rest)
  | '+' :: rest => (false, rest)
  | chars => (false, chars)

def decimalInteger? (word : List Char) : Option Item :=
  let (negative, chars) := splitSign word
  (wholeDigits? chars).bind fun digits =>
    let magnitude : Int := Decimal.ofDigits digits
    bounded? (if negative then -magnitude else magnitude)

/-- Digits of another base, which stand without a sign. -/
def basedInteger? (base : Nat) (chars : List Char) : Option Item :=
  let isDigit c := (Hex.value? c).any (· < base)
  (plainDigits? isDigit chars).bind fun digits =>
    bounded? (digits.foldl (fun (value : Int) c => value * base + (Hex.value? c).getD 0) 0)

def integer? : List Char → Option Item
  | '0' :: 'x' :: rest => basedInteger? 16 rest
  | '0' :: 'o' :: rest => basedInteger? 8 rest
  | '0' :: 'b' :: rest => basedInteger? 2 rest
  | word => decimalInteger? word

/-- Cuts a word before the first character of a kind. -/
def splitAt (stops : Char → Bool) (word : List Char) : List Char × List Char :=
  (word.takeWhile (!stops ·), word.dropWhile (!stops ·))

/-- The digits after a point, if there is one. -/
def places? : List Char → Option (List Char)
  | [] => some []
  | _ :: places => plainDigits? Char.isDigit places

/-- The power of ten after its letter, if there is one. -/
def power? : List Char → Option Int
  | [] => some 0
  | _ :: rest =>
    let (negative, digits) := splitSign rest
    (plainDigits? Char.isDigit digits).map fun digits =>
      if negative then -(Decimal.ofDigits digits : Int) else Decimal.ofDigits digits

/-- A number with a point or an exponent; a positive one must round to a finite double. -/
def decimal? (word : List Char) : Option Item := do
  let (negative, chars) := splitSign word
  let (mantissa, tail) := splitAt (fun c => c == 'e' || c == 'E') chars
  let (whole, fraction) := splitAt (· == '.') mantissa
  if fraction.isEmpty && tail.isEmpty then none
  let whole ← wholeDigits? whole
  let places ← places? fraction
  let power ← power? tail
  if negative || Decimal.isFinite (Decimal.ofDigits (whole ++ places)) (power - places.length) then
    return .foreign
  else none

/-- Infinity and what is not a number. -/
def special? (word : List Char) : Option Item :=
  let name := (splitSign word).2
  if name = "inf".toList ∨ name = "nan".toList then some .foreign else none

/-- Decimal digits of a fixed width with a value in a range, off the front. -/
def field? (width least most : Nat) (chars : List Char) : Option (Nat × List Char) :=
  let digits := chars.take width
  let value := Decimal.ofDigits digits
  if digits.length = width ∧ digits.all Char.isDigit ∧ least ≤ value ∧ value ≤ most then
    some (value, chars.drop width)
  else none

def expect? (wanted : Char) : List Char → Option (List Char)
  | c :: rest => if c = wanted then some rest else none
  | [] => none

def daysOfMonth (year month : Nat) : Nat :=
  if month = 2 then
    if (year % 4 = 0 ∧ year % 100 ≠ 0) ∨ year % 400 = 0 then 29 else 28
  else if month ∈ [4, 6, 9, 11] then 30 else 31

/-- A year, a month and a day that the month has. -/
def date? (chars : List Char) : Option (List Char) := do
  let (year, chars) ← field? 4 0 9999 chars
  let (month, chars) ← field? 2 1 12 (← expect? '-' chars)
  let (_, chars) ← field? 2 1 (daysOfMonth year month) (← expect? '-' chars)
  return chars

/-- Hours, minutes, seconds and perhaps a fraction. -/
def time? (chars : List Char) : Option (List Char) := do
  let (_, chars) ← field? 2 0 23 chars
  let (_, chars) ← field? 2 0 59 (← expect? ':' chars)
  let (_, chars) ← field? 2 0 60 (← expect? ':' chars)
  match chars with
  | '.' :: c :: rest => if c.isDigit then return rest.dropWhile Char.isDigit else none
  | '.' :: [] => none
  | chars => return chars

/-- Nothing, the letter of universal time, or hours and minutes with a sign. -/
def offset? : List Char → Option (List Char)
  | 'Z' :: rest | 'z' :: rest => some rest
  | '+' :: rest | '-' :: rest => do
    let (_, chars) ← field? 2 0 23 rest
    let (_, chars) ← field? 2 0 59 (← expect? ':' chars)
    return chars
  | chars => some chars

/-- Whether a word is a date, a time, or both with an offset. -/
def isMoment (word : List Char) : Bool :=
  match date? word with
  | some [] => true
  | some (c :: rest) =>
    (c == 'T' || c == 't' || c == ' ') && (time? rest).bind offset? == some []
  | none => time? word == some []

def moment? (word : List Char) : Option Item :=
  if isMoment word then some (.table []) else none

/-- What a word of a document stands for. -/
def scalar? (word : List Char) : Option Item :=
  if word = "true".toList then some (.flag true)
  else if word = "false".toList then some (.flag false)
  else integer? word <|> decimal? word <|> special? word <|> moment? word

def isWordChar (c : Char) : Bool :=
  c.isAlphanum || c == '_' || c == '+' || c == '-' || c == '.' || c == ':'

/-- A word off the front; a date may take its time with it after one space. -/
def readScalar? (chars : List Char) : Option (Item × List Char) :=
  let word := chars.takeWhile isWordChar
  let rest := chars.dropWhile isWordChar
  match (date? word), rest with
  | some [], ' ' :: c :: more =>
    if c.isDigit then
      let joined := word ++ ' ' :: (c :: more).takeWhile isWordChar
      (scalar? joined).map fun item => (item, (c :: more).dropWhile isWordChar)
    else (scalar? word).map fun item => (item, rest)
  | _, _ => (scalar? word).map fun item => (item, rest)

end ReleaseUpload.Settings.Toml
