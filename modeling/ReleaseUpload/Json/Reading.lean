import ReleaseUpload.Json.Node
import ReleaseUpload.Text.Hex
import ReleaseUpload.Decimal

/-!
From text to `Node`. The grammar is strict: no leading zeros, no trailing commas, no control
characters inside strings, blanks only between tokens, and nothing after the document but blanks.
-/

namespace ReleaseUpload.Json

def isBlank (c : Char) : Bool := c == ' ' || c == '\n' || c == '\t' || c == '\r'

def skipBlanks (chars : List Char) : List Char := chars.dropWhile isBlank

/-- One digit or more off the front. -/
def readDigits? (chars : List Char) : Option (List Char × List Char) :=
  if (chars.takeWhile Char.isDigit).isEmpty then none
  else some (chars.takeWhile Char.isDigit, chars.dropWhile Char.isDigit)

/-- The digits before the point; a zero in front stands alone. -/
def readWhole? : List Char → Option (List Char × List Char)
  | '0' :: rest => some (['0'], rest)
  | chars => readDigits? chars

/-- The digits after a point, if there is one. -/
def readFraction? : List Char → Option (Option (List Char) × List Char)
  | '.' :: rest => (readDigits? rest).map fun (digits, rest) => (some digits, rest)
  | chars => some (none, chars)

def readSignedDigits? : List Char → Option (Int × List Char)
  | '-' :: rest => (readDigits? rest).map fun (digits, rest) => (-Decimal.ofDigits digits, rest)
  | '+' :: rest => (readDigits? rest).map fun (digits, rest) => (Decimal.ofDigits digits, rest)
  | chars => (readDigits? chars).map fun (digits, rest) => (Decimal.ofDigits digits, rest)

/-- The power of ten, if there is one. -/
def readExponent? : List Char → Option (Option Int × List Char)
  | c :: rest =>
    if c = 'e' ∨ c = 'E' then (readSignedDigits? rest).map fun (power, rest) => (some power, rest)
    else some (none, c :: rest)
  | [] => some (none, [])

def readUnsigned? (negative : Bool) (chars : List Char) : Option (Number × List Char) := do
  let (whole, chars) ← readWhole? chars
  let (fraction, chars) ← readFraction? chars
  let (power, chars) ← readExponent? chars
  if fraction.isNone && power.isNone then
    return (.integer negative (Decimal.ofDigits whole), chars)
  else
    let places := fraction.getD []
    return (.decimal negative (Decimal.ofDigits (whole ++ places)) (power.getD 0 - places.length),
      chars)

def readNumber? : List Char → Option (Number × List Char)
  | '-' :: rest => readUnsigned? true rest
  | chars => readUnsigned? false chars

/-- A character of a string, or half of a surrogate pair that an escape wrote. -/
inductive Piece where
  | char (value : Char)
  | half (value : Nat)
  deriving DecidableEq, Repr

/-- What four hex digits write. -/
def Piece.ofUnit (unit : Nat) : Piece :=
  if 0xd800 ≤ unit ∧ unit < 0xe000 then .half unit else .char (Char.ofNat unit)

/-- Joins halves into characters, a leading half with the trailing half right after it. -/
def joinPieces : List Piece → Option (List Char)
  | [] => some []
  | .char c :: rest => (joinPieces rest).map (c :: ·)
  | .half high :: .half low :: rest =>
    if high < 0xdc00 ∧ 0xdc00 ≤ low then
      (joinPieces rest).map
        (Char.ofNat (0x10000 + (high - 0xd800) * 0x400 + (low - 0xdc00)) :: ·)
    else none
  | .half _ :: _ => none

/-- The character that a letter after a backslash stands for. -/
def escaped? : Char → Option Char
  | '"' => some '"'
  | '\\' => some '\\'
  | '/' => some '/'
  | 'b' => some '\x08'
  | 'f' => some '\x0c'
  | 'n' => some '\n'
  | 'r' => some '\r'
  | 't' => some '\t'
  | _ => none

/-- The inside of a string up to its closing quote. -/
def readPieces : List Char → Option (List Piece × List Char)
  | [] => none
  | '"' :: rest => some ([], rest)
  | '\\' :: 'u' :: d1 :: d2 :: d3 :: d4 :: rest =>
    (Hex.number? 0 [d1, d2, d3, d4]).bind fun unit =>
      (readPieces rest).map fun (pieces, rest) => (Piece.ofUnit unit :: pieces, rest)
  | '\\' :: c :: rest =>
    (escaped? c).bind fun c => (readPieces rest).map fun (pieces, rest) => (.char c :: pieces, rest)
  | c :: rest =>
    if c.toNat < 0x20 then none
    else (readPieces rest).map fun (pieces, rest) => (.char c :: pieces, rest)

def readString? (chars : List Char) : Option (Option String × List Char) :=
  (readPieces chars).map fun (pieces, rest) => ((joinPieces pieces).map String.ofList, rest)

mutual

/-- One value off the front. Each call spends fuel, of which two for each character are enough. -/
def readNode : (fuel : Nat) → List Char → Option (Node × List Char)
  | 0, _ => none
  | fuel + 1, chars =>
    match skipBlanks chars with
    | '"' :: rest => (readString? rest).map fun (text, rest) => (.text text, rest)
    | '[' :: rest =>
      match skipBlanks rest with
      | ']' :: rest => some (.list [], rest)
      | _ => (readItems fuel rest).map fun (items, rest) => (.list items, rest)
    | '\x7b' :: rest =>
      match skipBlanks rest with
      | '\x7d' :: rest => some (.record [], rest)
      | _ => (readMembers fuel rest).map fun (members, rest) => (.record members, rest)
    | 'n' :: 'u' :: 'l' :: 'l' :: rest => some (.null, rest)
    | 't' :: 'r' :: 'u' :: 'e' :: rest => some (.bool true, rest)
    | 'f' :: 'a' :: 'l' :: 's' :: 'e' :: rest => some (.bool false, rest)
    | chars => (readNumber? chars).map fun (number, rest) => (.number number, rest)

def readItems : (fuel : Nat) → List Char → Option (List Node × List Char)
  | 0, _ => none
  | fuel + 1, chars =>
    (readNode fuel chars).bind fun (item, rest) =>
      match skipBlanks rest with
      | ']' :: rest => some ([item], rest)
      | ',' :: rest => (readItems fuel rest).map fun (items, rest) => (item :: items, rest)
      | _ => none

def readMembers : (fuel : Nat) → List Char → Option (List (Option String × Node) × List Char)
  | 0, _ => none
  | fuel + 1, chars =>
    (readKey? chars).bind fun (key, rest) =>
      (readNode fuel rest).bind fun (node, rest) =>
        match skipBlanks rest with
        | '\x7d' :: rest => some ([(key, node)], rest)
        | ',' :: rest =>
          (readMembers fuel rest).map fun (members, rest) => ((key, node) :: members, rest)
        | _ => none
where
  readKey? (chars : List Char) : Option (Option String × List Char) :=
    match skipBlanks chars with
    | '"' :: rest =>
      (readString? rest).bind fun (key, rest) =>
        match skipBlanks rest with
        | ':' :: rest => some (key, rest)
        | _ => none
    | _ => none

end

def Node.ofText? (text : String) : Option Node :=
  (readNode (2 * text.length + 2) text.toList).bind fun (node, rest) =>
    if (skipBlanks rest).isEmpty then some node else none

end ReleaseUpload.Json
