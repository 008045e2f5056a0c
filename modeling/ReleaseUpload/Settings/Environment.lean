import ReleaseUpload.Decimal
import ReleaseUpload.Settings.Layer
import ReleaseUpload.Settings.Toml.Quoted
import ReleaseUpload.Text.Blank
import ReleaseUpload.Text.Size

/-!
Settings in environment variables. The name of a variable is a mark and a path of keys, of which the
letters may be of either case; two underscores lead from a table to a key in it. The value is an
item in a short notation, and a text if it is none.
-/

namespace ReleaseUpload.Settings.Environment

/-- Marks the variables that hold settings. -/
def mark : List Char := "forklift_".toList

def separator : List Char := ['_', '_']

/-- The parts of a path, cut at every separator; a point separates too. -/
def splitPath : (part : List Char) → List Char → List (List Char)
  | part, [] => [part.reverse]
  | part, '_' :: '_' :: rest => part.reverse :: splitPath [] rest
  | part, '.' :: rest => part.reverse :: splitPath [] rest
  | part, c :: rest => splitPath (c :: part) rest

/-- The keys on the way to a setting, if a variable of this name holds one. Blanks around the name
or the path do not count, and no key is empty. -/
def path? (name : String) : Option (List String) :=
  let chars := (Text.trim name.toList).map Char.toLower
  let keys := splitPath [] (Text.trim (chars.drop mark.length))
  if chars.take mark.length = mark ∧ [] ∉ keys then some (keys.map String.ofList) else none

def isSpace (c : Char) : Bool :=
  c == ' ' || c == '\t' || c == '\n' || c == '\x0c' || c == '\r'

def skipSpaces (chars : List Char) : List Char := chars.dropWhile isSpace

def isSeparator (c : Char) : Bool :=
  c == ',' || c == '[' || c == ']' || c == '\x7b' || c == '\x7d'

def integer? (word : List Char) : Option Int :=
  match word with
  | '-' :: digits => (digits? digits).bind fun number =>
      if number ≤ 0x8000000000000000 then some (-(number : Int)) else none
  | '+' :: digits => natural? digits
  | digits => natural? digits
where
  digits? (digits : List Char) : Option Nat :=
    if digits ≠ [] ∧ digits.all Char.isDigit then some (Decimal.ofDigits digits) else none
  natural? (digits : List Char) : Option Int :=
    (digits? digits).bind fun number =>
      if number ≤ 0xffffffffffffffff then some (number : Int) else none

/-- A number with a point, digits on one side of it at least, and perhaps a power of ten. -/
def isDecimal (word : List Char) : Bool :=
  let unsigned := match word with
    | '-' :: rest | '+' :: rest => rest
    | word => word
  let whole := unsigned.takeWhile Char.isDigit
  match unsigned.dropWhile Char.isDigit with
  | '.' :: rest =>
    let places := rest.takeWhile Char.isDigit
    !(whole.isEmpty && places.isEmpty) && isPower (rest.dropWhile Char.isDigit)
  | _ => false
where
  isPower : List Char → Bool
    | [] => true
    | c :: rest =>
      let digits := match rest with
        | '-' :: rest | '+' :: rest => rest
        | rest => rest
      (c == 'e' || c == 'E') && !digits.isEmpty && digits.all Char.isDigit

/-- What a word without quotes stands for. -/
def bareItem (word : List Char) : Item :=
  if isDecimal word then .foreign
  else
    match integer? word with
    | some number => .integer number
    | none => .text (String.ofList word)

/-- A text in quotes after the opening one. What stands before its first escape is cut to as many
bytes as it has characters, so that it stays whole if each of them is one byte. -/
def readQuoted (chars : List Char) : Option (List Char × List Char) :=
  let plain := chars.takeWhile fun c => c != '"' && c != '\\'
  (Toml.readBasic chars).map fun (text, rest) =>
    if chars[plain.length]? = some '\\' then
      (Text.takeSize plain.length plain ++ text.drop plain.length, rest)
    else (text, rest)

def isKeyChar (c : Char) : Bool := c.isAlphanum || c == '_' || c == '-'

def readKey? (chars : List Char) : Option (String × List Char) :=
  let read := match skipSpaces chars with
    | '"' :: rest => readQuoted rest
    | chars =>
      if (chars.takeWhile isKeyChar).isEmpty then none
      else some (chars.takeWhile isKeyChar, chars.dropWhile isKeyChar)
  read.bind fun (key, rest) =>
    match skipSpaces rest with
    | '=' :: rest => some (String.ofList key, rest)
    | _ => none

mutual

/-- An item off the front, with the blanks around it; apostrophes quote one character. Each call
spends fuel, of which two for each character are enough. -/
def readItem : (fuel : Nat) → List Char → Option (Item × List Char)
  | 0, _ => none
  | fuel + 1, chars =>
    match skipSpaces chars with
    | 't' :: 'r' :: 'u' :: 'e' :: rest => some (.flag true, skipSpaces rest)
    | 'f' :: 'a' :: 'l' :: 's' :: 'e' :: rest => some (.flag false, skipSpaces rest)
    | '\x7b' :: rest =>
      (readFields fuel [] rest).map fun (fields, rest) => (.table fields, skipSpaces rest)
    | '[' :: rest => (readItems fuel rest).map fun (items, rest) => (.list items, skipSpaces rest)
    | '"' :: rest =>
      (readQuoted rest).map fun (text, rest) =>
        (.text (String.ofList text), skipSpaces rest)
    | '\'' :: c :: '\'' :: rest => some (.text c.toString, skipSpaces rest)
    | '\'' :: _ => none
    | chars =>
      some (bareItem (Text.trim (chars.takeWhile (!isSeparator ·))),
        skipSpaces (chars.dropWhile (!isSeparator ·)))

/-- Items up to the closing bracket; a comma may stand before it. -/
def readItems : (fuel : Nat) → List Char → Option (List Item × List Char)
  | 0, _ => none
  | _ + 1, ']' :: rest => some ([], rest)
  | fuel + 1, chars =>
    (readItem fuel chars).bind fun (item, rest) =>
      match rest with
      | ',' :: rest => (readItems fuel rest).map fun (items, rest) => (item :: items, rest)
      | ']' :: rest => some ([item], rest)
      | _ => none

/-- Fields after those before them, up to the closing brace. -/
def readFields : (fuel : Nat) → (before : Layer) → List Char → Option (Layer × List Char)
  | 0, _, _ => none
  | _ + 1, before, '\x7d' :: rest => some (before, rest)
  | fuel + 1, before, chars =>
    (readKey? chars).bind fun (key, rest) =>
      (readItem fuel rest).bind fun (item, rest) =>
        match rest with
        | ',' :: rest => readFields fuel (before.put key item) rest
        | '\x7d' :: rest => some (before.put key item, rest)
        | _ => none

end

/-- The item that the value of a variable stands for; a value that is no item up to its end stands
for itself as a text. -/
def item (value : String) : Item :=
  match readItem (2 * value.length + 2) value.toList with
  | some (item, []) => item
  | _ => .text value

/-- A layer with one item at the end of a path. -/
def nest (item : Item) : List String → Item
  | [] => item
  | key :: path => .table [(key, nest item path)]

/-- What one variable holds; nothing if its name is no mark with a path. -/
def layerOf (name value : String) : Layer :=
  match (path? name).map (nest (item value)) with
  | some (.table layer) => layer
  | _ => []

/-- All variables, a later one over those before it. -/
def layer (environment : List (String × String)) : Layer :=
  environment.foldl (fun layer (name, value) => layer.under (layerOf name value)) []

end ReleaseUpload.Settings.Environment
