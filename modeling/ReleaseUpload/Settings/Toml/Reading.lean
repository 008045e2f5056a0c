import ReleaseUpload.Settings.Toml.Quoted
import ReleaseUpload.Settings.Toml.Scalar
import ReleaseUpload.Settings.Toml.Tables
import ReleaseUpload.Settings.Toml.Wrapped

/-!
From the text of a TOML document to a layer of settings. A document is read line by line; a value
goes on over line ends only inside brackets or triple quotes.
-/

namespace ReleaseUpload.Settings.Toml

/-- Line ends as single line feeds, and no mark of the byte order in front. -/
def normalize : List Char → List Char
  | '\r' :: '\n' :: rest => '\n' :: normalize rest
  | c :: rest => c :: normalize rest
  | [] => []

def dropByteOrderMark : List Char → List Char
  | '\ufeff' :: rest => rest
  | chars => chars

def skipInline (chars : List Char) : List Char := chars.dropWhile isInlineBlank

/-- Up to the end of a line or of the text; a comment holds no control characters. -/
def skipComment : List Char → Option (List Char)
  | '#' :: rest =>
    if (rest.takeWhile (· ≠ '\n')).all isPlain then some (rest.dropWhile (· ≠ '\n')) else none
  | chars => some chars

/-- What may follow an expression on its line, and the line end. -/
def endLine? (chars : List Char) : Option (List Char) :=
  (skipComment (skipInline chars)).bind fun
    | [] => some []
    | '\n' :: rest => some rest
    | _ => none

def skipLines : (fuel : Nat) → List Char → Option (List Char)
  | 0, _ => none
  | fuel + 1, chars =>
    match skipInline chars with
    | '\n' :: rest => skipLines fuel rest
    | '#' :: rest => (skipComment ('#' :: rest)).bind (skipLines fuel)
    | chars => some chars

def isBareKeyChar (c : Char) : Bool := c.isAlphanum || c == '_' || c == '-'

/-- One part of a key: bare, or a string on one line. -/
def readSimpleKey? : List Char → Option (String × List Char)
  | '"' :: rest => (readBasic rest).map fun (text, rest) => (String.ofList text, rest)
  | '\'' :: rest => (readLiteral rest).map fun (text, rest) => (String.ofList text, rest)
  | chars =>
    let bare := chars.takeWhile isBareKeyChar
    if bare.isEmpty then none else some (String.ofList bare, chars.dropWhile isBareKeyChar)

/-- Most parts of a key, and most lists and tables within each other. -/
def deepest : Nat := 79

/-- The parts of a key up to the last, and the last. -/
def readKey? : (parts : Nat) → List Char → Option (List String × String × List Char)
  | 0, _ => none
  | parts + 1, chars =>
    (readSimpleKey? (skipInline chars)).bind fun (key, rest) =>
      match skipInline rest with
      | '.' :: rest =>
        (readKey? parts rest).map fun (path, last, rest) => (key :: path, last, rest)
      | rest => some ([], key, rest)

mutual

/-- A value off the front. Each call spends fuel, of which four for each character are enough. -/
def readValue : (fuel room : Nat) → List Char → Option (Item × List Char)
  | 0, _, _ => none
  | fuel + 1, room, chars =>
    match chars with
    | '[' :: rest => if room = 0 then none else readItems fuel (room - 1) [] rest
    | '\x7b' :: rest =>
      if room = 0 then none
      else
        match skipInline rest with
        | '\x7d' :: rest => some (.table [], rest)
        | rest => readPairs fuel (room - 1) [] rest
    | chars =>
      match readString? chars with
      | some read => read.map fun (text, rest) => (.text (String.ofList text), rest)
      | none => readScalar? chars

/-- The items of a list after those before them, up to the closing bracket. -/
def readItems : (fuel room : Nat) → (before : List Item) → List Char → Option (Item × List Char)
  | 0, _, _, _ => none
  | fuel + 1, room, before, chars =>
    (skipLines (chars.length + 1) chars).bind fun
      | ']' :: rest => some (.list before, rest)
      | chars =>
        (readValue fuel room chars).bind fun (item, rest) =>
          (skipLines (rest.length + 1) rest).bind fun
            | ',' :: rest => readItems fuel room (before ++ [item]) rest
            | ']' :: rest => some (.list (before ++ [item]), rest)
            | _ => none

/-- The pairs of an inline table after those before them, up to the closing brace. -/
def readPairs : (fuel room : Nat) → (before : List (List String × String × Item)) → List Char →
    Option (Item × List Char)
  | 0, _, _, _ => none
  | fuel + 1, room, before, chars =>
    (readPair fuel room chars).bind fun (path, key, item, rest) =>
      let pairs := before ++ [(path, key, item)]
      match skipInline rest with
      | ',' :: rest => readPairs fuel room pairs rest
      | '\x7d' :: rest => (inlineTable? pairs).map fun item => (item, rest)
      | _ => none

def readPair : (fuel room : Nat) → List Char → Option (List String × String × Item × List Char)
  | 0, _, _ => none
  | fuel + 1, room, chars =>
    (readKey? deepest chars).bind fun (path, key, rest) =>
      match rest with
      | '=' :: rest =>
        (readValue fuel room (skipInline rest)).map fun (item, rest) => (path, key, item, rest)
      | _ => none

end

/-- The key between the brackets of a header, and what follows the closing ones. -/
def readHeader? (closing : List Char) (chars : List Char) :
    Option (List String × String × List Char) :=
  (readKey? deepest chars).bind fun (path, key, rest) =>
    if rest.take closing.length = closing then some (path, key, rest.drop closing.length) else none

/-- What a line says, with what follows on it. -/
def readLine? (chars : List Char) : Option (Line × List Char) :=
  match chars with
  | '[' :: '[' :: rest =>
    (readHeader? [']', ']'] rest).map fun (path, key, rest) => (.series path key, rest)
  | '[' :: rest => (readHeader? [']'] rest).map fun (path, key, rest) => (.table path key, rest)
  | chars =>
    (readPair (4 * chars.length + 4) deepest chars).map fun (path, key, item, rest) =>
      (.pair path key item, rest)

/-- All lines of a text. Each call uses up a character at least. -/
def readDocument : (fuel : Nat) → List Char → Option (List Line)
  | 0, _ => none
  | fuel + 1, chars =>
    (skipLines (chars.length + 1) chars).bind fun
      | [] => some []
      | chars =>
        (readLine? chars).bind fun (line, rest) =>
          (endLine? rest).bind fun rest => (readDocument fuel rest).map (line :: ·)

/-- The layer of settings in a text, without tables that wrap a value. -/
def layer? (text : String) : Option Layer :=
  let chars := normalize (dropByteOrderMark text.toList)
  ((readDocument (chars.length + 1) chars).bind layerOfLines?).bind unwrapFields?

end ReleaseUpload.Settings.Toml
