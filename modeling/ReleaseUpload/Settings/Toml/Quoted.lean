import ReleaseUpload.Text.Hex

/-!
Strings of a TOML document: basic ones, where a backslash escapes, and literal ones, where nothing
does; each on one line, or on several between triple quotes. Line ends are single line feeds here.
Every reader starts after the opening quotes and goes up to the closing ones.
-/

namespace ReleaseUpload.Settings.Toml

/-- Tabs, and all that is no control character. -/
def isPlain (c : Char) : Bool := c == '\t' || (0x20 ≤ c.toNat && c.toNat != 0x7f)

/-- The character that a letter after a backslash stands for. -/
def escaped? : Char → Option Char
  | '"' => some '"'
  | '\\' => some '\\'
  | 'b' => some '\x08'
  | 'f' => some '\x0c'
  | 'n' => some '\n'
  | 'r' => some '\r'
  | 't' => some '\t'
  | _ => none

/-- The character of a code point that hex digits write; a surrogate is none. -/
def codePoint? (digits : List Char) : Option Char :=
  (Hex.number? 0 digits).bind fun code =>
    if code.isValidChar then some (Char.ofNat code) else none

/-- Puts a character in front of what is read after it. -/
def prepend (c : Char) (read : Option (List Char × List Char)) : Option (List Char × List Char) :=
  read.map fun (text, rest) => (c :: text, rest)

def readBasic : List Char → Option (List Char × List Char)
  | [] => none
  | '"' :: rest => some ([], rest)
  | '\\' :: 'u' :: d1 :: d2 :: d3 :: d4 :: rest =>
    (codePoint? [d1, d2, d3, d4]).bind fun c => prepend c (readBasic rest)
  | '\\' :: 'U' :: d1 :: d2 :: d3 :: d4 :: d5 :: d6 :: d7 :: d8 :: rest =>
    (codePoint? [d1, d2, d3, d4, d5, d6, d7, d8]).bind fun c => prepend c (readBasic rest)
  | '\\' :: c :: rest => (escaped? c).bind fun c => prepend c (readBasic rest)
  | c :: rest => if isPlain c then prepend c (readBasic rest) else none

def readLiteral : List Char → Option (List Char × List Char)
  | [] => none
  | '\'' :: rest => some ([], rest)
  | c :: rest => if isPlain c then prepend c (readLiteral rest) else none

/-- Where a reader of several lines stands. After a backslash at the end of a line it skips blanks
and line ends up to the next character. -/
inductive Fold where
  | off
  | beforeLineEnd
  | afterLineEnd
  deriving DecidableEq, Repr

def isInlineBlank (c : Char) : Bool := c == ' ' || c == '\t'

def readBasicLines : Fold → List Char → Option (List Char × List Char)
  | _, [] => none
  | .beforeLineEnd, c :: rest =>
    if isInlineBlank c then readBasicLines .beforeLineEnd rest
    else if c = '\n' then readBasicLines .afterLineEnd rest
    else none
  | _, '"' :: '"' :: '"' :: '"' :: '"' :: rest => some (['"', '"'], rest)
  | _, '"' :: '"' :: '"' :: '"' :: rest => some (['"'], rest)
  | _, '"' :: '"' :: '"' :: rest => some ([], rest)
  | _, '\\' :: 'u' :: d1 :: d2 :: d3 :: d4 :: rest =>
    (codePoint? [d1, d2, d3, d4]).bind fun c => prepend c (readBasicLines .off rest)
  | _, '\\' :: 'U' :: d1 :: d2 :: d3 :: d4 :: d5 :: d6 :: d7 :: d8 :: rest =>
    (codePoint? [d1, d2, d3, d4, d5, d6, d7, d8]).bind fun c =>
      prepend c (readBasicLines .off rest)
  | _, '\\' :: '\n' :: rest => readBasicLines .afterLineEnd rest
  | _, '\\' :: c :: rest =>
    if isInlineBlank c then readBasicLines .beforeLineEnd rest
    else (escaped? c).bind fun c => prepend c (readBasicLines .off rest)
  | fold, c :: rest =>
    if fold = .afterLineEnd ∧ (isInlineBlank c ∨ c = '\n') then readBasicLines .afterLineEnd rest
    else if isPlain c ∨ c = '\n' then prepend c (readBasicLines .off rest)
    else none

def readLiteralLines : List Char → Option (List Char × List Char)
  | [] => none
  | '\'' :: '\'' :: '\'' :: '\'' :: '\'' :: rest => some (['\'', '\''], rest)
  | '\'' :: '\'' :: '\'' :: '\'' :: rest => some (['\''], rest)
  | '\'' :: '\'' :: '\'' :: rest => some ([], rest)
  | c :: rest => if isPlain c ∨ c = '\n' then prepend c (readLiteralLines rest) else none

/-- A line end right after opening triple quotes does not count. -/
def dropLineEnd : List Char → List Char
  | '\n' :: rest => rest
  | chars => chars

/-- A string with its quotes, if one stands in front. -/
def readString? : List Char → Option (Option (List Char × List Char))
  | '"' :: '"' :: '"' :: rest => some (readBasicLines .off (dropLineEnd rest))
  | '"' :: rest => some (readBasic rest)
  | '\'' :: '\'' :: '\'' :: rest => some (readLiteralLines (dropLineEnd rest))
  | '\'' :: rest => some (readLiteral rest)
  | _ => none

end ReleaseUpload.Settings.Toml
