import ReleaseUpload.Identifier
import ReleaseUpload.Json.Typed
import ReleaseUpload.Text.Size

/-!
Reading identifiers. Accepted are the thirty-two digits alone, the written form, the written form
in braces, and the written form after `urn:uuid:`; digits and prefix may be of either case. Any
other text is refused with a `Fault`, the first thing that keeps it from being an identifier.
Lengths and places count bytes of UTF-8.
-/

namespace ReleaseUpload.Id

variable {kind : IdKind}

/-- Takes out the hyphen that must follow each group. -/
def unhyphenate : (widths : List Nat) → List Char → Option (List Char)
  | [], rest => some rest
  | width :: widths, chars =>
    match chars.drop width with
    | '-' :: rest => (unhyphenate widths rest).map (chars.take width ++ ·)
    | _ => none

/-- The value of thirty-two hex digits. -/
def ofDigits? (digits : List Char) : Option (Id kind) :=
  if digits.length = 32 then (Hex.number? 0 digits).map fun number => ⟨BitVec.ofNat 128 number⟩
  else none

def ofHyphenated? (chars : List Char) : Option (Id kind) :=
  (unhyphenate groupWidths chars).bind ofDigits?

def urnMark : List Char := "urn:uuid:".toList

/-- What follows the mark, whose letters may be of either case. -/
def afterUrnMark? (chars : List Char) : Option (List Char) :=
  if (chars.take urnMark.length).map Char.toLower = urnMark then some (chars.drop urnMark.length)
  else none

/-- What stands between an opening brace in front and a closing brace at the end. -/
def insideBraces? : List Char → Option (List Char)
  | '\x7b' :: rest => if rest.getLast? = some '\x7d' then some rest.dropLast else none
  | _ => none

def ofChars? (chars : List Char) : Option (Id kind) :=
  ofDigits? chars <|> ofHyphenated? chars <|> (insideBraces? chars).bind ofHyphenated? <|>
    (afterUrnMark? chars).bind ofHyphenated?

inductive Fault where
  | length (found : Nat)
  | character (found : Char) (place : Nat)
  | groupCount (found : Nat)
  | groupLength (group expected found : Nat)
  deriving DecidableEq, Repr

def Fault.message : Fault → String
  | .length found => s!"invalid length: found {found}"
  | .character found place =>
    "invalid character: found " ++ String.ofList ['\x60', found, '\x60'] ++ s!" at {place}"
  | .groupCount found => s!"invalid group count: expected 5, found {found}"
  | .groupLength group expected found =>
    s!"invalid group length in group {group}: expected {expected}, found {found}"

/-- Places of the hyphens, counted from `place`, if all else is hex digits. -/
def hyphens (start : Nat) : (place : Nat) → List Char → Except Fault (List Nat)
  | _, [] => .ok []
  | place, c :: rest =>
    if Hex.isDigit c then hyphens start (place + 1) rest
    else if c = '-' then (hyphens start (place + 1) rest).map (place :: ·)
    else .error (.character c (start + place))

/-- The first group whose hyphen is out of place, or else the last group. -/
def groupFault (size : Nat) : (group start : Nat) → (widths places : List Nat) → Fault
  | group, start, width :: widths, place :: places =>
    if place = start + width then groupFault size (group + 1) (place + 1) widths places
    else .groupLength group width (place - start)
  | group, start, _, _ => .groupLength group 12 (size - start)

/-- What is wrong with the groups of a text of `size` bytes, given what part of it to look at. -/
def faultFrom (size start : Nat) (bare : Bool) (chars : List Char) : Fault :=
  match hyphens start 0 chars with
  | .error fault => fault
  | .ok places =>
    if bare && places.isEmpty then .length size
    else if places.length ≠ groupWidths.length then .groupCount (places.length + 1)
    else groupFault size 0 0 groupWidths places

/-- Judges a text that is known to be hyphenated by its length. -/
def hyphenatedFault (chars : List Char) : Fault := faultFrom (Text.size chars) 0 false chars

/-- Judges a text of any other length. -/
def looseFault (chars : List Char) : Fault :=
  let size := Text.size chars
  if size = 0 ∨ 45 < size then .length size
  else
    match insideBraces? chars, afterUrnMark? chars with
    | some inside, _ => faultFrom size 1 false inside
    | none, some rest => faultFrom size urnMark.length false rest
    | none, none => faultFrom size 0 true chars

def fault (chars : List Char) : Fault :=
  let size := Text.size chars
  if size = 36 then hyphenatedFault chars
  else
    match insideBraces? chars, afterUrnMark? chars with
    | some inside, _ => if size = 38 then hyphenatedFault inside else looseFault chars
    | none, some rest => if size = 45 then hyphenatedFault rest else looseFault chars
    | none, none => looseFault chars

def parse (text : String) : Except Fault (Id kind) :=
  match ofChars? text.toList with
  | some id => .ok id
  | none => .error (fault text.toList)

def toNode (id : Id kind) : Json.Node := .ofString id.toString

/-- A string that holds an identifier in any accepted form. -/
def ofNode? (node : Json.Node) : Option (Id kind) :=
  node.string?.bind fun text => ofChars? text.toList

end ReleaseUpload.Id
