/-!
JSON documents as they are written: members in written order with repeats, numbers by their digits.
A string has no text when its escapes leave half of a surrogate pair alone; such a document is
well formed, but nothing that needs the string can be read from it.
-/

namespace ReleaseUpload.Json

/-- A number as written. A decimal is `significand * 10 ^ exponent`. -/
inductive Number where
  | integer (negative : Bool) (magnitude : Nat)
  | decimal (negative : Bool) (significand : Nat) (exponent : Int)
  deriving DecidableEq, Repr

inductive Node where
  | null
  | bool (value : Bool)
  | number (value : Number)
  | text (value : Option String)
  | list (items : List Node)
  | record (members : List (Option String × Node))
  deriving Inhabited

namespace Node

def ofString (text : String) : Node := .text (some text)

def ofNat (number : Nat) : Node := .number (.integer false number)

def ofInt (number : Int) : Node := .number (.integer (number < 0) number.natAbs)

def ofFields (fields : List (String × Node)) : Node :=
  .record (fields.map fun field => (some field.1, field.2))

mutual

/-- How many lists and records enclose the innermost value, itself included. -/
def depth : Node → Nat
  | .list items => depthOfItems items + 1
  | .record members => depthOfMembers members + 1
  | _ => 0

def depthOfItems : List Node → Nat
  | [] => 0
  | item :: rest => max item.depth (depthOfItems rest)

def depthOfMembers : List (Option String × Node) → Nat
  | [] => 0
  | (_, node) :: rest => max node.depth (depthOfMembers rest)

end

end Node

end ReleaseUpload.Json
