import ReleaseUpload.Json.Node
import ReleaseUpload.Dictionary

/-!
Typed readings of a node. Each answers only for a node of its own shape: a number with a point or
an exponent is no integer, minus zero is none either, and null is nothing but null.
-/

namespace ReleaseUpload.Json.Node

variable {α : Type}

def string? : Node → Option String
  | .text value => value
  | _ => none

def bool? : Node → Option Bool
  | .bool value => some value
  | _ => none

/-- An integer without a sign, up to a bound. -/
def natural? (bound : Nat) : Node → Option Nat
  | .number (.integer false magnitude) => if magnitude ≤ bound then some magnitude else none
  | _ => none

def byte? (node : Node) : Option UInt8 := (node.natural? 0xff).map UInt8.ofNat

def uint32? (node : Node) : Option UInt32 := (node.natural? 0xffffffff).map UInt32.ofNat

def uint64? (node : Node) : Option UInt64 := (node.natural? 0xffffffffffffffff).map UInt64.ofNat

def int64? : Node → Option Int64
  | .number (.integer false magnitude) =>
    if magnitude ≤ 0x7fffffffffffffff then some (Int64.ofInt magnitude) else none
  | .number (.integer true magnitude) =>
    if 0 < magnitude ∧ magnitude ≤ 0x8000000000000000 then some (Int64.ofInt (-magnitude))
    else none
  | _ => none

/-- Every item, in order, as `read` reads it. -/
def listOf? (read : Node → Option α) : Node → Option (List α)
  | .list items => items.mapM read
  | _ => none

/-- A member whose key has a text, with its value as `read` reads it. -/
def member? (read : Node → Option α) (member : Option String × Node) : Option (String × α) :=
  member.1.bind fun key => (read member.2).map (key, ·)

/-- Every member as `read` reads it; of two under one key the later stays. -/
def dictionaryOf? (read : Node → Option α) : Node → Option (Dictionary α)
  | .record members => (members.mapM (member? read)).map Dictionary.ofList
  | _ => none

/-- The parts of a structure with the named fields. A record gives each part under its name, at
most once, and may have other members, all with texts for names. A list gives the parts in the
order of their names and may end early, but not late. -/
def fields? (names : List String) : Node → Option (String → Option Node)
  | .record members =>
    if (members.all fun member => member.1.isSome) ∧
        ((members.filterMap (·.1)).filter (· ∈ names)).Nodup then
      some fun name => members.lookup (some name)
    else none
  | .list items =>
    if items.length ≤ names.length then some fun name => (names.zip items).lookup name else none
  | _ => none

/-- The name that stands for a value without parts: a text, or a record with null under it. -/
def tag? : Node → Option String
  | .text value => value
  | .record [(name, .null)] => name
  | _ => none

def required? (part : Option Node) (read : Node → Option α) : Option α := part.bind read

/-- A part that has a value of its own when it is left out. -/
def optional? (part : Option Node) (absent : α) (read : Node → Option α) : Option α :=
  match part with
  | some node => read node
  | none => some absent

end ReleaseUpload.Json.Node
