import ReleaseUpload.Settings.Layer

/-!
Tables of a TOML document while it is read. No key is set twice, no table is headed twice, a table
that dotted keys made takes more dotted keys but no header, and a table with a header takes no
dotted keys from outside. `Tree.toItem` forgets how a table came to be.
-/

namespace ReleaseUpload.Settings.Toml

/-- How a table came to be: under a header of its own, on the way to another header, or on the way
of a dotted key. -/
inductive Origin where
  | header
  | passage
  | dotted
  deriving DecidableEq, Repr

/-- What stands under a key: a finished value, a table, or a series of tables with the last open. -/
inductive Tree where
  | value (item : Item)
  | table (origin : Origin) (fields : List (String × Tree))
  | series (before : List (List (String × Tree))) (last : List (String × Tree))

abbrev Fields := List (String × Tree)

namespace Fields

/-- Puts a tree under a key, in the place of the one that is there. -/
def put (fields : Fields) (key : String) (tree : Tree) : Fields :=
  match fields with
  | [] => [(key, tree)]
  | head :: rest => if head.1 = key then (key, tree) :: rest else head :: put rest key tree

/-- Changes the table at the end of a path, where `made` says how tables come to be that are not
there yet. A path of a dotted key does not enter a table with a header. -/
def alter (made : Origin) (change : Origin → Fields → Option Fields) :
    (path : List String) → (origin : Origin) → Fields → Option Fields
  | [], origin, fields => change origin fields
  | key :: path, _, fields =>
    match fields.lookup key with
    | none =>
      (alter made change path made []).map fun inner => fields.put key (.table made inner)
    | some (.value _) => none
    | some (.table origin inner) =>
      if made = .dotted ∧ origin = .header then none
      else (alter made change path origin inner).map fun inner =>
        fields.put key (.table origin inner)
    | some (.series before last) =>
      (alter made change path .header last).map fun last => fields.put key (.series before last)

def add (key : String) (tree : Tree) (fields : Fields) : Option Fields :=
  if (fields.lookup key).isSome then none else some (fields ++ [(key, tree)])

/-- Sets a key under a path of dotted keys; the path must end in a table that dotted keys made. -/
def addDotted (path : List String) (key : String) (item : Item) (fields : Fields) : Option Fields :=
  alter .dotted
    (fun origin fields =>
      if path.isEmpty ∨ origin = .dotted then fields.add key (.value item) else none)
    path .header fields

def openTable (key : String) (fields : Fields) : Option Fields :=
  match fields.lookup key with
  | none => some (fields.put key (.table .header []))
  | some (.table .passage inner) => some (fields.put key (.table .header inner))
  | some _ => none

def openSeries (key : String) (fields : Fields) : Option Fields :=
  match fields.lookup key with
  | none => some (fields.put key (.series [] []))
  | some (.series before last) => some (fields.put key (.series (before ++ [last]) []))
  | some _ => none

end Fields

mutual

def Tree.toItem : Tree → Item
  | .value item => item
  | .table _ fields => .table (Tree.toItems fields)
  | .series before last => .list (Tree.toTables before ++ [.table (Tree.toItems last)])

def Tree.toItems : List (String × Tree) → List (String × Item)
  | [] => []
  | (key, tree) :: rest => (key, tree.toItem) :: Tree.toItems rest

def Tree.toTables : List (List (String × Tree)) → List Item
  | [] => []
  | fields :: rest => .table (Tree.toItems fields) :: Tree.toTables rest

end

inductive Line where
  | table (path : List String) (key : String)
  | series (path : List String) (key : String)
  | pair (path : List String) (key : String) (item : Item)

/-- A document read so far: all its tables, and the path of the one that is open. -/
structure Outline where
  fields : Fields := []
  opened : List String := []

namespace Outline

/-- Takes a line in, unless a key or a table would be defined twice. -/
def take (outline : Outline) : Line → Option Outline
  | .table path key =>
    (Fields.alter .passage (fun _ fields => fields.openTable key) path .header
      outline.fields).map fun fields => { fields, opened := path ++ [key] }
  | .series path key =>
    (Fields.alter .passage (fun _ fields => fields.openSeries key) path .header
      outline.fields).map fun fields => { fields, opened := path ++ [key] }
  | .pair path key item =>
    (Fields.alter .passage (fun _ fields => fields.addDotted path key item) outline.opened .header
      outline.fields).map fun fields => { outline with fields }

end Outline

/-- The layer that lines describe. -/
def layerOfLines? (lines : List Line) : Option Layer :=
  (lines.foldlM Outline.take {}).map fun outline => Tree.toItems outline.fields

/-- The finished table that the pairs of an inline table describe. -/
def inlineTable? (pairs : List (List String × String × Item)) : Option Item :=
  (pairs.foldlM (fun (fields : Fields) (path, key, item) => fields.addDotted path key item) []).map
    fun fields => .table (Tree.toItems fields)

end ReleaseUpload.Settings.Toml
