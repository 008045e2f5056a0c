import ReleaseUpload.Settings.Layer

/-!
Tables that wrap a value. Anywhere below the top of a document a table may hold a value under
`valueKey`; it then stands for that value, and its other keys do not count. Whatever it leaves out
must still be readable.
-/

namespace ReleaseUpload.Settings.Toml

/-- The key of the value that a table wraps. -/
def valueKey : String := "___figment_value_value"

/-- The key of a tag on a value. Tags are unsigned, and a document has signed integers only, so a
table with a tag is never readable. -/
def tagKey : String := "___figment_value_id"

mutual

/-- An item with every table that wraps a value replaced by that value, inner ones first. -/
def unwrap? : Item → Option Item
  | .table fields =>
    if (fields.lookup tagKey).isSome then none
    else
      (unwrapFields? fields).map fun fields => (fields.lookup valueKey).getD (.table fields)
  | .list items => (unwrapItems? items).map .list
  | .flag value => some (.flag value)
  | .integer value => some (.integer value)
  | .text value => some (.text value)
  | .foreign => some .foreign

def unwrapItems? : List Item → Option (List Item)
  | [] => some []
  | item :: rest =>
    (unwrap? item).bind fun item => (unwrapItems? rest).map (item :: ·)

/-- The items under their keys, each unwrapped; the table of the keys itself wraps nothing. -/
def unwrapFields? : Layer → Option Layer
  | [] => some []
  | (key, item) :: rest =>
    (unwrap? item).bind fun item => (unwrapFields? rest).map ((key, item) :: ·)

end

end ReleaseUpload.Settings.Toml
