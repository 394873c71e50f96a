/-!
# JSON values

A value keeps the order of its object's fields, since a record is written with its fields in a fixed
order, and keeps a number as it is written, since the program never computes with one.

Two readings of a value stand here.  `Json.canonical` forgets the order: the keys of each object are
sorted by code point and of a repeated key only the last field stays.  `Json.identifiers` collects
the `id` texts of the nested records in the order in which they are written.
-/

namespace ApiDocs

/-- A JSON value. -/
inductive Json where
  | null
  | bool (value : Bool)
  | number (literal : String)
  | text (value : String)
  | array (items : List Json)
  | object (fields : List (String × Json))

namespace Json

instance : Inhabited Json := ⟨null⟩

/-- An object of the fields that are present. -/
def record (fields : List (Option (String × Json))) : Json := object (fields.filterMap id)

/-- A field that is always present. -/
def field (key : String) (value : Json) : Option (String × Json) := some (key, value)

/-- A text field that may be absent. -/
def textField? (key : String) (value : Option String) : Option (String × Json) :=
  value.map fun s => (key, text s)

/-- A field that is written only when it holds. -/
def flag? (key : String) (value : Bool) : Option (String × Json) :=
  if value then some (key, bool true) else none

/-- A whole number. -/
def int (n : Int) : Json := number (toString n)

/-- An array of texts. -/
def texts (values : List String) : Json := array (values.map text)

/-- A text, or null where there is none. -/
def optionalText : Option String → Json
  | some s => text s
  | none => null

/-! ## Canonical form -/

/-- Insert a field into fields sorted by key; a field of that key which is there already stays. -/
def insertField (key : String) (value : Json) : List (String × Json) → List (String × Json)
  | [] => [(key, value)]
  | (k, v) :: rest =>
    if key < k then (key, value) :: (k, v) :: rest
    else if key = k then (k, v) :: rest
    else (k, v) :: insertField key value rest

mutual

/-- The value with the keys of every object sorted, the last field of a repeated key kept. -/
def canonical : Json → Json
  | array items => array (canonicalItems items)
  | object fields => object (canonicalFields fields)
  | null => null
  | bool b => bool b
  | number n => number n
  | text s => text s

/-- The canonical forms of the items of an array. -/
def canonicalItems : List Json → List Json
  | [] => []
  | item :: rest => item.canonical :: canonicalItems rest

/-- The canonical fields of an object. -/
def canonicalFields : List (String × Json) → List (String × Json)
  | [] => []
  | (key, value) :: rest => insertField key value.canonical (canonicalFields rest)

end

/-! ## Identifiers -/

mutual

/-- The texts under the key `id`, at any depth, in the order in which they are written. -/
def identifiers : Json → List String
  | array items => itemIdentifiers items
  | object fields => fieldIdentifiers fields
  | null => []
  | bool _ => []
  | number _ => []
  | text _ => []

/-- The identifiers in the items of an array. -/
def itemIdentifiers : List Json → List String
  | [] => []
  | item :: rest => item.identifiers ++ itemIdentifiers rest

/-- The identifiers in the fields of an object. -/
def fieldIdentifiers : List (String × Json) → List String
  | [] => []
  | (key, value) :: rest =>
    (match value with
      | text s => if key = "id" then [s] else []
      | _ => value.identifiers) ++ fieldIdentifiers rest

end

/-! ## Access -/

/-- The value of the first field with the key. -/
def field? (key : String) : Json → Option Json
  | object fields => fields.lookup key
  | _ => none

end Json

end ApiDocs
