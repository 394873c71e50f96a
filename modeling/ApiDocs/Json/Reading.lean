import ApiDocs.Json.Value

/-!
# What a JSON text reads as, faults included

A text is decoded from left to right, and the first thing wrong with it decides the answer: a field
of the wrong shape near the front counts, a missing brace behind it does not.  So the reader does
not give up at a fault.  It builds a `Reading`, a tree like the value's own in which each fault
stands at the place where it is met, and whoever decodes the tree in the order of the text finds
them in that order.

A fault may be met in two ways.  One who *reads* a value takes its content; one who *passes over*
it, because no field of that name is expected, only looks for its end.  Reading is the stricter of
the two: half of a surrogate pair and a number beyond the range of a double are faults of the
content alone, and values nested deeper than `depthLimit` can be passed over but not read.
-/

namespace ApiDocs.Json

/-- What can be wrong with a JSON text. -/
inductive Fault where
  /-- The text ends before the value does. -/
  | truncated
  /-- The text is not JSON, goes on after the value, or is nested too deeply. -/
  | malformed
  /-- The text is JSON, of another shape than the one expected. -/
  | misshapen
  deriving DecidableEq

/-- The two kinds of nesting. -/
inductive Bracket where
  | square
  | curly
  deriving DecidableEq

/-- Arrays and objects inside one another that can be read; one more is too many. -/
def depthLimit : Nat := 127

/-- What a JSON text, or a part of one, reads as. -/
inductive Reading where
  | null
  | bool (value : Bool)
  /-- A number, as it is written, or the fault in reading it. -/
  | number (content : Except Fault String)
  /-- A text that has an end, with its content or the fault in it. -/
  | text (content : Except Fault String)
  /-- The items that were met, and the fault in place of the closing bracket. -/
  | array (items : List Reading) (ended : Option Fault)
  /-- The fields that were met, and the fault in place of the closing brace. -/
  | object (fields : List (Except Fault String × Reading)) (ended : Option Fault)
  /-- An array or object too deep to be read, and the fault met in passing over it. -/
  | buried (bracket : Bracket) (passed : Option Fault)
  /-- No value at all: the fault met in reading and the one met in passing. -/
  | broken (read passed : Fault)

/-- A field as it was met. -/
abbrev ReadField := Except Fault String × Reading

instance : Inhabited Reading := ⟨.null⟩

namespace Reading

/-! ## Passing over a value -/

mutual

/-- The fault met in passing over a value, if any. -/
def passed : Reading → Option Fault
  | array items ended => (passedItems items).or ended
  | object fields ended => (passedFields fields).or ended
  | buried _ fault => fault
  | broken _ fault => some fault
  | null => none
  | bool _ => none
  | number _ => none
  | text _ => none

/-- The first fault met in passing over items. -/
def passedItems : List Reading → Option Fault
  | [] => none
  | item :: rest => item.passed.or (passedItems rest)

/-- The first fault met in passing over fields, whose keys are passed over too. -/
def passedFields : List ReadField → Option Fault
  | [] => none
  | (_, value) :: rest => value.passed.or (passedFields rest)

end

/-! ## Reading a whole value -/

mutual

/-- The value that was read, or the first fault in it. -/
def whole : Reading → Except Fault Json
  | null => .ok .null
  | bool b => .ok (.bool b)
  | number (.ok literal) => .ok (.number literal)
  | number (.error fault) => .error fault
  | text (.ok s) => .ok (.text s)
  | text (.error fault) => .error fault
  | array items ended =>
    match wholeItems items, ended with
    | .error fault, _ => .error fault
    | .ok _, some fault => .error fault
    | .ok values, none => .ok (.array values)
  | object fields ended =>
    match wholeFields fields, ended with
    | .error fault, _ => .error fault
    | .ok _, some fault => .error fault
    | .ok values, none => .ok (.object values)
  | buried _ _ => .error .malformed
  | broken fault _ => .error fault

/-- The values of the items, or the first fault in one. -/
def wholeItems : List Reading → Except Fault (List Json)
  | [] => .ok []
  | item :: rest =>
    match item.whole with
    | .error fault => .error fault
    | .ok value =>
      match wholeItems rest with
      | .error fault => .error fault
      | .ok values => .ok (value :: values)

/-- The keys and values of the fields, or the first fault in one. -/
def wholeFields : List ReadField → Except Fault (List (String × Json))
  | [] => .ok []
  | (.error fault, _) :: _ => .error fault
  | (.ok key, value) :: rest =>
    match value.whole with
    | .error fault => .error fault
    | .ok value =>
      match wholeFields rest with
      | .error fault => .error fault
      | .ok values => .ok ((key, value) :: values)

end

end Reading

/-! ## Values as readings -/

mutual

/-- The reading of a value that has no fault in it. -/
def toReading : Json → Reading
  | null => .null
  | bool b => .bool b
  | number literal => .number (.ok literal)
  | text s => .text (.ok s)
  | array items => .array (itemReadings items) none
  | object fields => .object (fieldReadings fields) none

/-- The readings of items. -/
def itemReadings : List Json → List Reading
  | [] => []
  | item :: rest => item.toReading :: itemReadings rest

/-- The readings of fields. -/
def fieldReadings : List (String × Json) → List ReadField
  | [] => []
  | (key, value) :: rest => (.ok key, value.toReading) :: fieldReadings rest

end

/-! ## A value read back -/

mutual

/-- A value read as a whole is the value. -/
theorem whole_toReading : ∀ value : Json, value.toReading.whole = .ok value
  | null => rfl
  | bool _ => rfl
  | number _ => rfl
  | text _ => rfl
  | array items => by simp [toReading, Reading.whole, wholeItems_itemReadings items]
  | object fields => by simp [toReading, Reading.whole, wholeFields_fieldReadings fields]

theorem wholeItems_itemReadings :
    ∀ items : List Json, Reading.wholeItems (itemReadings items) = .ok items
  | [] => rfl
  | item :: rest => by
    simp [itemReadings, Reading.wholeItems, whole_toReading item, wholeItems_itemReadings rest]

theorem wholeFields_fieldReadings :
    ∀ fields : List (String × Json), Reading.wholeFields (fieldReadings fields) = .ok fields
  | [] => rfl
  | (key, value) :: rest => by
    simp [fieldReadings, Reading.wholeFields, whole_toReading value,
      wholeFields_fieldReadings rest]

end

end ApiDocs.Json
