import ApiDocs.Json.Reader

/-!
# Decoding records

A record arrives in one of two forms: as an object, with its parts under their keys in any order, or
as an array, with its parts in the order of declaration.  A decoder names the parts one by one and
need not know which form it was given, nor in which order the parts come.

The faults of a record count in the order of the text all the same.  Each part is decoded to a
`Slot`: its value, or its first fault together with the *place* in the record where that fault is
met.  When two parts are faulty, the earlier place wins, whatever the order in which the decoder
named them.  In an object

* a key that comes a second time is a fault where it comes again,
* a key that is no part of the record is passed over with its value,
* a part that is missing is noticed behind the closing brace.

In an array the parts at the end may be missing, and an item too many is a fault of the text rather
than of the shape.
-/

namespace ApiDocs.Json

/-- A decoder of values that stand at one place. -/
abbrev Decoder (α : Type) := Reading → Except Fault α

/-! ## Single values -/

/-- The fault in a value of another kind than the one expected.  A bracket shows at once that the
kind is wrong; anything else is read to its end first. -/
def Reading.mismatch : Reading → Fault
  | .text (.error fault) => fault
  | .number (.error fault) => fault
  | .broken fault _ => fault
  | _ => .misshapen

/-- Decode a text. -/
def Decoder.text : Decoder String
  | .text content => content
  | other => .error other.mismatch

/-- Decode a truth value. -/
def Decoder.flag : Decoder Bool
  | .bool b => .ok b
  | other => .error other.mismatch

/-- Decode a value that may be null. -/
def Decoder.nullable (decode : Decoder α) : Decoder (Option α)
  | .null => .ok none
  | other => some <$> decode other

/-- Decode an array of values. -/
def Decoder.list (decode : Decoder α) : Decoder (List α)
  | .array items ended => do
    let values ← items.mapM decode
    match ended with
    | some fault => .error fault
    | none => return values
  | .buried .square _ => .error .malformed
  | other => .error other.mismatch

/-- Decode one of several words.  The word may also be the only key of an object whose value says
nothing, as `isVoid` judges it. -/
def Decoder.word (isVoid : Reading → Bool) (words : List (String × α)) : Decoder α
  | .text (.ok word) =>
    match words.lookup word with
    | some a => .ok a
    | none => .error .misshapen
  | .object [(.ok word, value)] none =>
    match words.lookup word with
    | some a => if isVoid value then .ok a else .error .misshapen
    | none => .error .misshapen
  | other => .error other.mismatch

/-! ## Slots -/

/-- The outcome of decoding one part of a record: its value, or its first fault and its place. -/
def Slot (α : Type) := Except (Nat × Fault) α

/-- The value of a slot without the place of its fault. -/
def Slot.value : Slot α → Except Fault α
  | .ok a => .ok a
  | .error (_, fault) => .error fault

/-- Two parts of one record: both values, or the fault at the earlier place. -/
def Slot.apply : Slot (α → β) → Slot α → Slot β
  | .ok f, .ok a => .ok (f a)
  | .error e, .ok _ => .error e
  | .ok _, .error e => .error e
  | .error e, .error d => .error (if d.1 < e.1 then d else e)

instance : Applicative Slot where
  pure a := .ok a
  seq f a := f.apply (a ())

/-! ## Parts of a record -/

/-- A record as it was met, in either form. -/
inductive Members where
  | listed (items : List Reading) (ended : Option Fault)
  | named (fields : List ReadField) (ended : Option Fault)

/-- A record as it was met, with the keys of its parts in the order of declaration. -/
structure Parts where
  keys : List String
  members : Members

/-- The place of the next field with the key, the first field standing at `place`. -/
def placeOf? (key : String) (place : Nat) : List ReadField → Option Nat
  | [] => none
  | (.ok k, _) :: rest => if k = key then some place else placeOf? key (place + 1) rest
  | (.error _, _) :: rest => placeOf? key (place + 1) rest

/-- The part under a key, the first field standing at `place`. -/
def namedSlot (decode : Decoder α) (key : String) (place : Nat) :
    List ReadField → Slot (Option α)
  | [] => .ok none
  | (.error _, _) :: rest => namedSlot decode key (place + 1) rest
  | (.ok k, value) :: rest =>
    if k = key then
      match decode value, placeOf? key (place + 1) rest with
      | .error fault, _ => .error (place, fault)
      | .ok _, some again => .error (again, .misshapen)
      | .ok a, none => .ok (some a)
    else namedSlot decode key (place + 1) rest

/-- The part at an index.  Where the array is broken off before it, the fault stands behind the
items. -/
def listedSlot (decode : Decoder α) (index : Nat) (items : List Reading) (ended : Option Fault) :
    Slot (Option α) :=
  match items[index]? with
  | some item =>
    match decode item with
    | .ok a => .ok (some a)
    | .error fault => .error (index, fault)
  | none =>
    match ended with
    | some fault => .error (items.length, fault)
    | none => .ok none

namespace Parts

/-- The number of fields or items. -/
def size (parts : Parts) : Nat :=
  match parts.members with
  | .listed items _ => items.length
  | .named fields _ => fields.length

/-- The part under a key, if it is there. -/
def part? (parts : Parts) (key : String) (decode : Decoder α) : Slot (Option α) :=
  match parts.members with
  | .listed items ended => listedSlot decode (parts.keys.idxOf key) items ended
  | .named fields _ => namedSlot decode key 0 fields

/-- A part that must be there. -/
def required (parts : Parts) (key : String) (decode : Decoder α) : Slot α :=
  match parts.part? key decode with
  | .ok (some a) => .ok a
  | .ok none => .error (parts.size + 1, .misshapen)
  | .error e => .error e

/-- A part with a value to take where it is missing. -/
def withDefault (parts : Parts) (key : String) (decode : Decoder α) (fallback : α) : Slot α :=
  (·.getD fallback) <$> parts.part? key decode

/-- A part that may be missing or null. -/
def optional (parts : Parts) (key : String) (decode : Decoder α) : Slot (Option α) :=
  parts.withDefault key decode.nullable none

/-- A list that is empty where it is missing. -/
def list (parts : Parts) (key : String) (decode : Decoder α) : Slot (List α) :=
  parts.withDefault key decode.list []

/-- A truth value that is false where it is missing. -/
def flag (parts : Parts) (key : String) : Slot Bool := parts.withDefault key Decoder.flag false

end Parts

/-- The first fault in the fields that are no part of the record, the first field standing at
`place`: one in a key, or one that `fault?` finds in the value of a key not among `keys`. -/
def strayFault? (keys : List String) (fault? : Reading → Option Fault) (place : Nat) :
    List ReadField → Option (Nat × Fault)
  | [] => none
  | (.error fault, _) :: _ => some (place, fault)
  | (.ok key, value) :: rest =>
    match (if key ∈ keys then none else fault? value) with
    | some fault => some (place, fault)
    | none => strayFault? keys fault? (place + 1) rest

/-- What is checked of a record apart from its parts: the stray fields or items, and the end. -/
def Parts.closed (parts : Parts) (fault? : Reading → Option Fault) : Slot Unit :=
  match parts.members with
  | .listed items ended =>
    if parts.keys.length < items.length then .error (parts.keys.length, .malformed)
    else
      match ended with
      | some fault => .error (items.length, fault)
      | none => .ok ()
  | .named fields ended =>
    match strayFault? parts.keys fault? 0 fields, ended with
    | some e, _ => .error e
    | none, some fault => .error (fields.length, fault)
    | none, none => .ok ()

/-- The members of a record, in whichever form it was met. -/
def Reading.members : Reading → Except Fault Members
  | .array items ended => .ok (.listed items ended)
  | .object fields ended => .ok (.named fields ended)
  | .buried _ _ => .error .malformed
  | other => .error other.mismatch

/-- Decode a record, given the keys of its parts in the order of declaration.  Whatever is no part
of it is passed over. -/
def Decoder.record (keys : List String) (body : Parts → Slot α) : Decoder α := fun reading => do
  let parts : Parts := ⟨keys, ← reading.members⟩
  (body parts <* parts.closed Reading.passed).value

/-! ## Whole texts -/

/-- Decode a text.  What stands behind the value is looked at last. -/
def Decoder.ofText (decode : Decoder α) (s : String) : Except Fault α := do
  let document := Document.ofText s
  let a ← decode document.root
  if document.hasMore then .error .malformed else return a

/-- Decode a value that stands on its own; how it fails makes no difference. -/
def Decoder.ofJson? (decode : Decoder α) (value : Json) : Option α :=
  (decode value.toReading).toOption

end ApiDocs.Json
