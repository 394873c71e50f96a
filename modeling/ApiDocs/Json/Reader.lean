import ApiDocs.Json.Reading

/-!
# The reader

From the characters of a text to its `Reading`.  The reader never fails: where the text breaks off
or breaks the grammar it puts the fault into the tree and stops, so the fault is the last thing in
the tree.

A quoted text is cut in two steps.  `cutText` finds its end and cuts what is inside into characters
and sixteen-bit escapes, which is as far as passing over it goes.  `joinPieces` joins the escapes to
characters, where one half of a surrogate pair without the other is a fault.  A number is likewise
looked at twice: one that the end of the text cuts off is truncated to those who read it and
malformed to those who pass over it, and only those who read it ask whether a double can hold it.
-/

namespace ApiDocs.Json

/-! ## Space and words -/

/-- The space that may stand around a value. -/
def isSpace (c : Char) : Bool := c == ' ' || c == '\n' || c == '\t' || c == '\r'

/-- The text behind the space at its front. -/
def skipSpace (cs : List Char) : List Char := cs.dropWhile isSpace

/-- The text behind the letters of a word. -/
def behindWord : List Char → List Char → Except Fault (List Char)
  | [], cs => .ok cs
  | _ :: _, [] => .error .truncated
  | letter :: letters, c :: cs => if c = letter then behindWord letters cs else .error .malformed

/-! ## Quoted texts -/

/-- What stands inside the quotes: characters, and sixteen-bit units given by their number. -/
inductive Piece where
  | char (c : Char)
  | unit (n : Nat)

/-- The value of a hexadecimal digit. -/
def hexValue? (c : Char) : Option Nat :=
  if '0' ≤ c ∧ c ≤ '9' then some (c.toNat - '0'.toNat)
  else if 'a' ≤ c ∧ c ≤ 'f' then some (c.toNat - 'a'.toNat + 10)
  else if 'A' ≤ c ∧ c ≤ 'F' then some (c.toNat - 'A'.toNat + 10)
  else none

/-- The value of four hexadecimal digits. -/
def unitValue? (a b c d : Char) : Option Nat := do
  let a ← hexValue? a
  let b ← hexValue? b
  let c ← hexValue? c
  let d ← hexValue? d
  return ((a * 16 + b) * 16 + c) * 16 + d

/-- The fault of an escape whose four digits are not there: the text ends too early when fewer than
four bytes are left of it. -/
def unitFault (cs : List Char) : Fault :=
  if (String.ofList cs).utf8ByteSize < 4 then .truncated else .malformed

/-- The character that a one-letter escape stands for. -/
def escapedChar? : Char → Option Char
  | '"' => some '"'
  | '\\' => some '\\'
  | '/' => some '/'
  | 'b' => some '\x08'
  | 'f' => some '\x0c'
  | 'n' => some '\n'
  | 'r' => some '\r'
  | 't' => some '\t'
  | _ => none

/-- Cut the inside of a quoted text behind its opening quote: the pieces, in front of those cut
already, last one first, and the text behind the closing quote or the fault in its place. -/
def cutText (done : List Piece) : List Char → List Piece × Except Fault (List Char)
  | [] => (done.reverse, .error .truncated)
  | c :: rest =>
    if c = '"' then (done.reverse, .ok rest)
    else if c = '\\' then
      match rest with
      | [] => (done.reverse, .error .truncated)
      | 'u' :: a :: b :: c :: d :: more =>
        match unitValue? a b c d with
        | some n => cutText (.unit n :: done) more
        | none => (done.reverse, .error (unitFault (a :: b :: c :: d :: more)))
      | 'u' :: short => (done.reverse, .error (unitFault short))
      | letter :: more =>
        match escapedChar? letter with
        | some c => cutText (.char c :: done) more
        | none => (done.reverse, .error .malformed)
    else if c.toNat < 0x20 then (done.reverse, .error .malformed)
    else cutText (.char c :: done) rest

/-- A unit that opens a surrogate pair. -/
def isHighSurrogate (n : Nat) : Bool := 0xD800 ≤ n && n ≤ 0xDBFF

/-- A unit that closes a surrogate pair. -/
def isLowSurrogate (n : Nat) : Bool := 0xDC00 ≤ n && n ≤ 0xDFFF

/-- The code point of a surrogate pair. -/
def pairValue (high low : Nat) : Nat := 0x10000 + (high - 0xD800) * 0x400 + (low - 0xDC00)

/-- Join pieces to characters, in front of those joined already, last one first.  `ended` is the
fault in place of the closing quote: it is what a pair without its second half runs into, if the
text breaks off there. -/
def joinPieces (ended : Option Fault) (done : List Char) :
    List Piece → Except Fault (List Char)
  | [] =>
    match ended with
    | some fault => .error fault
    | none => .ok done.reverse
  | .char c :: rest => joinPieces ended (c :: done) rest
  | .unit n :: rest =>
    if isLowSurrogate n then .error .malformed
    else if isHighSurrogate n then
      match rest with
      | .unit low :: more =>
        if isLowSurrogate low then joinPieces ended (Char.ofNat (pairValue n low) :: done) more
        else .error .malformed
      | .char _ :: _ => .error .malformed
      | [] => .error (ended.getD .malformed)
    else joinPieces ended (Char.ofNat n :: done) rest

/-- The content of a quoted text that was cut, or the first fault in reading it. -/
def textContent (pieces : List Piece) (ended : Option Fault) : Except Fault String :=
  match joinPieces ended [] pieces with
  | .ok cs => .ok (String.ofList cs)
  | .error fault => .error fault

/-! ## Numbers -/

/-- The digits at the front of a text and the text behind them. -/
def splitDigits (cs : List Char) : List Char × List Char :=
  (cs.takeWhile Char.isDigit, cs.dropWhile Char.isDigit)

/-- The fault of a number that lacks a digit, as the one who reads it meets it: at the end of the
text it is cut off. -/
def digitFault (cs : List Char) : Fault := if cs.isEmpty then .truncated else .malformed

/-- One digit or more at the front of a text, and the text behind them. -/
def someDigits (cs : List Char) : Except Fault (List Char × List Char) :=
  match splitDigits cs with
  | ([], _) => .error (digitFault cs)
  | found => .ok found

/-- The whole part of a number: a zero alone, or digits that start with another one. -/
def wholePart (cs : List Char) : Except Fault (List Char × List Char) :=
  match splitDigits cs with
  | ([], _) => .error (digitFault cs)
  | ('0' :: _ :: _, _) => .error .malformed
  | found => .ok found

/-- The part of a number behind its point, the point included. -/
def fractionPart : List Char → Except Fault (List Char × List Char)
  | '.' :: rest => do
    let (digits, rest) ← someDigits rest
    return ('.' :: digits, rest)
  | cs => .ok ([], cs)

/-- The sign in front of a number, if `isSign` allows it. -/
def signPart (isSign : Char → Bool) : List Char → List Char × List Char
  | c :: rest => if isSign c then ([c], rest) else ([], c :: rest)
  | [] => ([], [])

/-- The exponent of a number, its letter included. -/
def exponentPart : List Char → Except Fault (List Char × List Char)
  | c :: rest =>
    if c = 'e' ∨ c = 'E' then do
      let (sign, rest) := signPart (fun s => s == '+' || s == '-') rest
      let (digits, rest) ← someDigits rest
      return (c :: sign ++ digits, rest)
    else .ok ([], c :: rest)
  | [] => .ok ([], [])

/-- The number at the front of a text and the text behind it. -/
def splitNumber (cs : List Char) : Except Fault (List Char × List Char) := do
  let (sign, cs) := signPart (· == '-') cs
  let (whole, cs) ← wholePart cs
  let (fraction, cs) ← fractionPart cs
  let (exponent, cs) ← exponentPart cs
  return (sign ++ whole ++ fraction ++ exponent, cs)

/-- The number that digits stand for. -/
def digitsValue (digits : List Char) : Nat :=
  digits.foldl (fun n digit => n * 10 + (digit.toNat - '0'.toNat)) 0

/-- The number that the digits of an exponent stand for, with the sign in front of them. -/
def exponentValue : List Char → Int
  | '-' :: digits => -digitsValue digits
  | '+' :: digits => digitsValue digits
  | digits => digitsValue digits

/-- A number as its digits, without point, and the power of ten by which they are multiplied. -/
def scaledDigits (literal : List Char) : List Char × Int :=
  let isExponent (c : Char) : Bool := c == 'e' || c == 'E'
  let front := literal.takeWhile (!isExponent ·)
  let exponent := (literal.dropWhile (!isExponent ·)).drop 1
  let fraction := (front.dropWhile (· != '.')).drop 1
  (front.filter Char.isDigit, exponentValue exponent - fraction.length)

/-- The least number that is too large for a double: from here on the nearest double is infinite. -/
def doubleBound : Nat := Nat.pow 2 1024 - Nat.pow 2 970

/-- Whether a double can hold a number, rounded.  The bound has 309 digits, so that powers of ten
need only be computed for numbers of about that size. -/
def isInRange (literal : List Char) : Bool :=
  match scaledDigits literal with
  | (digits, .ofNat n) =>
    if digits.length + n ≤ 308 then true
    else if n ≤ 308 then digitsValue digits * Nat.pow 10 n < doubleBound
    else digitsValue digits == 0
  | (digits, .negSucc n) =>
    if digits.length ≤ 309 + n then true
    else digitsValue digits < doubleBound * Nat.pow 10 (n + 1)

/-- The content of a number, or the fault that it is too large. -/
def numberContent (literal : List Char) : Except Fault String :=
  if isInRange literal then .ok (String.ofList literal) else .error .malformed

/-! ## Values -/

/-- A value, and the text behind it unless a fault in the value ends the reading. -/
abbrev Step := Reading × Option (List Char)

/-- The reading that ends with the fault, met alike by those who read and those who pass over it. -/
def stopped (fault : Fault) : Step := (.broken fault fault, none)

/-- A word that stands for a value. -/
def readWord (value : Reading) (letters : List Char) (cs : List Char) : Step :=
  match behindWord letters cs with
  | .ok rest => (value, some rest)
  | .error fault => stopped fault

/-- A quoted text, behind its opening quote. -/
def readText (cs : List Char) : Step :=
  match cutText [] cs with
  | (pieces, .ok rest) => (.text (textContent pieces none), some rest)
  | (pieces, .error fault) =>
    match textContent pieces (some fault) with
    | .ok _ => stopped fault
    | .error first => (.broken first fault, none)

/-- A number. -/
def readNumber (cs : List Char) : Step :=
  match splitNumber cs with
  | .ok (literal, rest) => (.number (numberContent literal), some rest)
  | .error fault => (.broken fault .malformed, none)

/-- An array or object that was met with room for `room` more levels, itself included. -/
def nested (room : Nat) (bracket : Bracket) (content : Reading) : Reading :=
  if room = 0 then .buried bracket content.passed else content

mutual

/-- The value at the front of a text, the space before it skipped, where `room` more arrays and
objects inside one another can be read.  The fuel bounds the number of values, items and fields. -/
def readValue : Nat → Nat → List Char → Step
  | 0, _, _ => stopped .malformed
  | fuel + 1, room, cs =>
    match skipSpace cs with
    | [] => stopped .truncated
    | c :: rest =>
      if c = '"' then readText rest
      else if c = '[' then
        match readItems fuel (room - 1) true rest with
        | (items, ended, behind) => (nested room .square (.array items ended), behind)
      else if c = '{' then
        match readFields fuel (room - 1) true rest with
        | (fields, ended, behind) => (nested room .curly (.object fields ended), behind)
      else if c = 'n' then readWord .null ['u', 'l', 'l'] rest
      else if c = 't' then readWord (.bool true) ['r', 'u', 'e'] rest
      else if c = 'f' then readWord (.bool false) ['a', 'l', 's', 'e'] rest
      else if c = '-' ∨ c.isDigit then readNumber (c :: rest)
      else stopped .malformed

/-- The items of an array up to its closing bracket, with the fault in place of the bracket and the
text behind it.  Behind a comma there is always an item, if only a broken one. -/
def readItems : Nat → Nat → Bool → List Char →
    List Reading × Option Fault × Option (List Char)
  | 0, _, _, _ => ([], some .malformed, none)
  | fuel + 1, room, isFirst, cs =>
    match skipSpace cs with
    | [] => ([], some .truncated, none)
    | c :: rest =>
      if c = ']' then ([], none, some rest)
      else if !isFirst && c != ',' then ([], some .malformed, none)
      else
        match readValue fuel room (if isFirst then c :: rest else rest) with
        | (item, none) => ([item], none, none)
        | (item, some behind) =>
          match readItems fuel room false behind with
          | (items, ended, behind) => (item :: items, ended, behind)

/-- The fields of an object up to its closing brace, with the fault in place of the brace and the
text behind it. -/
def readFields : Nat → Nat → Bool → List Char →
    List ReadField × Option Fault × Option (List Char)
  | 0, _, _, _ => ([], some .malformed, none)
  | fuel + 1, room, isFirst, cs =>
    match skipSpace cs with
    | [] => ([], some .truncated, none)
    | c :: rest =>
      if c = '}' then ([], none, some rest)
      else if !isFirst && c != ',' then ([], some .malformed, none)
      else
        match skipSpace (if isFirst then c :: rest else rest) with
        | '"' :: inside =>
          match cutText [] inside with
          | (pieces, .error fault) =>
            let key := textContent pieces (some fault)
            ([(key, .broken fault fault)], none, none)
          | (pieces, .ok behind) =>
            let key := textContent pieces none
            match skipSpace behind with
            | ':' :: behind =>
              match readValue fuel room behind with
              | (value, none) => ([(key, value)], none, none)
              | (value, some behind) =>
                match readFields fuel room false behind with
                | (fields, ended, behind) => ((key, value) :: fields, ended, behind)
            | [] => ([(key, .broken .truncated .truncated)], none, none)
            | _ :: _ => ([(key, .broken .malformed .malformed)], none, none)
        | [] => ([], some .truncated, none)
        | _ :: _ => ([], some .malformed, none)

end

/-! ## Whole texts -/

/-- A JSON text as it was read: the value, and whether anything but space stands behind it. -/
structure Document where
  root : Reading
  hasMore : Bool

/-- Read a text.  Each character costs at most two steps: one for a value and one for the items or
fields in it. -/
def Document.ofText (s : String) : Document :=
  match readValue (2 * s.length + 2) depthLimit s.toList with
  | (root, none) => ⟨root, false⟩
  | (root, some rest) => ⟨root, !(skipSpace rest).isEmpty⟩

/-- The value of a text, or the first fault in it. -/
def ofText (s : String) : Except Fault Json := do
  let document := Document.ofText s
  let value ← document.root.whole
  if document.hasMore then .error .malformed else .ok value

end ApiDocs.Json
