import BindingPlan.Json.Basic

/-! # Reading JSON text

The reader takes strict JSON: no comments, no comma before a closing bracket, no leading zero, no
raw control inside a text, and nothing but blanks around the one value.

A number without point and exponent is an integer if it fits sixty-four bits, signed or unsigned;
any other number is the nearest double, `-0` too. A number too large for a double is unreadable, and
so is a text with a `\u` escape that is half of a surrogate pair and is not followed by its other
half. `read?` answers a value with such parts in it; `ofText?` refuses it.

Each step reads from a list of characters and answers what it read together with the rest. The
reader of values is bounded by a count of steps that the length of the text provides: every array,
object, item and member takes at least one character. -/

namespace BindingPlan.Json

/-! ### Blanks and texts -/

/-- A character that may stand between the tokens of a document. -/
def isSpace (c : Char) : Bool :=
  c == ' ' || c == '\n' || c == '\t' || c == '\r'

/-- The text without the blanks at its start. -/
def skipSpace (s : List Char) : List Char :=
  s.dropWhile isSpace

/-- The value of a hexadecimal digit. -/
def hexValue? (c : Char) : Option Nat :=
  if '0' ≤ c ∧ c ≤ '9' then some (c.toNat - 0x30)
  else if 'a' ≤ c ∧ c ≤ 'f' then some (c.toNat - 0x61 + 10)
  else if 'A' ≤ c ∧ c ≤ 'F' then some (c.toNat - 0x41 + 10)
  else none

/-- The value of four hexadecimal digits. -/
def hexValue4? (a b c d : Char) : Option Nat := do
  let a ← hexValue? a
  let b ← hexValue? b
  let c ← hexValue? c
  let d ← hexValue? d
  some (((a * 16 + b) * 16 + c) * 16 + d)

/-- The character that a one-letter escape stands for. -/
def unescape? (c : Char) : Option Char :=
  match c with
  | '"' => some '"'
  | '\\' => some '\\'
  | '/' => some '/'
  | 'b' => some '\x08'
  | 'f' => some '\x0c'
  | 'n' => some '\n'
  | 'r' => some '\r'
  | 't' => some '\t'
  | _ => none

/-- A character of a text, or half of a surrogate pair. -/
inductive TextPart where
  | char (value : Char)
  | half (unit : Nat)

namespace TextPart

/-- What a `\u` escape with four hexadecimal digits stands for. -/
def ofUnit (unit : Nat) : TextPart :=
  if 0xD800 ≤ unit ∧ unit < 0xE000 then .half unit else .char (Char.ofNat unit)

/-- The character of a pair of halves. -/
def pairChar (high low : Nat) : Char :=
  Char.ofNat (0x10000 + (high - 0xD800) * 0x400 + (low - 0xDC00))

/-- The characters that parts make up. Two halves next to each other are one character if the first
is a high one and the second a low one; no other half stands for anything. -/
def chars? : List TextPart → Option (List Char)
  | [] => some []
  | .char c :: rest => (chars? rest).map (c :: ·)
  | .half high :: .half low :: rest =>
    if high < 0xDC00 ∧ 0xDC00 ≤ low then (chars? rest).map (pairChar high low :: ·) else none
  | .half _ :: _ => none

/-- The text that parts make up. -/
def text? (parts : List TextPart) : Option String :=
  (chars? parts).map String.ofList

end TextPart

/-- Puts a part of a text in front of what was read after it. -/
def push (part : TextPart) : Option (List TextPart × List Char) → Option (List TextPart × List Char)
  | some (parts, rest) => some (part :: parts, rest)
  | none => none

/-- The parts of a text up to its closing quote, read after the opening one. -/
def readText : List Char → Option (List TextPart × List Char)
  | [] => none
  | '"' :: rest => some ([], rest)
  | '\\' :: 'u' :: a :: b :: c :: d :: rest =>
    match hexValue4? a b c d with
    | some unit => push (.ofUnit unit) (readText rest)
    | none => none
  | '\\' :: c :: rest =>
    match unescape? c with
    | some c => push (.char c) (readText rest)
    | none => none
  | c :: rest => if c.toNat < 0x20 then none else push (.char c) (readText rest)

/-- The value that the parts of a text stand for. -/
def ofTextParts (parts : List TextPart) : Json :=
  match TextPart.text? parts with
  | some text => .string text
  | none => .unreadable

/-! ### Numbers -/

/-- The value of a row of decimal digits. -/
def digitsValue (digits : List Char) : Nat :=
  digits.foldl (fun n c => n * 10 + (c.toNat - 0x30)) 0

/-- The digits in front of the text, at least one, and the rest. -/
def readDigits (s : List Char) : Option (List Char × List Char) :=
  match s.takeWhile Char.isDigit with
  | [] => none
  | digits => some (digits, s.dropWhile Char.isDigit)

/-- The digits before the point: a zero alone or a row that does not start with one. -/
def readWhole : List Char → Option (List Char × List Char)
  | '0' :: rest => if rest.head?.any Char.isDigit then none else some (['0'], rest)
  | s => readDigits s

/-- The digits after the point; none are read if there is no point. -/
def readFraction : List Char → Option (List Char × List Char)
  | '.' :: rest => readDigits rest
  | s => some ([], s)

/-- The exponent, if an `e` announces one. -/
def readExponent (s : List Char) : Option (Option Int × List Char) :=
  match s with
  | c :: rest =>
    if c = 'e' ∨ c = 'E' then
      match rest with
      | '-' :: digits => (readDigits digits).map fun (d, r) => (some (-(digitsValue d : Int)), r)
      | '+' :: digits => (readDigits digits).map fun (d, r) => (some (digitsValue d : Int), r)
      | digits => (readDigits digits).map fun (d, r) => (some (digitsValue d : Int), r)
    else some (none, s)
  | [] => some (none, s)

/-- The number that sign, digits, fraction and exponent stand for. -/
def number (negative : Bool) (whole fraction : List Char) (exponent : Option Int) : Json :=
  let magnitude := digitsValue whole
  if fraction.isEmpty ∧ exponent.isNone ∧
      (if negative then 0 < magnitude ∧ magnitude ≤ Nat.pow 2 63 else magnitude < UInt64.size) then
    .integer (if negative then -(magnitude : Int) else magnitude)
  else
    match Decimal.Double.ofDecimal? negative (digitsValue (whole ++ fraction))
        (exponent.getD 0 - fraction.length) with
    | some x => .decimal x
    | none => .unreadable

/-- A number in front of the text, and the rest. -/
def readNumber (s : List Char) : Option (Json × List Char) := do
  let (negative, s) := match s with
    | '-' :: rest => (true, rest)
    | s => (false, s)
  let (whole, s) ← readWhole s
  let (fraction, s) ← readFraction s
  let (exponent, s) ← readExponent s
  some (number negative whole fraction exponent, s)

/-! ### Values -/

/-- The object with the given members, if each of its keys is a text. -/
def ofMembers (members : List (Option String × Json)) : Json :=
  match members.mapM fun (key, value) => key.map (·, value) with
  | some members => .object members
  | none => .unreadable

mutual

/-- A value in front of the text, after blanks, and the rest. -/
def readValue : Nat → List Char → Option (Json × List Char)
  | 0, _ => none
  | steps + 1, s =>
    match skipSpace s with
    | 'n' :: 'u' :: 'l' :: 'l' :: rest => some (.null, rest)
    | 't' :: 'r' :: 'u' :: 'e' :: rest => some (.bool true, rest)
    | 'f' :: 'a' :: 'l' :: 's' :: 'e' :: rest => some (.bool false, rest)
    | '"' :: rest => (readText rest).map fun (parts, rest) => (ofTextParts parts, rest)
    | '[' :: rest =>
      match skipSpace rest with
      | ']' :: rest => some (.array [], rest)
      | rest => (readItems steps rest).map fun (items, rest) => (.array items, rest)
    | '\x7b' :: rest =>
      match skipSpace rest with
      | '\x7d' :: rest => some (.object [], rest)
      | rest => (readMembers steps rest).map fun (members, rest) => (ofMembers members, rest)
    | s => readNumber s

/-- The items of an array, at least one, up to its closing bracket. -/
def readItems : Nat → List Char → Option (List Json × List Char)
  | 0, _ => none
  | steps + 1, s =>
    match readValue steps s with
    | none => none
    | some (item, rest) =>
      match skipSpace rest with
      | ',' :: rest => (readItems steps rest).map fun (items, rest) => (item :: items, rest)
      | ']' :: rest => some ([item], rest)
      | _ => none

/-- The members of an object, at least one, up to its closing brace. -/
def readMembers : Nat → List Char → Option (List (Option String × Json) × List Char)
  | 0, _ => none
  | steps + 1, s =>
    match skipSpace s with
    | '"' :: rest =>
      match readText rest with
      | none => none
      | some (key, rest) =>
        match skipSpace rest with
        | ':' :: rest =>
          match readValue steps rest with
          | none => none
          | some (value, rest) =>
            match skipSpace rest with
            | ',' :: rest =>
              (readMembers steps rest).map fun (members, rest) =>
                ((TextPart.text? key, value) :: members, rest)
            | '\x7d' :: rest => some ([(TextPart.text? key, value)], rest)
            | _ => none
        | _ => none
    | _ => none

end

/-- The value that a text is written for, with its unreadable parts; none if the text does not obey
the grammar. -/
def read? (text : String) : Option Json :=
  let s := text.toList
  match readValue (2 * s.length + 1) s with
  | some (value, rest) => if (skipSpace rest).isEmpty then some value else none
  | none => none

/-- The value that a text stands for; none if the text is not one JSON value or has an unreadable
part. -/
def ofText? (text : String) : Option Json :=
  (read? text).filter isReadable

end BindingPlan.Json
