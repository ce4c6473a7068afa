import EventIntake.Json.Value
import EventIntake.Net.Address

/-!
# Reading JSON

A document is one value with blanks around it.  It is read byte by byte: outside of strings every
byte that counts is an ASCII character, and inside of them the bytes are taken as they come and
checked as a whole.
-/

namespace EventIntake.Json

/-- Read from the front of a document: a value and what is left. -/
abbrev Reads (β : Type) := List UInt8 → Option (β × List UInt8)

def byte (c : Char) : UInt8 := UInt8.ofNat c.toNat

def isBlank (b : UInt8) : Bool :=
  b == byte ' ' || b == byte '\n' || b == byte '\t' || b == byte '\r'

def skipBlanks (bs : List UInt8) : List UInt8 := bs.dropWhile isBlank

def isDigit (b : UInt8) : Bool := byte '0' ≤ b && b ≤ byte '9'

/-- What follows a word that comes next. -/
def word? (word : String) (bs : List UInt8) : Option (List UInt8) :=
  let expected := word.toList.map byte
  if expected.isPrefixOf bs then some (bs.drop expected.length) else none

/-! ## Numbers -/

/-- What follows one digit or more. -/
def digits? (bs : List UInt8) : Option (List UInt8) :=
  if (bs.head?.map isDigit).getD false then some (bs.dropWhile isDigit) else none

/-- What follows the whole part of a number, which has no zero in front. -/
def wholePart? (bs : List UInt8) : Option (List UInt8) :=
  match word? "0" bs with
  | some rest => if (rest.head?.map isDigit).getD false then none else some rest
  | none => digits? bs

def fraction? (bs : List UInt8) : Option (List UInt8) :=
  match word? "." bs with
  | some rest => digits? rest
  | none => some bs

def exponent? (bs : List UInt8) : Option (List UInt8) :=
  match (word? "e" bs).orElse fun _ => word? "E" bs with
  | some rest => digits? (((word? "+" rest).orElse fun _ => word? "-" rest).getD rest)
  | none => some bs

/-- What follows a number. -/
def number? (bs : List UInt8) : Option (List UInt8) := do
  exponent? (← fraction? (← wholePart? ((word? "-" bs).getD bs)))

/-! ## Strings -/

/-- A unit of sixteen bits in four hexadecimal digits. -/
def unit : Reads Nat := fun bs => do
  let digits ← (bs.take 4).mapM fun b => Net.hexValue? (Char.ofNat b.toNat)
  if digits.length = 4 then some (digits.foldl (fun n d => 16 * n + d) 0, bs.drop 4) else none

/-- A character's bytes. -/
def encoded (n : Nat) : List UInt8 := (String.singleton (Char.ofNat n)).toUTF8.toList

/-- What an escape stands for, read after its backslash; `none` inside is half of a pair that lacks
its other half. -/
def escape : Reads (Option (List UInt8))
  | [] => none
  | b :: rest =>
    let plain (c : Char) := some (some [byte c], rest)
    if b = byte '"' then plain '"'
    else if b = byte '\\' then plain '\\'
    else if b = byte '/' then plain '/'
    else if b = byte 'b' then plain '\x08'
    else if b = byte 'f' then plain '\x0c'
    else if b = byte 'n' then plain '\n'
    else if b = byte 'r' then plain '\r'
    else if b = byte 't' then plain '\t'
    else if b = byte 'u' then
      match unit rest with
      | none => none
      | some (high, rest) =>
        if high < 0xD800 ∨ 0xDFFF < high then some (some (encoded high), rest)
        else
          match (word? "\\u" rest).bind unit with
          | some (low, after) =>
            if high < 0xDC00 ∧ 0xDC00 ≤ low ∧ low ≤ 0xDFFF then
              some (some (encoded (0x10000 + (high - 0xD800) * 0x400 + (low - 0xDC00))), after)
            else some (none, rest)
          | none => some (none, rest)
    else none

/-- The bytes of a string up to its closing quote, after the opening one. -/
def stringBytes : Nat → Reads (Option (List UInt8))
  | 0, _ => none
  | _ + 1, [] => none
  | fuel + 1, b :: rest =>
    if b = byte '"' then some (some [], rest)
    else if b = byte '\\' then do
      let (piece, rest) ← escape rest
      let (more, rest) ← stringBytes fuel rest
      return (do return (← piece) ++ (← more), rest)
    else if b < byte ' ' then none
    else do
      let (more, rest) ← stringBytes fuel rest
      return (more.map (b :: ·), rest)

/-- A string, after its opening quote. -/
def string : Reads (Option String) := fun bs =>
  (stringBytes (bs.length + 1) bs).map fun (bytes, rest) =>
    (bytes.bind fun bytes => String.fromUTF8? ⟨bytes.toArray⟩, rest)

/-! ## Values -/

mutual

def value : Nat → Reads Value
  | 0, _ => none
  | fuel + 1, bs =>
    match skipBlanks bs with
    | [] => none
    | b :: rest =>
      if b = byte '"' then (string rest).map fun (text, rest) => (.string text, rest)
      else if b = byte '[' then
        match word? "]" (skipBlanks rest) with
        | some rest => some (.array [], rest)
        | none => (items fuel rest).map fun (vs, rest) => (.array vs, rest)
      else if b = byte '\x7b' then
        match word? "\x7d" (skipBlanks rest) with
        | some rest => some (.object [], rest)
        | none => (members fuel rest).map fun (ms, rest) => (.object ms, rest)
      else
        match word? "null" (b :: rest), word? "true" (b :: rest), word? "false" (b :: rest) with
        | some rest, _, _ => some (.null, rest)
        | _, some rest, _ => some (.boolean true, rest)
        | _, _, some rest => some (.boolean false, rest)
        | _, _, _ => (number? (b :: rest)).map fun rest => (.number, rest)

/-- The items of an array up to its end. -/
def items : Nat → Reads (List Value)
  | 0, _ => none
  | fuel + 1, bs => do
    let (v, rest) ← value fuel bs
    let rest := skipBlanks rest
    match word? "]" rest with
    | some rest => return ([v], rest)
    | none =>
      let (vs, rest) ← items fuel (← word? "," rest)
      return (v :: vs, rest)

/-- The members of an object up to its end. -/
def members : Nat → Reads (List (Option String × Value))
  | 0, _ => none
  | fuel + 1, bs => do
    let (name, rest) ← string (← word? "\"" (skipBlanks bs))
    let (v, rest) ← value fuel (← word? ":" (skipBlanks rest))
    let rest := skipBlanks rest
    match word? "\x7d" rest with
    | some rest => return ([(name, v)], rest)
    | none =>
      let (ms, rest) ← members fuel (← word? "," rest)
      return ((name, v) :: ms, rest)

end

/-- The value of a whole document. -/
def ofBytes? (document : ByteArray) : Option Value :=
  let bs := document.toList
  match value (2 * bs.length + 2) bs with
  | some (v, rest) => if skipBlanks rest = [] then some v else none
  | none => none

end EventIntake.Json
