import EventIntake.Number.Decimal
import EventIntake.Toml.Text
import EventIntake.Toml.Value

/-!
# Numbers, dates and times

Digits may be set apart by single underscores, each between two digits.  A decimal number has no
zero in front of other digits.  An integer fits in 64 bits; a number that would be infinite is
refused unless it is negative.  A date exists in the calendar; a time of day follows it after `T` or
a space, and an offset may follow the two.
-/

namespace EventIntake.Toml

/-- Digits, perhaps with underscores between them, without these. -/
def digitRun (isDigit : Char → Bool) : Reads (List Char)
  | [] => none
  | c :: rest => if isDigit c then some (more isDigit [c] rest) else none
where
  more (isDigit : Char → Bool) : List Char → List Char → List Char × List Char
    | read, '_' :: c :: rest =>
      if isDigit c then more isDigit (c :: read) rest else (read.reverse, '_' :: c :: rest)
    | read, c :: rest =>
      if isDigit c then more isDigit (c :: read) rest else (read.reverse, c :: rest)
    | read, [] => (read.reverse, [])

/-- A sign, if there is one, and whether it is a minus. -/
def sign : List Char → Bool × List Char
  | '-' :: rest => (true, rest)
  | '+' :: rest => (false, rest)
  | cs => (false, cs)

/-- The digits of a decimal integer: a zero stands alone. -/
def wholeDigits (cs : List Char) : Option (List Char × List Char) :=
  match cs with
  | '0' :: rest => some (['0'], rest)
  | cs => digitRun Char.isDigit cs

/-- Integers have 64 bits. -/
def inRange (n : Int) : Bool := -0x8000000000000000 ≤ n && n < 0x8000000000000000

def radix (base : Nat) (cs : List Char) : Option (Value × List Char) := do
  let isDigit (c : Char) : Bool := match hexValue? c with | some d => d < base | none => false
  let (digits, rest) ← digitRun isDigit cs
  let n : Nat := digits.foldl (fun n c => base * n + (hexValue? c).getD 0) 0
  if inRange n then return (.integer n, rest) else none

/-- An exponent: its sign and digits. -/
def exponent (cs : List Char) : Option (Int × List Char) :=
  match cs with
  | c :: rest =>
    if c = 'e' ∨ c = 'E' then do
      let (negative, rest) := sign rest
      let (digits, rest) ← digitRun Char.isDigit rest
      let n : Int := Number.ofDigits digits
      return (if negative then -n else n, rest)
    else none
  | [] => none

def special (cs : List Char) : Option (Value × List Char) :=
  let (negative, rest) := sign cs
  match rest with
  | 'i' :: 'n' :: 'f' :: rest => some (.float ⟨negative, Binary64.infinite⟩, rest)
  | 'n' :: 'a' :: 'n' :: rest => some (.float ⟨negative, Binary64.notANumber⟩, rest)
  | _ => none

def number : Reads Value := fun cs =>
  match cs with
  | '0' :: 'x' :: rest => radix 16 rest
  | '0' :: 'o' :: rest => radix 8 rest
  | '0' :: 'b' :: rest => radix 2 rest
  | cs =>
    let (negative, unsigned) := sign cs
    match wholeDigits unsigned with
    | none => special cs
    | some (whole, rest) => do
      let float (fraction : List Char) (e : Int) (rest : List Char) : Option (Value × List Char) :=
        let m := Binary64.ofDecimal (Number.ofDigits (whole ++ fraction)) (e - fraction.length)
        if m = Binary64.infinite ∧ !negative then none else some (.float ⟨negative, m⟩, rest)
      match rest with
      | '.' :: rest =>
        let (fraction, rest) ← digitRun Char.isDigit rest
        match rest with
        | 'e' :: _ | 'E' :: _ =>
          let (e, rest) ← exponent rest
          float fraction e rest
        | rest => float fraction 0 rest
      | 'e' :: _ | 'E' :: _ =>
        let (e, rest) ← exponent rest
        float [] e rest
      | rest =>
        let n : Int := Number.ofDigits whole
        let n := if negative then -n else n
        if inRange n then return (.integer n, rest) else none

/-! ## Dates and times -/

/-- Exactly `count` digits, not followed by what the reader leaves. -/
def digits (count : Nat) : Reads Nat := fun cs =>
  let ds := cs.take count
  if ds.length = count ∧ ds.all Char.isDigit then some (Number.ofDigits ds, cs.drop count) else none

def expect (c : Char) : List Char → Option (List Char)
  | d :: rest => if c = d then some rest else none
  | [] => none

def isLeap (year : Nat) : Bool := (year % 4 = 0 && year % 100 ≠ 0) || year % 400 = 0

def daysIn (year month : Nat) : Nat :=
  if month = 2 then (if isLeap year then 29 else 28)
  else if month = 4 ∨ month = 6 ∨ month = 9 ∨ month = 11 then 30
  else 31

/-- A day; `none` inside says that a date was begun and does not exist. -/
def date (cs : List Char) : Option (Option (List Char)) := do
  let (year, rest) ← digits 4 cs
  let rest ← expect '-' rest
  return do
    let (month, rest) ← digits 2 rest
    let rest ← expect '-' rest
    let (day, rest) ← digits 2 rest
    if 1 ≤ month ∧ month ≤ 12 ∧ 1 ≤ day ∧ day ≤ daysIn year month then some rest else none

/-- A time of day; `none` inside says that a time was begun and does not exist. -/
def time (cs : List Char) : Option (Option (List Char)) := do
  let (hour, rest) ← digits 2 cs
  if 23 < hour then none
  let rest ← expect ':' rest
  return do
    let (minute, rest) ← digits 2 rest
    if 59 < minute then none
    let rest ← expect ':' rest
    let (second, rest) ← digits 2 rest
    if 60 < second then none
    match rest with
    | '.' :: c :: more => return if c.isDigit then more.dropWhile Char.isDigit else rest
    | rest => return rest

/-- An offset from universal time, if one comes next. -/
def offset (cs : List Char) : Option (List Char) :=
  match cs with
  | 'Z' :: rest | 'z' :: rest => some rest
  | c :: rest =>
    if c = '+' ∨ c = '-' then
      match digits 2 rest with
      | some (hour, ':' :: more) =>
        if 23 < hour then some cs
        else
          match digits 2 more with
          | some (minute, rest) => if minute ≤ 59 then some rest else none
          | none => none
      | _ => some cs
    else some cs
  | [] => some []

/-- A date, a time, or both.  `none` outside says that neither was begun. -/
def moment (cs : List Char) : Option (Option (Value × List Char)) :=
  let value (rest : List Char) : Value × List Char :=
    (.moment (String.ofList (cs.take (cs.length - rest.length))), rest)
  match date cs with
  | some none => some none
  | some (some rest) =>
    match rest with
    | c :: more =>
      if c = 'T' ∨ c = 't' ∨ c = ' ' then
        match time more with
        | some none => some none
        | some (some rest) => some ((offset rest).map value)
        | none => some (some (value rest))
      else some (some (value rest))
    | [] => some (some (value rest))
  | none => (time cs).map fun t => t.map value

/-- A number, a date or a time. -/
def numeric : Reads Value := fun cs =>
  match moment cs with
  | some result => result
  | none => number cs

end EventIntake.Toml
