/-!
# Integers in text

A text of decimal digits, with a sign in front where the kind of integer allows one.  Nothing else
may stand in it: no blank, no separator, and at least one digit.
-/

namespace EventIntake.Number

/-- Why a text is no integer of the wanted kind. -/
inductive IntegerError where
  | empty
  | invalidDigit
  | tooLarge
  deriving DecidableEq, Repr

def IntegerError.message : IntegerError → String
  | empty => "cannot parse integer from empty string"
  | invalidDigit => "invalid digit found in string"
  | tooLarge => "number too large to fit in target type"

def digitValue (c : Char) : Nat := c.toNat - '0'.toNat

/-- The number that decimal digits stand for. -/
def ofDigits (cs : List Char) : Nat := cs.foldl (fun n c => 10 * n + digitValue c) 0

/-- A natural number up to `limit`, with an optional plus sign.  Of two faults the one that is met
first counts: digits are read until the number is too large or one of them is none. -/
def natFrom (limit : Nat) : Nat → List Char → Except IntegerError Nat
  | n, [] => .ok n
  | n, c :: rest =>
    if c.isDigit then
      if 10 * n + digitValue c ≤ limit then natFrom limit (10 * n + digitValue c) rest
      else .error .tooLarge
    else .error .invalidDigit

def nat? (limit : Nat) (cs : List Char) : Except IntegerError Nat :=
  match cs with
  | [] => .error .empty
  | '+' :: [] => .error .invalidDigit
  | '+' :: rest => natFrom limit 0 rest
  | cs => natFrom limit 0 cs

/-- A signed integer of 64 bits. -/
def int64? (cs : List Char) : Option Int :=
  match cs with
  | '-' :: rest =>
    match nat? 0x8000000000000000 ('+' :: rest) with
    | .ok n => some (-n)
    | .error _ => none
  | cs =>
    match nat? 0x7FFFFFFFFFFFFFFF cs with
    | .ok n => some n
    | .error _ => none

end EventIntake.Number
