import EventIntake.Number.Binary64
import EventIntake.Number.Integer

/-!
# Decimal numbers in text

A sign if there is one, then digits with a point in front, between or behind them, then an exponent
if there is one.  At least one digit stands beside the point.  The names of the infinite number and
of what is no number are read as well, in any case of letters.
-/

namespace EventIntake.Number

/-- The decimal digits at the start, and the rest. -/
def spanDigits (cs : List Char) : List Char × List Char :=
  (cs.takeWhile Char.isDigit, cs.dropWhile Char.isDigit)

/-- A whole text of digits with a sign, as the exponent is written. -/
def exponent? : List Char → Option Int
  | '-' :: cs => if cs ≠ [] ∧ cs.all Char.isDigit then some (-(ofDigits cs : Int)) else none
  | '+' :: cs => if cs ≠ [] ∧ cs.all Char.isDigit then some (ofDigits cs) else none
  | cs => if cs ≠ [] ∧ cs.all Char.isDigit then some (ofDigits cs) else none

/-- The magnitude of a number without its sign. -/
def magnitude? (cs : List Char) : Option Nat :=
  let (whole, rest) := spanDigits cs
  let (fraction, rest) :=
    match rest with
    | '.' :: rest => spanDigits rest
    | rest => ([], rest)
  if whole = [] ∧ fraction = [] then none
  else
    let value (e : Int) := Binary64.ofDecimal (ofDigits (whole ++ fraction)) (e - fraction.length)
    match rest with
    | [] => some (value 0)
    | c :: rest => if c = 'e' ∨ c = 'E' then (exponent? rest).map value else none

def lower (c : Char) : Char := if 'A' ≤ c ∧ c ≤ 'Z' then Char.ofNat (c.toNat + 32) else c

/-- The magnitude that a name stands for. -/
def named? (cs : List Char) : Option Nat :=
  let name := cs.map lower
  if name = "inf".toList ∨ name = "infinity".toList then some Binary64.infinite
  else if name = "nan".toList then some Binary64.notANumber
  else none

def binary64? (cs : List Char) : Option Binary64 :=
  let (negative, cs) :=
    match cs with
    | '-' :: rest => (true, rest)
    | '+' :: rest => (false, rest)
    | cs => (false, cs)
  ((magnitude? cs).or (named? cs)).map fun m => ⟨negative, m⟩

end EventIntake.Number
