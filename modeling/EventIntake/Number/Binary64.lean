/-!
# Binary floating point numbers of 64 bits

A number is its sign and the pattern of its other 63 bits, whose order as a natural number is the
order of the magnitudes.  `roundQuotient` is the pattern nearest to a quotient of natural numbers; a
tie goes to the even pattern, and what is too large is infinite.
-/

namespace EventIntake

structure Binary64 where
  negative : Bool
  magnitude : Nat
  deriving DecidableEq, Repr, Inhabited

namespace Binary64

/-- The pattern of the infinite magnitude; what is above it is no number. -/
def infinite : Nat := 0x7FF0000000000000

def notANumber : Nat := 0x7FF8000000000000

def isFinite (x : Binary64) : Bool := x.magnitude < infinite

/-- The pattern of the number one. -/
def one : Nat := 0x3FF0000000000000

/-- Whether the number lies between zero and one, ends included; both zeros do. -/
def inUnitInterval (x : Binary64) : Bool :=
  x.magnitude ≤ one && (!x.negative || x.magnitude == 0)

/-- All 64 bits, as a number. -/
def bits (x : Binary64) : Nat := (if x.negative then 1 <<< 63 else 0) + x.magnitude

/-- `num / den` rounded to the nearest natural number, a tie to the even one. -/
def roundHalfEven (num den : Nat) : Nat :=
  let q := num / den
  let twice := 2 * (num % den)
  if twice < den then q
  else if den < twice then q + 1
  else q + q % 2

/-- `num / den` in units of `2 ^ e`, rounded. -/
def scaled (num den : Nat) (e : Int) : Nat :=
  if 0 ≤ e then roundHalfEven num (den <<< e.toNat) else roundHalfEven (num <<< (-e).toNat) den

/-- The exponent of the last place of the numbers near `num / den`. -/
def lastPlace (num den : Nat) : Int :=
  let e : Int := (num.log2 : Int) - den.log2 - 53
  let fits (e : Int) : Bool :=
    if 0 ≤ e then num < den <<< (e.toNat + 53) else num <<< (-e).toNat < den <<< 53
  let e := if fits e then e else if fits (e + 1) then e + 1 else e + 2
  max e (-1074)

/-- The pattern of the number nearest to `num / den`. -/
def roundQuotient (num den : Nat) : Nat :=
  if num = 0 then 0
  else
    let e := lastPlace num den
    let m := scaled num den e
    if m < 1 <<< 52 then m
    else
      let pattern := ((e + 1075).toNat <<< 52) + (m - 1 <<< 52)
      min pattern infinite

/-- The pattern nearest to `digits * 10 ^ exponent`. -/
def ofDecimal (digits : Nat) (exponent : Int) : Nat :=
  let top := exponent + (Nat.toDigits 10 digits).length
  if digits = 0 ∨ top < -330 then 0
  else if 310 < top then infinite
  else if 0 ≤ exponent then roundQuotient (digits * Nat.pow 10 exponent.toNat) 1
  else roundQuotient digits (Nat.pow 10 (-exponent).toNat)

/-- The sixteen hexadecimal digits of the bits. -/
def hex (x : Binary64) : String :=
  let digits := Nat.toDigits 16 x.bits
  String.ofList (List.replicate (16 - digits.length) '0' ++ digits)

end Binary64

end EventIntake
