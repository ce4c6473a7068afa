import EventIntake.Number.Decimal
import EventIntake.Properties.Basic

/-!
# Typed property values

A value that reads as a truth value, an integer of 64 bits or a finite decimal number is taken as
such, tried in this order; any other value is a text.
-/

namespace EventIntake

inductive TypedValue where
  | bool (value : Bool)
  | int (value : Int)
  | float (value : Binary64)
  | string (value : String)
  deriving DecidableEq, Repr

namespace TypedValue

def finite? (raw : String) : Option Binary64 :=
  (Number.binary64? raw.toList).filter Binary64.isFinite

def ofText (raw : String) : TypedValue :=
  if raw = "true" then .bool true
  else if raw = "false" then .bool false
  else
    match Number.int64? raw.toList with
    | some n => .int n
    | none =>
      match finite? raw with
      | some x => .float x
      | none => .string raw

/-- The value as a natural number, where it is an integer that is not negative. -/
def nat? : TypedValue → Option Nat
  | int (.ofNat n) => some n
  | _ => none

end TypedValue

/-- The properties with typed values, in the order of the keys. -/
def Properties.typed (p : Properties) : List (String × TypedValue) :=
  p.entries.map fun (key, value) => (key, .ofText value)

end EventIntake
