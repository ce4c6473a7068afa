import EventIntake.Contract.Sha256

/-!
# Fingerprints

The fingerprint of some contents is their length and their digest: writing the same bytes again is
no change, and any edit is one.  It is shown as the length and the first six bytes of the digest.
-/

namespace EventIntake

def hexDigit (n : Nat) : Char := if n < 10 then Char.ofNat (48 + n) else Char.ofNat (87 + n)

/-- Two lower-case hexadecimal digits for each byte. -/
def hexText (bytes : List UInt8) : String :=
  String.ofList (bytes.flatMap fun b => [hexDigit (b.toNat / 16), hexDigit (b.toNat % 16)])

structure Fingerprint where
  size : Nat
  digest : List UInt8
  deriving DecidableEq, Repr

namespace Fingerprint

def of (contents : ByteArray) : Fingerprint := ⟨contents.size, Sha256.digest contents⟩

def isEmpty (f : Fingerprint) : Bool := f.size == 0

def text (f : Fingerprint) : String := toString f.size ++ ":" ++ hexText (f.digest.take 6)

/-- The form for diagnostics. -/
def diagnostic (f : Fingerprint) : String := "Fingerprint(" ++ f.text ++ ")"

end Fingerprint

end EventIntake
