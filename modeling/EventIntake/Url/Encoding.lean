/-!
# Percent encoding

Where a part of a URL must not hold a character as it is, each byte of its UTF-8 form is written as
a percent sign and two upper-case hexadecimal digits.  Each part has its own set of such characters;
whatever is no printable ASCII character is in all of them.
-/

namespace EventIntake.Url

def upperHexDigit (n : Nat) : Char := if n < 10 then Char.ofNat (48 + n) else Char.ofNat (55 + n)

def encodedByte (b : UInt8) : List Char :=
  ['%', upperHexDigit (b.toNat / 16), upperHexDigit (b.toNat % 16)]

/-- `cs`, with the characters of `unsafeOnes` and those that are not printable encoded. -/
def encode (unsafeOnes : List Char) (cs : List Char) : List Char :=
  cs.flatMap fun c =>
    if 0x20 ≤ c.toNat ∧ c.toNat < 0x7F ∧ c ∉ unsafeOnes then [c]
    else (String.singleton c).toUTF8.toList.flatMap encodedByte

def fragmentSet : List Char := [' ', '"', '<', '>', '\x60']

def pathSet : List Char := fragmentSet ++ ['#', '?', '^', '\x7b', '\x7d']

def userinfoSet : List Char := pathSet ++ ['/', ':', ';', '=', '@', '[', '\\', ']', '|']

def querySet : List Char := [' ', '"', '#', '<', '>']

def specialQuerySet : List Char := '\'' :: querySet

/-- The bytes of a text, with what is percent-encoded in it decoded. -/
def decoded : List UInt8 → List UInt8
  | 37 :: a :: b :: rest =>
    match hexByte a, hexByte b with
    | some x, some y => UInt8.ofNat (16 * x + y) :: decoded rest
    | _, _ => 37 :: decoded (a :: b :: rest)
  | b :: rest => b :: decoded rest
  | [] => []
where
  hexByte (b : UInt8) : Option Nat :=
    let n := b.toNat
    if 48 ≤ n ∧ n ≤ 57 then some (n - 48)
    else if 97 ≤ n ∧ n ≤ 102 then some (n - 87)
    else if 65 ≤ n ∧ n ≤ 70 then some (n - 55)
    else none

end EventIntake.Url
