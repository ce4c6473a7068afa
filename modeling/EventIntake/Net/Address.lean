import EventIntake.Number.Integer

/-!
# Addresses of hosts and sockets

An address of version 4 has four bytes, one of version 6 eight words.  A socket address is such an
address with a port; in its text an address of version 6 stands in brackets, with the number of a
zone after a percent sign if there is one.

Texts are read strictly: in version 4 a byte has no zero in front, and in version 6 at most one `::`
stands for the words that are left out, of which there is at least one.
-/

namespace EventIntake.Net

inductive Address where
  | v4 (bytes : List Nat)
  | v6 (words : List Nat)
  deriving DecidableEq, Repr

structure SocketAddress where
  address : Address
  zone : Nat
  port : Nat
  deriving DecidableEq, Repr

def hexValue? (c : Char) : Option Nat :=
  if c.isDigit then some (c.toNat - 48)
  else if 'a' ≤ c ∧ c ≤ 'f' then some (c.toNat - 87)
  else if 'A' ≤ c ∧ c ≤ 'F' then some (c.toNat - 55)
  else none

/-- The text of eight words: each in hexadecimal digits, with the first longest run of at least two
zeros left out. -/
def renderWords (words : List Nat) : String :=
  let run (i : Nat) : Nat := ((words.drop i).takeWhile (· == 0)).length
  let best := (List.range words.length).foldl (fun b i => if run b < run i then i else b) 0
  let text (ws : List Nat) : String :=
    String.intercalate ":" (ws.map fun w => String.ofList (Nat.toDigits 16 w))
  if 2 ≤ run best then text (words.take best) ++ "::" ++ text (words.drop (best + run best))
  else text words

def Address.text : Address → String
  | .v4 bytes => String.intercalate "." (bytes.map toString)
  | .v6 words => renderWords words

/-! ## Reading -/

/-- Read from the front of a text: a value and what is left. -/
abbrev Reads (β : Type) := List Char → Option (β × List Char)

def char (c : Char) : Reads Unit
  | d :: rest => if c = d then some ((), rest) else none
  | [] => none

/-- Decimal digits of a number up to `limit`; with `padded` zeros may stand in front. -/
def decimal (limit : Nat) (padded : Bool) : Reads Nat := fun cs =>
  let digits := cs.takeWhile Char.isDigit
  if digits = [] ∨ (!padded ∧ digits.head? = some '0' ∧ 1 < digits.length)
      ∨ limit < Number.ofDigits digits then none
  else some (Number.ofDigits digits, cs.dropWhile Char.isDigit)

/-- One to four hexadecimal digits. -/
def word : Reads Nat := fun cs =>
  let digits := cs.takeWhile fun c => (hexValue? c).isSome
  if digits = [] ∨ 4 < digits.length then none
  else some (digits.foldl (fun n c => 16 * n + (hexValue? c).getD 0) 0, cs.drop digits.length)

/-- `count` bytes with points between them. -/
def dotted : Nat → Reads (List Nat)
  | 0, cs => some ([], cs)
  | 1, cs => (decimal 255 false cs).map fun (b, rest) => ([b], rest)
  | count + 1, cs => do
    let (b, rest) ← decimal 255 false cs
    let (_, rest) ← char '.' rest
    let (bs, rest) ← dotted count rest
    return (b :: bs, rest)

def v4 : Reads (List Nat) := dotted 4

/-- Words with colons between them, at most `room` of them, the last two perhaps in the form of
version 4, which the answer tells.  `first` says that no colon comes before the next word. -/
def words : Nat → Bool → List Char → (List Nat × Bool) × List Char
  | 0, _, cs => (([], false), cs)
  | room + 1, first, cs =>
    let start := if first then some ((), cs) else char ':' cs
    match start with
    | none => (([], false), cs)
    | some (_, rest) =>
      let tail := if 1 ≤ room then v4 rest else none
      match tail with
      | some ([a, b, c, d], rest) => (([256 * a + b, 256 * c + d], true), rest)
      | _ =>
        match word rest with
        | none => (([], false), cs)
        | some (w, rest) =>
          let ((ws, dots), rest) := words room false rest
          ((w :: ws, dots), rest)

def v6 : Reads (List Nat) := fun cs => do
  let ((head, dots), rest) := words 8 true cs
  if head.length = 8 then return (head, rest)
  if dots then none
  let (_, rest) ← char ':' rest
  let (_, rest) ← char ':' rest
  let ((tail, _), rest) := words (7 - head.length) true rest
  return (head ++ List.replicate (8 - head.length - tail.length) 0 ++ tail, rest)

def portAfterColon : Reads Nat := fun cs => do
  let (_, rest) ← char ':' cs
  decimal 65535 true rest

def zone : Reads Nat := fun cs =>
  match char '%' cs with
  | some (_, rest) => decimal 4294967295 true rest
  | none => some (0, cs)

def socketV6 : Reads SocketAddress := fun cs => do
  let (_, rest) ← char '[' cs
  let (ws, rest) ← v6 rest
  let (z, rest) ← zone rest
  let (_, rest) ← char ']' rest
  let (port, rest) ← portAfterColon rest
  return (⟨.v6 ws, z, port⟩, rest)

def socketV4 : Reads SocketAddress := fun cs => do
  let (bs, rest) ← v4 cs
  let (port, rest) ← portAfterColon rest
  return (⟨.v4 bs, 0, port⟩, rest)

def SocketAddress.ofText? (text : String) : Option SocketAddress :=
  match (socketV4 text.toList).or (socketV6 text.toList) with
  | some (a, []) => some a
  | _ => none

end EventIntake.Net
