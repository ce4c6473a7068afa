/-!
# Punycode

A text beyond ASCII in letters, digits and hyphens: its ASCII characters, a hyphen, and then the
other characters in ascending order.  Each is a number, the places passed over since the one before
it when the whole text is walked once for every code point.  The digits of a number come lowest
first, in base 36, and a digit below the threshold of its place ends the number.  The thresholds
follow a bias that adapts to the numbers so far.
-/

namespace EventIntake.Url.Domain.Punycode

/-- The threshold of the place `k`, counted in steps of 36. -/
def threshold (k bias : Nat) : Nat :=
  if k ≤ bias then 1 else if bias + 26 ≤ k then 26 else k - bias

theorem threshold_pos (k bias : Nat) : 1 ≤ threshold k bias := by
  unfold threshold
  split
  · omega
  · split <;> omega

def settled (delta k : Nat) : Nat :=
  if 455 < delta then settled (delta / 35) (k + 36) else k + 36 * delta / (delta + 38)
termination_by delta
decreasing_by exact Nat.div_lt_self (by omega) (by omega)

/-- The bias after a number `delta` that made a text of `count` characters. -/
def adapted (delta count : Nat) (atFirst : Bool) : Nat :=
  let scaled := if atFirst then delta / 700 else delta / 2
  settled (scaled + scaled / count) 0

/-! ## Writing -/

def digitChar (d : Nat) : Char :=
  if d < 26 then Char.ofNat (0x61 + d) else Char.ofNat (0x30 + (d - 26))

def digits (bias k q : Nat) : List Char :=
  let t := threshold k bias
  if q < t then [digitChar q]
  else digitChar (t + (q - t) % (36 - t)) :: digits bias (k + 36) ((q - t) / (36 - t))
termination_by q
decreasing_by
  have := threshold_pos k bias
  have := Nat.div_le_self (q - threshold k bias) (36 - threshold k bias)
  omega

/-- What has been written, the places passed over since, and how many characters it stands for. -/
structure Writing where
  written : List Char
  passed : Nat
  bias : Nat
  count : Nat

/-- One place of the text while the code point `n` is being written. -/
def Writing.place (basic n : Nat) (w : Writing) (c : Char) : Writing :=
  if c.toNat < n then { w with passed := w.passed + 1 }
  else if c.toNat = n then
    { written := w.written ++ digits w.bias 36 w.passed, passed := 0
      bias := adapted w.passed (w.count + 1) (w.count = basic), count := w.count + 1 }
  else w

/-- The code points `ns` in ascending order, after all below `low` have been written. -/
def Writing.points (cs : List Char) (basic : Nat) (w : Writing) (low : Nat) : List Nat → Writing
  | [] => w
  | n :: ns =>
    let reached := { w with passed := w.passed + (n - low) * (w.count + 1) }
    let walked := cs.foldl (Writing.place basic n) reached
    Writing.points cs basic { walked with passed := walked.passed + 1 } (n + 1) ns

def encode (cs : List Char) : List Char :=
  let basic := cs.filter (·.toNat < 0x80)
  let others := (cs.map Char.toNat).filter (0x80 ≤ ·)
  let points := (others.mergeSort (· ≤ ·)).eraseReps
  let w := Writing.points cs basic.length ⟨[], 0, 72, basic.length⟩ 0x80 points
  (if basic = [] then [] else basic ++ ['-']) ++ w.written

/-! ## Reading -/

def digitValue? (c : Char) : Option Nat :=
  if 'a' ≤ c ∧ c ≤ 'z' then some (c.toNat - 0x61)
  else if 'A' ≤ c ∧ c ≤ 'Z' then some (c.toNat - 0x41)
  else if '0' ≤ c ∧ c ≤ '9' then some (c.toNat - 0x30 + 26)
  else none

/-- Numbers are read up to this bound. -/
def bound : Nat := 0x100000000

/-- The text so far, its last code point and place, and the number that is being read: its value,
the weight of its next digit and that digit's place. -/
structure Reading where
  text : List Char
  point : Nat := 0x80
  place : Nat := 0
  bias : Nat := 72
  atFirst : Bool := true
  value : Nat := 0
  weight : Nat := 1
  k : Nat := 36

/-- A number ends: its character goes to its place. -/
def Reading.insert (r : Reading) (value : Nat) : Option Reading :=
  let count := r.text.length + 1
  let reached := r.place + value
  let point := r.point + reached / count
  let place := reached % count
  if point.isValidChar then
    some
      { text := r.text.take place ++ Char.ofNat point :: r.text.drop place
        point, place := place + 1, bias := adapted value count r.atFirst, atFirst := false }
  else none

def Reading.digit (r : Reading) (c : Char) : Option Reading := do
  let d ← digitValue? c
  let value := r.value + d * r.weight
  if bound ≤ r.place + value then none
  let t := threshold r.k r.bias
  if d < t then r.insert value
  else
    let weight := r.weight * (36 - t)
    if bound ≤ weight then none
    return { r with value, weight, k := r.k + 36 }

/-- The ASCII characters before the last hyphen, and the digits behind it. -/
def halves (cs : List Char) : List Char × List Char :=
  let behind := (cs.reverse.takeWhile (· ≠ '-')).reverse
  let front := cs.take (cs.length - behind.length)
  if front.length ≤ 1 then ([], cs) else (front.dropLast, behind)

def decode? (cs : List Char) : Option (List Char) := do
  let (basic, code) := halves cs
  let r ← code.foldlM Reading.digit { text := basic }
  if r.k = 36 then return r.text else none

end EventIntake.Url.Domain.Punycode
