import EventIntake.Text.Canonical.Table

/-!
# The composed form of a text

Texts that differ only in whether a letter and its marks are one character or several have one
composed form: the characters are taken apart, the marks behind a letter are put in the order of
their classes, and what can be joined is joined from the front.
-/

namespace EventIntake.Text.Canonical

/-- The combining class, zero for a character that starts anew. -/
def combiningClass (c : Char) : Nat := ((classes.find? (·.1.any (·.holds c))).map (·.2)).getD 0

/-! ## Syllables of Hangul -/

def syllableBase : Nat := 0xAC00
def leadBase : Nat := 0x1100
def vowelBase : Nat := 0x1161
def tailBase : Nat := 0x11A7

def syllable? (c : Char) : Option (List Char) :=
  let i := c.toNat - syllableBase
  if syllableBase ≤ c.toNat ∧ i < 19 * 21 * 28 then
    let front := [Char.ofNat (leadBase + i / 588), Char.ofNat (vowelBase + i % 588 / 28)]
    some (if i % 28 = 0 then front else front ++ [Char.ofNat (tailBase + i % 28)])
  else none

def joinedSyllable? (a b : Char) : Option Char :=
  let lead := a.toNat - leadBase
  let vowel := b.toNat - vowelBase
  let i := a.toNat - syllableBase
  let tail := b.toNat - tailBase
  if leadBase ≤ a.toNat ∧ lead < 19 ∧ vowelBase ≤ b.toNat ∧ vowel < 21 then
    some (Char.ofNat (syllableBase + (lead * 21 + vowel) * 28))
  else if syllableBase ≤ a.toNat ∧ i < 19 * 21 * 28 ∧ i % 28 = 0 ∧ 0 < tail ∧ tail < 28 then
    some (Char.ofNat (a.toNat + tail))
  else none

/-! ## Taking apart -/

/-- Taking a character apart ends after so many steps. -/
def depth : Nat := 4

def parts (c : Char) : Nat → List Char
  | 0 => [c]
  | n + 1 =>
    match (Table.image? joined c).or (Table.image? severed c) with
    | some cs => cs.flatMap (parts · n)
    | none => [c]

def decomposition (c : Char) : List Char := (syllable? c).getD (parts c depth)

/-- Puts a character behind a reversed text, past the marks of greater class. -/
def insertMark (c : Char) : List Char → List Char
  | [] => [c]
  | d :: rest =>
    if 0 < combiningClass c ∧ combiningClass c < combiningClass d then d :: insertMark c rest
    else c :: d :: rest

def ordered (cs : List Char) : List Char := (cs.foldl (fun acc c => insertMark c acc) []).reverse

/-! ## Joining -/

def composite? (a b : Char) : Option Char :=
  (joinedSyllable? a b).or <|
    (joined.find? (·.image == [a.toNat, b.toNat])).map fun r => Char.ofNat r.span.first

/-- A text on its way: what is settled and the marks since the last letter, both latest first, and
that letter. -/
structure Joining where
  settled : List Char := []
  letter : Option Char := none
  marks : List Char := []

def Joining.push (j : Joining) (c : Char) : Joining :=
  match j.letter with
  | none =>
    if combiningClass c = 0 then { j with letter := c } else { j with settled := c :: j.settled }
  | some a =>
    let blocked := j.marks.head?.any fun m => combiningClass c ≤ combiningClass m
    match if blocked then none else composite? a c with
    | some b => { j with letter := b }
    | none =>
      if combiningClass c = 0 then ⟨j.marks ++ a :: j.settled, c, []⟩
      else { j with marks := c :: j.marks }

def Joining.toList (j : Joining) : List Char := (j.marks ++ j.letter.toList ++ j.settled).reverse

def composed (cs : List Char) : List Char :=
  ((ordered (cs.flatMap decomposition)).foldl Joining.push {}).toList

end EventIntake.Text.Canonical
