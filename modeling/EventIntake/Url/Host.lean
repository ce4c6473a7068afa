import EventIntake.Url.Basic
import EventIntake.Url.Domain
import EventIntake.Url.Encoding

/-!
# Hosts

Under a special scheme a host is an address of version 6 in brackets, an address of version 4 if
the last of its parts is a number, or a domain name.  Under any other scheme it is an address in
brackets or an opaque text.
-/

namespace EventIntake.Url

/-! ## Version 4 -/

def valueIn (base : Nat) (cs : List Char) : Nat :=
  cs.foldl (fun n c => base * n + (Net.hexValue? c).getD 0) 0

def allBelow (base : Nat) (cs : List Char) : Bool :=
  cs.all fun c => match Net.hexValue? c with | some d => d < base | none => false

/-- A part of an address: hexadecimal after `0x`, octal after another zero, else decimal. -/
def v4Number? (cs : List Char) : Option Nat :=
  let read (base : Nat) (digits : List Char) : Option Nat :=
    if allBelow base digits then some (valueIn base digits) else none
  match cs with
  | [] => none
  | '0' :: 'x' :: rest | '0' :: 'X' :: rest => read 16 rest
  | '0' :: c :: rest => read 8 (c :: rest)
  | _ => read 10 cs

def endsInNumber (cs : List Char) : Bool :=
  let isNumber (p : List Char) : Bool :=
    (!p.isEmpty && p.all Char.isDigit) || (v4Number? p).isSome
  match (Domain.labels cs).reverse with
  | [] :: p :: _ => isNumber p
  | p :: _ => isNumber p
  | [] => false

def v4Address? (cs : List Char) : Option Net.Address := do
  let ps := Domain.labels cs
  let ps := if ps.getLast? = some [] then ps.dropLast else ps
  if 4 < ps.length then none
  let numbers ← ps.mapM v4Number?
  let last ← numbers.getLast?
  let front := numbers.dropLast
  if front.any (255 < ·) ∨ 1 <<< (8 * (4 - front.length)) ≤ last then none
  let tail := (List.range (4 - front.length)).map fun i =>
    last >>> (8 * (3 - front.length - i)) % 256
  return .v4 (front ++ tail)

/-! ## Version 6 -/

/-- The bytes of the dotted part at the end of an address. -/
def trailingBytes? (cs : List Char) : Option (List Nat) :=
  match Net.v4 cs with
  | some (bytes, []) => some bytes
  | _ => none

/-- The words of an address, with what has been read and where words are left out. -/
def v6Words (fuel : Nat) (read : List Nat) (gap : Option Nat) (cs : List Char) :
    Option (List Nat × Option Nat) :=
  match fuel, cs with
  | _, [] => some (read, gap)
  | 0, _ => none
  | fuel + 1, ':' :: rest =>
    if read.length = 8 ∨ gap.isSome then none
    else v6Words fuel read (some read.length) rest
  | fuel + 1, cs =>
    if read.length = 8 then none
    else
      let digits := (cs.take 4).takeWhile fun c => (Net.hexValue? c).isSome
      let rest := cs.drop digits.length
      let read' := read ++ [valueIn 16 digits]
      match rest with
      | [] => some (read', gap)
      | '.' :: _ =>
        if digits = [] ∨ 6 < read.length then none
        else
          match trailingBytes? cs with
          | some [a, b, c, d] => some (read ++ [256 * a + b, 256 * c + d], gap)
          | _ => none
      | ':' :: rest => if rest = [] then none else v6Words fuel read' gap rest
      | _ => none

def v6Address? (cs : List Char) : Option Net.Address := do
  let (words, gap) ←
    match cs with
    | ':' :: ':' :: rest => v6Words (rest.length + 1) [] (some 0) rest
    | ':' :: _ => none
    | [_] | [] => none
    | _ => v6Words (cs.length + 1) [] none cs
  match gap with
  | none => if words.length = 8 then return .v6 words else none
  | some i =>
    if 8 ≤ words.length then none
    else return .v6 (words.take i ++ List.replicate (8 - words.length) 0 ++ words.drop i)

/-! ## Hosts -/

/-- The address in brackets. -/
def bracketed (cs : List Char) : Except ParseError Host :=
  if cs.getLast? = some ']' then
    match v6Address? (cs.drop 1).dropLast with
    | some a => .ok (.address a)
    | none => .error .invalidIpv6Address
  else .error .invalidIpv6Address

def Host.ofSpecial (cs : List Char) : Except ParseError Host :=
  if cs.head? = some '[' then bracketed cs
  else
    match Domain.toAscii (decoded (String.ofList cs).toUTF8.toList) with
    | none => .error .idna
    | some [] => .error .emptyHost
    | some name =>
      if endsInNumber name then
        match v4Address? name with
        | some a => .ok (.address a)
        | none => .error .invalidIpv4Address
      else .ok (.domain (String.ofList name))

/-- Characters that no opaque host has. -/
def hostForbidden : List Char :=
  ['\x00', '\t', '\n', '\r', ' ', '#', '/', ':', '<', '>', '?', '@', '[', '\\', ']', '^', '|']

def Host.ofOpaque (cs : List Char) : Except ParseError Host :=
  if cs.head? = some '[' then bracketed cs
  else if cs.any (· ∈ hostForbidden) then .error .invalidDomainCharacter
  else .ok (.domain (String.ofList (encode [] cs)))

end EventIntake.Url
