/-!
# SHA-256

The digest of a sequence of bytes: the bytes are padded to blocks of sixty-four, and each block is
mixed into a state of eight words in sixty-four rounds.
-/

namespace EventIntake.Sha256

def roundConstants : Array UInt32 := #[
  0x428a2f98, 0x71374491, 0xb5c0fbcf, 0xe9b5dba5, 0x3956c25b, 0x59f111f1, 0x923f82a4, 0xab1c5ed5,
  0xd807aa98, 0x12835b01, 0x243185be, 0x550c7dc3, 0x72be5d74, 0x80deb1fe, 0x9bdc06a7, 0xc19bf174,
  0xe49b69c1, 0xefbe4786, 0x0fc19dc6, 0x240ca1cc, 0x2de92c6f, 0x4a7484aa, 0x5cb0a9dc, 0x76f988da,
  0x983e5152, 0xa831c66d, 0xb00327c8, 0xbf597fc7, 0xc6e00bf3, 0xd5a79147, 0x06ca6351, 0x14292967,
  0x27b70a85, 0x2e1b2138, 0x4d2c6dfc, 0x53380d13, 0x650a7354, 0x766a0abb, 0x81c2c92e, 0x92722c85,
  0xa2bfe8a1, 0xa81a664b, 0xc24b8b70, 0xc76c51a3, 0xd192e819, 0xd6990624, 0xf40e3585, 0x106aa070,
  0x19a4c116, 0x1e376c08, 0x2748774c, 0x34b0bcb5, 0x391c0cb3, 0x4ed8aa4a, 0x5b9cca4f, 0x682e6ff3,
  0x748f82ee, 0x78a5636f, 0x84c87814, 0x8cc70208, 0x90befffa, 0xa4506ceb, 0xbef9a3f7, 0xc67178f2]

structure State where
  a : UInt32
  b : UInt32
  c : UInt32
  d : UInt32
  e : UInt32
  f : UInt32
  g : UInt32
  h : UInt32

def State.initial : State :=
  ⟨0x6a09e667, 0xbb67ae85, 0x3c6ef372, 0xa54ff53a, 0x510e527f, 0x9b05688c, 0x1f83d9ab, 0x5be0cd19⟩

def State.add (s t : State) : State :=
  ⟨s.a + t.a, s.b + t.b, s.c + t.c, s.d + t.d, s.e + t.e, s.f + t.f, s.g + t.g, s.h + t.h⟩

def rotate (x : UInt32) (n : UInt32) : UInt32 := (x >>> n) ||| (x <<< (32 - n))

/-- The bytes of a word of `width` bytes, the highest first. -/
def wordBytes (width : Nat) (n : Nat) : List UInt8 :=
  (List.range width).map fun i => UInt8.ofNat (n >>> (8 * (width - 1 - i)))

/-- The bytes, a bit that is set, zeros, and the number of bits in eight bytes. -/
def pad (bytes : ByteArray) : ByteArray :=
  let zeros := (119 - bytes.size % 64) % 64
  let tail := (0x80 :: List.replicate zeros 0) ++ wordBytes 8 (8 * bytes.size)
  tail.foldl ByteArray.push bytes

/-- The word of four bytes at an index. -/
def word (bytes : ByteArray) (i : Nat) : UInt32 :=
  (List.range 4).foldl (fun w j => (w <<< 8) ||| (bytes[i + j]?.getD 0).toUInt32) 0

/-- The sixty-four words that a block is stretched to. -/
def schedule (bytes : ByteArray) (start : Nat) : Array UInt32 :=
  let first := (Array.range 16).map fun i => word bytes (start + 4 * i)
  (List.range 48).foldl (fun ws i =>
    let entry (n : Nat) : UInt32 := ws[n]?.getD 0
    let x := entry (i + 1)
    let y := entry (i + 14)
    let s0 := rotate x 7 ^^^ rotate x 18 ^^^ (x >>> 3)
    let s1 := rotate y 17 ^^^ rotate y 19 ^^^ (y >>> 10)
    ws.push (entry i + s0 + entry (i + 9) + s1)) first

def round (s : State) (constant word : UInt32) : State :=
  let s1 := rotate s.e 6 ^^^ rotate s.e 11 ^^^ rotate s.e 25
  let choice := (s.e &&& s.f) ^^^ ((~~~s.e) &&& s.g)
  let t1 := s.h + s1 + choice + constant + word
  let s0 := rotate s.a 2 ^^^ rotate s.a 13 ^^^ rotate s.a 22
  let majority := (s.a &&& s.b) ^^^ (s.a &&& s.c) ^^^ (s.b &&& s.c)
  ⟨t1 + (s0 + majority), s.a, s.b, s.c, s.d + t1, s.e, s.f, s.g⟩

/-- Mix the block at an index into the state. -/
def mix (bytes : ByteArray) (s : State) (start : Nat) : State :=
  let ws := schedule bytes start
  s.add ((List.range 64).foldl (fun t i =>
    round t (roundConstants[i]?.getD 0) (ws[i]?.getD 0)) s)

/-- The thirty-two bytes of the digest. -/
def digest (bytes : ByteArray) : List UInt8 :=
  let padded := pad bytes
  let s := (List.range (padded.size / 64)).foldl (fun s i => mix padded s (64 * i)) .initial
  [s.a, s.b, s.c, s.d, s.e, s.f, s.g, s.h].flatMap fun w => wordBytes 4 w.toNat

end EventIntake.Sha256
