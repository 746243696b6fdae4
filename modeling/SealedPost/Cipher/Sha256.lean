import SealedPost.Bytes

/-!
# SHA-256 and the keys derived with it

The hash of an octet string, the keyed hash of a key and a text, and the 32-octet key drawn out of
a secret by extraction under a salt and one step of expansion under a label.
-/

namespace SealedPost.Sha256

/-- The round constants. -/
def constants : List UInt32 :=
  [0x428a2f98, 0x71374491, 0xb5c0fbcf, 0xe9b5dba5, 0x3956c25b, 0x59f111f1, 0x923f82a4, 0xab1c5ed5,
   0xd807aa98, 0x12835b01, 0x243185be, 0x550c7dc3, 0x72be5d74, 0x80deb1fe, 0x9bdc06a7, 0xc19bf174,
   0xe49b69c1, 0xefbe4786, 0x0fc19dc6, 0x240ca1cc, 0x2de92c6f, 0x4a7484aa, 0x5cb0a9dc, 0x76f988da,
   0x983e5152, 0xa831c66d, 0xb00327c8, 0xbf597fc7, 0xc6e00bf3, 0xd5a79147, 0x06ca6351, 0x14292967,
   0x27b70a85, 0x2e1b2138, 0x4d2c6dfc, 0x53380d13, 0x650a7354, 0x766a0abb, 0x81c2c92e, 0x92722c85,
   0xa2bfe8a1, 0xa81a664b, 0xc24b8b70, 0xc76c51a3, 0xd192e819, 0xd6990624, 0xf40e3585, 0x106aa070,
   0x19a4c116, 0x1e376c08, 0x2748774c, 0x34b0bcb5, 0x391c0cb3, 0x4ed8aa4a, 0x5b9cca4f, 0x682e6ff3,
   0x748f82ee, 0x78a5636f, 0x84c87814, 0x8cc70208, 0x90befffa, 0xa4506ceb, 0xbef9a3f7, 0xc67178f2]

/-- The eight working words. -/
structure Words where
  a : UInt32
  b : UInt32
  c : UInt32
  d : UInt32
  e : UInt32
  f : UInt32
  g : UInt32
  h : UInt32
  deriving DecidableEq

def initial : Words :=
  ⟨0x6a09e667, 0xbb67ae85, 0x3c6ef372, 0xa54ff53a, 0x510e527f, 0x9b05688c, 0x1f83d9ab, 0x5be0cd19⟩

/-- Rotates a word to the right. -/
def rotate (x count : UInt32) : UInt32 := (x >>> count) ||| (x <<< (32 - count))

/-- The next word of the schedule, from the words so far, latest first. -/
def nextWord (latest : List UInt32) : UInt32 :=
  let x := latest.getD 1 0
  let y := latest.getD 14 0
  let s1 := rotate x 17 ^^^ rotate x 19 ^^^ (x >>> 10)
  let s0 := rotate y 7 ^^^ rotate y 18 ^^^ (y >>> 3)
  s1 + latest.getD 6 0 + s0 + latest.getD 15 0

/-- The 64 words that a 64-octet piece is spread to. -/
def schedule (piece : Bytes) : List UInt32 :=
  let first := (Bytes.blocks 4 piece).map fun w => UInt32.ofNat (Bytes.toNatBE w)
  (Nat.repeat (fun latest => nextWord latest :: latest) 48 first.reverse).reverse

def round (s : Words) (k w : UInt32) : Words :=
  let s1 := rotate s.e 6 ^^^ rotate s.e 11 ^^^ rotate s.e 25
  let choice := (s.e &&& s.f) ^^^ ((~~~ s.e) &&& s.g)
  let t1 := s.h + s1 + choice + k + w
  let s0 := rotate s.a 2 ^^^ rotate s.a 13 ^^^ rotate s.a 22
  let majority := (s.a &&& s.b) ^^^ (s.a &&& s.c) ^^^ (s.b &&& s.c)
  ⟨t1 + (s0 + majority), s.a, s.b, s.c, s.d + t1, s.e, s.f, s.g⟩

/-- Takes in one 64-octet piece. -/
def absorb (s : Words) (piece : Bytes) : Words :=
  let t := (constants.zip (schedule piece)).foldl (fun t kw => round t kw.1 kw.2) s
  ⟨s.a + t.a, s.b + t.b, s.c + t.c, s.d + t.d, s.e + t.e, s.f + t.f, s.g + t.g, s.h + t.h⟩

/-- A text with its length written at the end of its last piece. -/
def padded (text : Bytes) : Bytes :=
  text ++ 0x80 :: List.replicate ((119 - text.length % 64) % 64) 0
    ++ Bytes.ofNatBE 8 (8 * text.length)

/-- The 32-octet hash of a text. -/
def hash (text : Bytes) : Bytes :=
  let s := (Bytes.blocks 64 (padded text)).foldl absorb initial
  [s.a, s.b, s.c, s.d, s.e, s.f, s.g, s.h].flatMap fun w => Bytes.ofNatBE 4 w.toNat

/-- The 32-octet hash of a text under a key. -/
def keyedHash (key text : Bytes) : Bytes :=
  let short := if key.length > 64 then hash key else key
  let full := short ++ List.replicate (64 - short.length) 0
  hash (full.map (· ^^^ 0x5c) ++ hash (full.map (· ^^^ 0x36) ++ text))

/-- The 32-octet key drawn out of a secret under a salt and a label. -/
def deriveKey (salt label secret : Bytes) : Bytes :=
  keyedHash (keyedHash salt secret) (label ++ [1])

@[simp] theorem length_hash (text : Bytes) : (hash text).length = 32 := by
  simp [hash]

@[simp] theorem length_keyedHash (key text : Bytes) : (keyedHash key text).length = 32 := by
  simp [keyedHash]

@[simp] theorem length_deriveKey (salt label secret : Bytes) :
    (deriveKey salt label secret).length = 32 := by
  simp [deriveKey]

end SealedPost.Sha256
