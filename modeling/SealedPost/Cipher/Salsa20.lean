import SealedPost.Bytes

/-!
# The Salsa20 stream

The core permutes a square of sixteen words: a round works on the rows, then the square is
transposed. `block` adds the permuted square to the one it came from. `derive` keeps two diagonals
of the permuted square alone and gives a new key. The keystream of a 24-octet nonce runs under the
key derived from its first sixteen octets, with the other eight as the nonce of the blocks.
-/

namespace SealedPost.Salsa20

/-! ### Words, rows, squares -/

/-- Rotates a word to the left. -/
def rotate (x count : UInt32) : UInt32 := (x <<< count) ||| (x >>> (32 - count))

structure Row where
  a : UInt32
  b : UInt32
  c : UInt32
  d : UInt32
  deriving DecidableEq

structure Square where
  r0 : Row
  r1 : Row
  r2 : Row
  r3 : Row
  deriving DecidableEq

/-- Mixes the four words of a row, beginning after its first word. -/
def Row.mix (y : Row) : Row :=
  let b := y.b ^^^ rotate (y.a + y.d) 7
  let c := y.c ^^^ rotate (b + y.a) 9
  let d := y.d ^^^ rotate (c + b) 13
  let a := y.a ^^^ rotate (d + c) 18
  ⟨a, b, c, d⟩

/-- Shifts a row by one word to the left. -/
def Row.shift (y : Row) : Row := ⟨y.b, y.c, y.d, y.a⟩

def Row.add (x y : Row) : Row := ⟨x.a + y.a, x.b + y.b, x.c + y.c, x.d + y.d⟩

def Row.words (y : Row) : List UInt32 := [y.a, y.b, y.c, y.d]

namespace Square

def transpose (s : Square) : Square :=
  ⟨⟨s.r0.a, s.r1.a, s.r2.a, s.r3.a⟩, ⟨s.r0.b, s.r1.b, s.r2.b, s.r3.b⟩,
   ⟨s.r0.c, s.r1.c, s.r2.c, s.r3.c⟩, ⟨s.r0.d, s.r1.d, s.r2.d, s.r3.d⟩⟩

/-- Mixes every row, each beginning at its word on the diagonal. -/
def mixRows (s : Square) : Square :=
  ⟨s.r0.mix,
   s.r1.shift.mix.shift.shift.shift,
   s.r2.shift.shift.mix.shift.shift,
   s.r3.shift.shift.shift.mix.shift⟩

/-- A round on the columns and a round on the rows. -/
def doubleRound (s : Square) : Square := s.transpose.mixRows.transpose.mixRows

/-- Twenty rounds. -/
def permute (s : Square) : Square := Nat.repeat doubleRound 10 s

def add (s t : Square) : Square := ⟨s.r0.add t.r0, s.r1.add t.r1, s.r2.add t.r2, s.r3.add t.r3⟩

def words (s : Square) : List UInt32 := s.r0.words ++ s.r1.words ++ s.r2.words ++ s.r3.words

end Square

/-! ### Keys and inputs -/

/-- The word at a place of an octet string, low octet first. -/
def wordAt (bs : Bytes) (i : Nat) : UInt32 :=
  UInt32.ofNat (Bytes.toNatLE ((bs.drop (4 * i)).take 4))

def octets (ws : List UInt32) : Bytes := ws.flatMap fun w => Bytes.ofNatLE 4 w.toNat

/-- The square of a 32-octet key and a 16-octet input; the diagonal is fixed. -/
def start (key input : Bytes) : Square :=
  ⟨⟨0x61707865,   wordAt key 0,   wordAt key 1,   wordAt key 2⟩,
   ⟨wordAt key 3, 0x3320646e,     wordAt input 0, wordAt input 1⟩,
   ⟨wordAt input 2, wordAt input 3, 0x79622d32,   wordAt key 4⟩,
   ⟨wordAt key 5, wordAt key 6,   wordAt key 7,   0x6b206574⟩⟩

/-- One block of 64 octets of keystream. -/
def block (key input : Bytes) : Bytes :=
  let s := start key input
  octets (s.permute.add s).words

/-- The 32-octet key derived from a key and a 16-octet input. -/
def derive (key input : Bytes) : Bytes :=
  let s := (start key input).permute
  octets [s.r0.a, s.r1.b, s.r2.c, s.r3.d, s.r1.c, s.r1.d, s.r2.a, s.r2.b]

/-- Keystream of a given length under a 32-octet key and a 24-octet nonce. -/
def keystream (key nonce : Bytes) (length : Nat) : Bytes :=
  let subkey := derive key (nonce.take 16)
  ((List.range (length / 64 + 1)).flatMap fun i =>
    block subkey (nonce.drop 16 ++ Bytes.ofNatLE 8 i)).take length

@[simp] theorem length_octets (ws : List UInt32) : (octets ws).length = 4 * ws.length := by
  induction ws with
  | nil => rfl
  | cons w ws ih => simp_all [octets]; omega

@[simp] theorem length_block (key input : Bytes) : (block key input).length = 64 := by
  simp [block, Square.words, Row.words]

@[simp] theorem length_keystream (key nonce : Bytes) (length : Nat) :
    (keystream key nonce length).length = length := by
  have h : ∀ n : Nat, ((List.range n).flatMap fun i =>
      block (derive key (nonce.take 16)) (nonce.drop 16 ++ Bytes.ofNatLE 8 i)).length = 64 * n := by
    intro n
    induction n with
    | zero => rfl
    | succ n ih => simp [List.range_succ, ih]; omega
  simp only [keystream, List.length_take, h]
  omega

end SealedPost.Salsa20
