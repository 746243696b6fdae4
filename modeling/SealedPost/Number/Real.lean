import SealedPost.Number.Numeral
import SealedPost.Number.Shortest
import SealedPost.Text.Quoted

/-!
# Real numbers in text

A double is written with the fewest digits that read back, positionally where its point stands
within sixteen places of the digits' start or no more than three zeros before them, with an
exponent otherwise. Reading takes the same forms, with any number of digits, and rounds to the
nearest double.
-/

namespace SealedPost.Real

/-! ### Writing -/

def zeros (n : Nat) : String := String.ofList (List.replicate n '0')

/-- A decimal with a point; a whole number keeps one place. -/
def positional (digits : String) (point : Int) : String :=
  if point ≤ 0 then "0." ++ zeros (-point).toNat ++ digits
  else if digits.length ≤ point.toNat then digits ++ zeros (point.toNat - digits.length) ++ ".0"
  else
    String.ofList (digits.toList.take point.toNat) ++ "." ++
      String.ofList (digits.toList.drop point.toNat)

/-- A decimal with an exponent of at least two digits. -/
def scientific (digits : String) (exponent : Int) : String :=
  let tail := String.ofList (digits.toList.drop 1)
  let size := toString exponent.natAbs
  String.ofList (digits.toList.take 1) ++ (if tail.isEmpty then "" else "." ++ tail) ++ "e" ++
    (if exponent < 0 then "-" else "+") ++ zeros (2 - size.length) ++ size

/-- The text of a positive decimal. -/
def writeDecimal (d : Shortest.Decimal) : String :=
  let digits := toString d.digits
  let point := digits.length + d.exponent
  if -4 < point && point ≤ 16 then positional digits point else scientific digits (point - 1)

/-- The text of a double. -/
def write (x : Float) : String :=
  match Binary64.decode x with
  | .notANumber        => "nan"
  | .infinite negative => if negative then "-inf" else "inf"
  | .finite negative m q =>
    (if negative then "-" else "") ++
      if m = 0 then "0.0" else writeDecimal (Shortest.ofDouble m q)

/-! ### Reading -/

/-- The double nearest to `digits * 10 ^ exponent`. -/
def nearestDecimal (negative : Bool) (digits : Nat) (exponent : Int) : Float :=
  let magnitude := (toString digits).length + exponent
  if digits = 0 || magnitude < -400 then Binary64.nearest negative 0 1
  else if 400 < magnitude then Binary64.infinity negative
  else Binary64.nearest negative (digits * Nat.pow 10 exponent.toNat) (Nat.pow 10 (-exponent).toNat)

/-- The exponent that the end of a numeral spells; none if it spells none. -/
def readExponent : List Char → Option Int
  | [] => some 0
  | mark :: cs =>
    let (negative, digits) := Numeral.splitSign cs
    if (mark == 'e' || mark == 'E') && !digits.isEmpty && digits.all Char.isDigit then
      some (if negative then -(Numeral.value digits : Int) else Numeral.value digits)
    else none

/-- The double that an unsigned decimal spells. -/
def readDecimal (negative : Bool) (cs : List Char) : Option Float :=
  let whole := cs.takeWhile Char.isDigit
  let rest := cs.dropWhile Char.isDigit
  let (places, rest) := match rest with
    | '.' :: rest => (rest.takeWhile Char.isDigit, rest.dropWhile Char.isDigit)
    | rest        => ([], rest)
  if whole.isEmpty && places.isEmpty then none
  else
    (readExponent rest).map fun exponent =>
      nearestDecimal negative (Numeral.value (whole ++ places)) (exponent - places.length)

/-- The double that a text spells; none if it spells no number. -/
def read (s : String) : Option Float :=
  let cs := Numeral.characters s
  if !Numeral.wellSeparated cs then none
  else
    let (negative, body) := Numeral.splitSign (cs.filter (· != '_'))
    let word := String.ofList (body.map Char.toLower)
    if word == "inf" || word == "infinity" then some (Binary64.infinity negative)
    else if word == "nan" then some (0.0 / 0.0)
    else readDecimal negative body

end SealedPost.Real
