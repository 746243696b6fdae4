import SealedPost.Text.Characters
import SealedPost.Text.Hex

/-!
# Numerals of any script

A numeral may be written with the decimal digits of any script, with blanks around it and with
single low lines between its digits. Here it is brought to ASCII; a character that no numeral can
hold becomes a question mark.
-/

namespace SealedPost.Numeral

/-- A character of a numeral in ASCII. Characters of ASCII stay as they are. -/
def standard (c : Char) : Char :=
  if c.toNat < 0x80 then c
  else if isBlank c then ' '
  else
    match DecimalDigit.value? c with
    | some n => Nat.digitChar n
    | none   => '?'

/-- The characters of a numeral in ASCII, without the blanks around them. -/
def characters (s : String) : List Char := trimBoth Hex.isBlank (s.toList.map standard)

/-- The number that ASCII digits spell. -/
def value (digits : List Char) : Nat :=
  digits.foldl (fun n c => 10 * n + (c.toNat - '0'.toNat)) 0

/-- Has every low line a digit before it and a digit after it? -/
def wellSeparated (cs : List Char) : Bool :=
  cs.head? != some '_' && cs.getLast? != some '_' &&
    (cs.zip cs.tail).all fun (a, b) => (a != '_' || b.isDigit) && (b != '_' || a.isDigit)

/-- A sign and what follows it; true for a minus. -/
def splitSign : List Char → Bool × List Char
  | '-' :: cs => (true, cs)
  | '+' :: cs => (false, cs)
  | cs        => (false, cs)

end SealedPost.Numeral
