import SealedPost.Number.Numeral
import SealedPost.Text.Quoted

/-!
# Whole numbers in text

A whole number is a sign, which may be missing, and decimal digits with single low lines between
them. More than 4300 digits are refused before anything after them is looked at.
-/

namespace SealedPost.Whole

inductive Fault where
  /-- The text is no whole number. -/
  | notNumeral (text : String)
  /-- There are more digits than are read. -/
  | tooLong (digits : Nat)
  deriving DecidableEq, Repr

/-- The most digits that are read. -/
def maxDigits : Nat := 4300

/-- The whole number that a text spells. -/
def read (s : String) : Except Fault Int :=
  let (negative, cs) := Numeral.splitSign (Numeral.characters s)
  let body := cs.takeWhile fun c => c.isDigit || c == '_'
  let digits := body.filter Char.isDigit
  if !Numeral.wellSeparated body then .error (.notNumeral s)
  else if maxDigits < digits.length then .error (.tooLong digits.length)
  else if digits.isEmpty || body.length != cs.length then .error (.notNumeral s)
  else .ok (if negative then -(Numeral.value digits : Int) else Numeral.value digits)

/-- What is wrong with a text; no more than 200 characters of it are shown, marks included. -/
def Fault.message : Fault → String
  | .notNumeral text => "invalid literal for int() with base 10: " ++
      String.ofList ((Quoted.quote text).toList.take 200)
  | .tooLong digits =>
      "Exceeds the limit (4300 digits) for integer string conversion: value has " ++ toString digits
        ++ " digits; use sys.set_int_max_str_digits() to increase the limit"

end SealedPost.Whole
