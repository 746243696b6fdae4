import SealedPost.Text.Characters
import SealedPost.Text.Hex

/-!
# Quoted text

A text is quoted for a message between apostrophes, or between quotation marks when it holds an
apostrophe and no quotation mark. The mark and the backslash are written after a backslash, three
control characters by a letter, and other characters that are not printable by their number.
-/

namespace SealedPost.Quoted

/-- The last `width` hexadecimal digits of a number. -/
def digits (width n : Nat) : List Char :=
  (List.range width).reverse.map fun place => Hex.digit ((n >>> (4 * place)) % 16)

/-- A character by its number, in the shortest of three widths. -/
def numbered (c : Char) : List Char :=
  let n := c.toNat
  if n < 0x100 then '\\' :: 'x' :: digits 2 n
  else if n < 0x10000 then '\\' :: 'u' :: digits 4 n
  else '\\' :: 'U' :: digits 8 n

/-- A character of a text between two marks. -/
def escape (mark c : Char) : List Char :=
  if c == mark || c == '\\' then ['\\', c]
  else if c == '\n' then ['\\', 'n']
  else if c == '\r' then ['\\', 'r']
  else if c == '\t' then ['\\', 't']
  else if isPrintable c then [c]
  else numbered c

/-- The mark that a text is quoted with. -/
def markFor (s : String) : Char :=
  if s.toList.contains '\'' && !s.toList.contains '"' then '"' else '\''

/-- A text between marks. -/
def quote (s : String) : String :=
  let mark := markFor s
  String.ofList (mark :: s.toList.flatMap (escape mark) ++ [mark])

end SealedPost.Quoted
