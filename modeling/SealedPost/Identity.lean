import SealedPost.Failure

/-!
# Identities

An identity is a text of eight capital letters and digits; that of a gateway may begin with a star.
Whatever takes an identity from outside lets it through one check first.
-/

namespace SealedPost.Identity

/-- A capital letter or a digit, of ASCII. -/
def isMark (c : Char) : Bool := c.isUpper || c.isDigit

/-- Is the text a mark or a star and then seven marks? One line feed after them is let through. -/
def isWellFormed (s : String) : Bool :=
  match s.toList with
  | first :: rest =>
    (isMark first || first == '*') && (rest.take 7).length == 7 && (rest.take 7).all isMark &&
      (rest.drop 7 == [] || rest.drop 7 == ['\n'])
  | [] => false

/-- The identity that a candidate is, unchanged. -/
def validate : Candidate → Except Failure String
  | .text s => if isWellFormed s then .ok s else .error (.invalidIdentity (.text s))
  | other   => .error (.invalidIdentity other)

end SealedPost.Identity
