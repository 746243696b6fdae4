import SealedPost.Action
import SealedPost.Number.Quantity

/-!
# Sessions

A session answers requests. A request is what is asked for, with its query, its form and at most
one file; how these are written on the wire is the session's affair.
-/

namespace SealedPost

inductive Method where
  | get
  | post
  deriving DecidableEq, Repr

def Method.name : Method → String
  | .get  => "GET"
  | .post => "POST"

/-- Names with their values. -/
abbrev Form := List (String × String)

/-- Gives a name a value, in the place of the one it had. -/
def Form.set (name value : String) : Form → Form
  | []          => [(name, value)]
  | (n, v) :: f => if n = name then (n, value) :: f else (n, v) :: Form.set name value f

/-- Gives all names of the second form their values there. -/
def Form.update (f g : Form) : Form := g.foldl (fun f nv => f.set nv.1 nv.2) f

/-- A file in a request. -/
structure FilePart where
  name : String
  content : Bytes
  mimeType : String
  deriving DecidableEq

structure Request where
  method : Method
  url : String
  timeout : Option Quantity
  query : Option Form
  form : Option Form
  headers : Option Form
  file : Option FilePart

/-- An answer; its content may be missing. -/
structure Response where
  status : Int
  text : String
  content : Option Bytes

/-- What answers requests, in a world. -/
structure Session (ω : Type) where
  request : Request → Action ω Response

namespace Session

variable {ω ρ ν : Type}

/-- The session with a record of its requests. -/
def recorded (s : Session ω) : Session (ω × List Request) :=
  ⟨fun r => Action.noting r (s.request r)⟩

def onFirst (s : Session ρ) : Session (ρ × ν) := ⟨fun r => (s.request r).onFirst⟩

def onSecond (s : Session ν) : Session (ρ × ν) := ⟨fun r => (s.request r).onSecond⟩

/-- The session whose answers are known beforehand. -/
def scripted : Session (List (Except Failure Response)) :=
  ⟨fun _ answers => match answers with
    | []                 => .error (.reported .runtime "no scripted response") []
    | .ok r :: answers    => .ok r answers
    | .error e :: answers => .error e answers⟩

end Session

end SealedPost
