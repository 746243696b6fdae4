import SealedPost.Frame
import SealedPost.Identity

/-!
# Configuration

A configuration names a gateway identity and its secret, the address of the gateway, the floor of
frames and the longest time to wait for an answer. Every change of one field goes through the
checks that a new configuration goes through. The secret is never shown.
-/

namespace SealedPost

structure Config where
  identity : String
  secret : String
  apiUrl : String
  minFrameLength : Int
  /-- The longest wait in seconds; none to wait for ever. -/
  timeout : Option Quantity

namespace Config

/-! ### Defaults -/

def defaultApiUrl : String := "https://msgapi.threema.ch"

def defaultTimeout : Quantity := .real 30.0

/-! ### Checks -/

/-- A text without the slashes at its end. -/
def withoutSlashes (url : String) : String :=
  String.ofList (url.toList.reverse.dropWhile (· == '/')).reverse

/-- A configuration of checked parts. The identity is looked at before the floor. -/
def create (identity : Identity.Candidate) (secret : String) (apiUrl : String)
    (minFrameLength : Int) (timeout : Option Quantity) : Except Failure Config := do
  let identity ← Identity.validate identity
  let _ ← Frame.paddingLength 0 minFrameLength
  pure ⟨identity, secret, withoutSlashes apiUrl, minFrameLength, timeout⟩

/-- The configuration with another address. -/
def withApiUrl (url : String) (c : Config) : Except Failure Config :=
  create c.identity c.secret url c.minFrameLength c.timeout

/-- The configuration with another floor. -/
def withMinFrameLength (floor : Int) (c : Config) : Except Failure Config :=
  create c.identity c.secret c.apiUrl floor c.timeout

/-! ### From the environment -/

/-- A variable that is set and not empty. -/
def nonEmpty (environment : String → Option String) (name : String) : Option String :=
  (environment name).filter (!·.isEmpty)

/-- The configuration that environment variables spell. The identity and the secret must be there;
the numbers are read before the identity is checked. -/
def ofEnvironment (environment : String → Option String) : Except Failure Config :=
  match nonEmpty environment "GATEWAY_IDENTITY", nonEmpty environment "GATEWAY_SECRET" with
  | some identity, some secret => do
    let floor ← match environment "GATEWAY_MIN_FRAME_LENGTH" with
      | none   => pure Frame.defaultFloor
      | some s => (Whole.read s).mapError .notWhole
    let timeout ← match nonEmpty environment "GATEWAY_TIMEOUT" with
      | none   => pure defaultTimeout
      | some s => match Real.read s with
        | none   => throw (.notReal s)
        | some x => pure (.real x)
    create identity secret ((environment "GATEWAY_API_URL").getD defaultApiUrl) floor (some timeout)
  | identity, secret =>
    .error (.missingVariables
      ((if identity.isNone then ["GATEWAY_IDENTITY"] else []) ++
        (if secret.isNone then ["GATEWAY_SECRET"] else [])))

/-! ### Text -/

/-- The text of a longest wait. -/
def timeoutText : Option Quantity → String
  | none   => "None"
  | some t => t.write

/-- The text of a configuration; its secret is left out. -/
def redacted (c : Config) : String :=
  "GatewayConfig(identity=" ++ Quoted.quote c.identity ++ ", secret=<redacted>, api_url="
    ++ Quoted.quote c.apiUrl ++ ", min_frame_len=" ++ toString c.minFrameLength ++ ", timeout="
    ++ timeoutText c.timeout ++ ")"

end Config

end SealedPost
