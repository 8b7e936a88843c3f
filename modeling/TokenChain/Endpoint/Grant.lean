import TokenChain.Endpoint.Failure
import TokenChain.Surroundings
import TokenChain.Text.Integer
import TokenChain.Token

/-! # Granted tokens

What a response that grants a token says. Endpoints write the expiry as a number or as a text, as an
instant or as a lifetime; the instant comes before the lifetime, and a lifetime that is not given or
not a number is an hour. A lifetime that leads beyond the calendar breaks the task down.

`call` sends a message and reads the response. -/

namespace TokenChain.Endpoint

open TokenChain.Json

/-- A number of seconds, written as a number or as a text; the outer option is for what is neither,
the inner one for a text that is no number. -/
def seconds? (d : Document) : Option (Option Int) :=
  match d with
  | .number _ => d.int64?.map some
  | .string text => text.map fun s => Text.Integer.signed? (Text.trim s)
  | _ => none

/-- A response that grants a token. -/
structure Grant where
  accessToken : String
  lifetime : Option Int
  expiry : Option Int
deriving DecidableEq, Repr

namespace Grant

/-- Reads a response that grants a token. -/
def ofDocument? (d : Document) : Option Grant := do
  match ← d.fields? ["access_token", "expires_in", "expires_on"] with
  | [token, lifetime, expiry] =>
    return ⟨← required Document.text? token, (← optional seconds? lifetime).join,
      (← optional seconds? expiry).join⟩
  | _ => none

/-- When the token expires, unless that lies beyond the calendar. -/
def expiresAt? (g : Grant) (now : Instant) : Option Timestamp :=
  (g.expiry.bind Timestamp.ofSeconds?).or
    (Timestamp.shifted? now (g.lifetime.getD 3600 * 1000000000))

end Grant

/-- The value of a response whose body has been read, or cannot be read. -/
def readToken {σ : Type} (credential : String) (family : Family)
    (scopes : List String) (status : Nat) (body : Except String (List UInt8)) :
    Task σ (Except Error Token) :=
  match body with
  | .error e => .done (.error (.network credential ("Failed to read response: " ++ e)))
  | .ok bytes =>
    let text := Text.Utf8.decodeLossy bytes
    if isSuccess status then
      match (Document.read? (Text.Utf8.encode text)).bind Grant.ofDocument? with
      | none => .done (.error .json)
      | some grant => .look fun m =>
        match grant.expiresAt? m.now with
        | none => .crash
        | some expiry => .done (.ok ⟨grant.accessToken, expiry, scopes⟩)
    else .done (.error (classify credential family status text))

/-- The value of an outcome. -/
def readOutcome {σ : Type} (credential : String) (family : Family) (scopes : List String) :
    Outcome → Task σ (Except Error Token)
  | .response status body => readToken credential family scopes status body
  | .unreachable text => .done (.error (.network credential text))
  | .timedOut text => .done (.error (.timeout credential ("HTTP request timed out: " ++ text)))

/-- Sends a message and reads the token out of the response. -/
def call (credential : String) (family : Family) (scopes : List String) (m : Message) :
    Task Surroundings (Except Error Token) :=
  (Surroundings.onWire (Wire.exchange m)).bind (readOutcome credential family scopes)

end TokenChain.Endpoint
