/-! # Errors

Why no token was produced. Each error of a single source names that source, so that the failure of a
whole chain can tell which source almost worked. `Error.category` says what a caller can do about an
error and `Error.message` is its text. -/

namespace TokenChain

/-- Why no token was produced. -/
inductive Error where
  /-- The source does not apply here. -/
  | unavailable (credential reason : String)
  /-- The identity provider refused the credentials. -/
  | unauthorized (credential : String) (status : Option Nat) (message : String)
  /-- A time limit has passed, or the request was cancelled. -/
  | timeout (credential message : String)
  /-- The token endpoint answered with a status that is expected to pass. -/
  | service (credential : String) (status : Nat) (message : String)
  /-- No connection, or one that broke. -/
  | network (credential message : String)
  /-- Every source of a chain failed; the failures stand in the order of the sources. -/
  | aggregate (failures : List (String × Error))
  /-- A setting or a request is not acceptable. -/
  | config (message : String)
  /-- A text is not the JSON that was expected. -/
  | json
  /-- A file or a program could not be used. -/
  | io (message : String)
deriving Repr, Inhabited

/-- What a caller can do about an error. -/
inductive Category where
  | unavailable
  | authorization
  | transient
  | configuration
  | internal
deriving DecidableEq, Repr, Inhabited

namespace Error

/-- The category of an error. -/
def category : Error → Category
  | unavailable .. => .unavailable
  | unauthorized .. => .authorization
  | timeout .. | service .. | network .. => .transient
  | config _ => .configuration
  | aggregate _ | json | io _ => .internal

/-- Whether another attempt may succeed. -/
def isRetryable (e : Error) : Bool := e.category == .transient

/-- Whether the source does not apply here. -/
def isUnavailable (e : Error) : Bool := e.category == .unavailable

/-- Whether a time limit or a cancellation ended the request. -/
def isTimeout : Error → Bool
  | timeout .. => true
  | _ => false

/-- The status of the answer that caused the error. -/
def status? : Error → Option Nat
  | unauthorized _ status _ => status
  | service _ status _ => some status
  | _ => none

/-- The source that caused the error. -/
def credential? : Error → Option String
  | unavailable c _ | unauthorized c _ _ | timeout c _ | service c _ _ | network c _ => some c
  | _ => none

mutual

/-- The text of an error. -/
def message : Error → String
  | unavailable c reason => c ++ " is unavailable: " ++ reason
  | unauthorized c status m =>
    c ++ " authentication failed (HTTP " ++ (status.map toString).getD "n/a" ++ "): " ++ m
  | timeout c m => c ++ " timed out: " ++ m
  | service c status m => c ++ " service error (HTTP " ++ toString status ++ "): " ++ m
  | network c m => c ++ " network request failed: " ++ m
  | aggregate [] => "No credential sources are configured"
  | aggregate (f :: fs) => "No credential source produced a token. Tried:" ++ failureLines (f :: fs)
  | config m => "Configuration error: " ++ m
  | json => "JSON parsing failed: <json>"
  | io m => "IO error: " ++ m

/-- One line for each failure. -/
def failureLines : List (String × Error) → String
  | [] => ""
  | f :: fs => failureLine f ++ failureLines fs

/-- A failure on a line of its own. -/
def failureLine : String × Error → String
  | (c, e) => "\n- " ++ c ++ ": " ++ e.message

end

/-- Whether every source reported that it does not apply; an empty list of failures does not
count. -/
def allUnavailable (failures : List (String × Error)) : Bool :=
  !failures.isEmpty && failures.all fun f => f.2.isUnavailable

end Error

end TokenChain
