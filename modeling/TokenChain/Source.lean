import TokenChain.Request
import TokenChain.Token
import TokenChain.Source.Kind

/-! # Sources

A source gets tokens from one mechanism. Whatever comes of a call, the source writes one entry about
the outcome behind all others of the call (`reported`); the secret is never in it. -/

namespace TokenChain

/-- A source of tokens that works on the state `ρ`. -/
structure Source (ρ : Type) where
  name : String
  kind : SourceKind
  getToken : Request → Task ρ (Except Error Token)

namespace Source

variable {ρ : Type}

/-- What is logged about the outcome of a call. -/
def report (credential : String) (elapsed : Duration) : Except Error Token → Note
  | .ok token =>
    ⟨.info, credential, "issued token for [" ++ ", ".intercalate token.scopes ++ "] in " ++
      toString elapsed.wholeMillis ++ "ms, expires " ++ Rfc3339.write token.expiresAt⟩
  | .error e => ⟨if e.isUnavailable then .info else .warning, credential,
      "failed after " ++ toString elapsed.wholeMillis ++ "ms: " ++ e.message⟩

/-- A call with a report of its outcome. -/
def reported (credential : String) (work : Task ρ (Except Error Token)) :
    Task ρ (Except Error Token) :=
  .look fun start => work.bind fun result => .look fun stop =>
    .note (report credential (stop.now.since start.now) result) (.done result)

end Source

end TokenChain
