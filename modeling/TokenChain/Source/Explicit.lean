import TokenChain.Source

/-! # Explicit tokens

A token that was handed over as it is. It answers every request, with the scopes of the request,
until it expires. -/

namespace TokenChain

/-- A token that was handed over. -/
structure ExplicitToken where
  name : String
  token : Token
deriving Repr, Inhabited

namespace ExplicitToken

/-- A bearer token that is good for an hour from now. -/
def bearer? (secret : String) (now : Instant) : Option ExplicitToken :=
  (Token.lasting? secret now (3600 * 1000000000) []).map fun token =>
    ⟨SourceKind.explicit.name, token⟩

/-- The answer to a request at the given time. -/
def answer (e : ExplicitToken) (r : Request) (now : Instant) : Except Error Token :=
  if e.token.isExpired now then .error (.unavailable e.name "configured token has expired")
  else .ok { e.token with scopes := r.scopes }

/-- The source of a token that was handed over. -/
def source {ρ : Type} (e : ExplicitToken) : Source ρ where
  name := e.name
  kind := .explicit
  getToken r := .look fun m =>
    .note (Source.report e.name ⟨0⟩ (e.answer r m.now)) (.done (e.answer r m.now))

end ExplicitToken

end TokenChain
