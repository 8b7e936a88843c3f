import TokenChain.Time.Rfc3339
import TokenChain.Text.Quoted

/-! # Access tokens

A bearer token with its expiry and the scopes it was asked for. A token counts as stale five minutes
before it expires. Its description withholds the secret. -/

namespace TokenChain

/-- A bearer token. -/
structure Token where
  secret : String
  expiresAt : Timestamp
  scopes : List String
deriving DecidableEq, Repr, Inhabited

namespace Token

/-- A token that expires `lifetime` nanoseconds after `now`, unless that lies beyond the
calendar. -/
def lasting? (secret : String) (now : Instant) (lifetime : Int) (scopes : List String) :
    Option Token :=
  (Timestamp.shifted? now lifetime).map fun expiry => ⟨secret, expiry, scopes⟩

/-- Whether the token has expired. -/
def isExpired (t : Token) (now : Instant) : Bool := t.expiresAt.reachedAt now

/-- The nanoseconds before the expiry in which a token is stale. -/
def staleNanos : Int := 300 * 1000000000

/-- Whether the token has expired or will within five minutes; unknown if five minutes before the
expiry lie beyond the calendar. -/
def needsRefresh? (t : Token) (now : Instant) : Option Bool :=
  (Timestamp.shifted? t.expiresAt.toInstant (-staleNanos)).map fun stale => stale.reachedAt now

/-- What is shown of a token: everything but the secret. -/
def description (t : Token) : String :=
  "AccessToken \x7b token: \"[redacted]\", expires_at: " ++ Rfc3339.writeZulu t.expiresAt ++
    ", scopes: " ++ Text.Quoted.encodeList t.scopes ++ " \x7d"

end Token

end TokenChain
