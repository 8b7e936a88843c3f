import TokenChain.Error
import TokenChain.Text.Quoted

/-! # Scopes

A scope names what a token is for. Scopes end up in queries and on command lines, so they are
checked first: `isValid` admits a small alphabet and no leading dash. Sources that know resources
instead of scopes take exactly one scope and drop its `/.default`. -/

namespace TokenChain.Scope

/-- The characters of a scope. -/
def isScopeChar (c : Char) : Bool :=
  c.isAlphanum || c == '.' || c == '-' || c == '_' || c == ':' || c == '/'

/-- Whether a list of characters may be handed on: not empty, without a leading dash, and in the
alphabet of scopes. -/
def isPlain (cs : List Char) : Bool :=
  !cs.isEmpty && cs.head? != some '-' && cs.all isScopeChar

/-- Whether a scope may be handed on. -/
def isValid (scope : String) : Bool := isPlain scope.toList

/-- Refuses a scope that may not be handed on. -/
def check (scope : String) : Except Error Unit :=
  if isValid scope then .ok () else .error (.config ("invalid scope: " ++ Text.Quoted.encode scope))

/-- The ending of a scope that asks for all that has been granted on a resource. -/
def defaultSuffix : List Char := "/.default".toList

/-- A list without the given ending, if it has it. -/
def dropSuffix (suffix cs : List Char) : List Char :=
  if suffix.isSuffixOf cs then cs.take (cs.length - suffix.length) else cs

/-- The resource of a request with a single scope. -/
def resource (credential : String) : List String → Except Error String
  | [scope] => do
    check scope
    return String.ofList (dropSuffix defaultSuffix scope.toList)
  | scopes => .error (.config
      (credential ++ " requires exactly one scope, got " ++ toString scopes.length))

/-- The scopes of a request with at least one scope, all of them fit for a command line. -/
def validated (credential : String) (scopes : List String) : Except Error (List String) := do
  if scopes.isEmpty then
    throw (.config (credential ++ " requires at least one scope"))
  scopes.forM check
  return scopes

end TokenChain.Scope
