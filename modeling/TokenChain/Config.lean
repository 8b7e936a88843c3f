import TokenChain.Config.Selection
import TokenChain.Retry.Policy
import TokenChain.Log
import TokenChain.Text.Integer
import TokenChain.Url.Parser

/-! # Settings of a chain

What a chain of sources is built from: who asks for tokens, where the endpoints are, which sources
take part, and how long and how often they try. `Config.ofVariables` reads the settings from
environment variables; a blank variable counts as not set, and a number that cannot be read as not
given. -/

namespace TokenChain

/-- The settings of the managed identity source. -/
structure ManagedIdentityConfig where
  /-- The identity assigned by the user; without one the identity is the system's. -/
  clientId : Option String
  /-- The host of the instance metadata service. -/
  imdsHost : String
  /-- The endpoint of an app service, which comes before the metadata service. -/
  identityEndpoint : Option String
  identityHeader : Option String
  probeTimeout : Duration
deriving DecidableEq, Repr, Inhabited

/-- The settings of a chain. -/
structure Config where
  tenantId : Option String
  clientId : Option String
  clientSecret : Option String
  federatedTokenFile : Option String
  authorityHost : String
  managedIdentity : ManagedIdentityConfig
  retry : RetryPolicy
  selection : Selection
  /-- The bound on one run of a developer tool. -/
  developerToolTimeout : Duration
  diagnosticsCapacity : Nat
deriving DecidableEq, Repr, Inhabited

namespace ManagedIdentityConfig

/-- The settings if nothing is said. -/
def standard : ManagedIdentityConfig :=
  ⟨none, "http://169.254.169.254", none, none, .ofSeconds 1⟩

end ManagedIdentityConfig

namespace Config

/-- The settings if nothing is said. -/
def standard : Config where
  tenantId := none
  clientId := none
  clientSecret := none
  federatedTokenFile := none
  authorityHost := "https://login.microsoftonline.com/"
  managedIdentity := .standard
  retry := .standard
  selection := .all
  developerToolTimeout := .ofSeconds 13
  diagnosticsCapacity := Log.defaultCapacity

/-! ### Endpoints -/

/-- The address of a host, with a slash at its end. -/
def baseUrl (host : String) : Except Error Url :=
  let text := if host.toList.getLast? == some '/' then host else host ++ "/"
  match Url.parse text with
  | .ok url => .ok url
  | .error e => .error (.config ("Invalid URL " ++ host ++ ": " ++ e.message))

/-- The address below which the authority's token endpoints lie. -/
def authorityUrl (c : Config) : Except Error Url := baseUrl c.authorityHost

/-- The address of the metadata service's token endpoint. -/
def imdsTokenUrl (c : ManagedIdentityConfig) : Except Error Url := do
  let base ← baseUrl c.imdsHost
  match base.join "metadata/identity/oauth2/token" with
  | .ok url => return url
  | .error e => throw (.config ("Invalid IMDS host " ++ c.imdsHost ++ ": " ++ e.message))

/-! ### Environment variables -/

/-- The values of environment variables by their names. -/
abbrev Variables := String → Option String

namespace Variables

/-- The value of a variable that is set and not blank. -/
def value? (vars : Variables) (name : String) : Option String :=
  (vars name).filter fun v => !Text.allBlank v

/-- The value of the first of two variables that is set and not blank. -/
def either? (vars : Variables) (first second : String) : Option String :=
  (vars.value? first).or (vars.value? second)

/-- The number of a variable that holds an unsigned number of so many bits. -/
def number? (vars : Variables) (bits : Nat) (name : String) : Option Nat :=
  (vars.value? name).bind fun v => Text.Integer.unsigned? bits (Text.trim v)

/-- The duration of a variable that holds a number of milliseconds. -/
def millis? (vars : Variables) (name : String) : Option Duration :=
  (vars.number? 64 name).map Duration.ofMillis

end Variables

/-- The retry policy that variables ask for. -/
def retryOf (vars : Variables) : RetryPolicy :=
  let base : RetryPolicy := .standard
  { RetryPolicy.make
      (((vars.number? 32 "AZURE_CREDENTIAL_MAX_RETRIES").map UInt32.ofNat).getD base.maxRetries)
      ((vars.millis? "AZURE_CREDENTIAL_RETRY_BASE_MS").getD base.baseDelay)
      ((vars.millis? "AZURE_CREDENTIAL_RETRY_MAX_MS").getD base.maxDelay) with
    attemptTimeout :=
      (vars.millis? "AZURE_CREDENTIAL_ATTEMPT_TIMEOUT_MS").getD base.attemptTimeout }

/-- The selection that variables ask for. -/
def selectionOf (vars : Variables) : Except Error Selection :=
  match vars.value? "AZURE_TOKEN_CREDENTIALS" with
  | some text => Selection.ofText text
  | none => .ok .all

/-- The settings of the managed identity source that variables ask for. -/
def managedIdentityOf (vars : Variables) : ManagedIdentityConfig :=
  let base := ManagedIdentityConfig.standard
  { clientId := vars.either? "AZURE_MANAGED_IDENTITY_CLIENT_ID" "AZURE_CLIENT_ID"
    imdsHost := (vars.value? "AZURE_POD_IDENTITY_AUTHORITY_HOST").getD base.imdsHost
    identityEndpoint := vars.value? "IDENTITY_ENDPOINT"
    identityHeader := vars.value? "IDENTITY_HEADER"
    probeTimeout := (vars.millis? "AZURE_CREDENTIAL_PROBE_TIMEOUT_MS").getD base.probeTimeout }

/-- The settings that variables ask for. -/
def ofVariables (vars : Variables) : Except Error Config := do
  let selection ← selectionOf vars
  return {
    tenantId := vars.value? "AZURE_TENANT_ID"
    clientId := vars.value? "AZURE_CLIENT_ID"
    clientSecret := vars.value? "AZURE_CLIENT_SECRET"
    federatedTokenFile := vars.value? "AZURE_FEDERATED_TOKEN_FILE"
    authorityHost := (vars.value? "AZURE_AUTHORITY_HOST").getD standard.authorityHost
    managedIdentity := managedIdentityOf vars
    retry := retryOf vars
    selection
    developerToolTimeout :=
      (vars.millis? "AZURE_CREDENTIAL_DEVELOPER_TOOL_TIMEOUT_MS").getD standard.developerToolTimeout
    diagnosticsCapacity :=
      (vars.number? 64 "AZURE_CREDENTIAL_DIAGNOSTICS_CAPACITY").getD standard.diagnosticsCapacity }

end Config

end TokenChain
