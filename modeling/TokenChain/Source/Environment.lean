import TokenChain.Config
import TokenChain.Endpoint.Authority
import TokenChain.Retry.Execution
import TokenChain.Source

/-! # Client secrets

A source that asks the authority for tokens with the secret of a client. It can be built without one
of its settings; then it says which are missing and lets the chain go on. -/

namespace TokenChain

/-- A client and its secret. -/
structure ClientSecret where
  tenantId : String
  clientId : String
  secret : String
deriving DecidableEq, Repr, Inhabited

/-- The settings of the client secret source; in place of the client, the settings that are
missing. -/
structure EnvironmentSource where
  client : Except (List String) ClientSecret
  authority : Url
  retry : RetryPolicy
  userAgent : String
deriving Inhabited

namespace EnvironmentSource

/-- The name of the source. -/
def credential : String := SourceKind.environment.name

/-- The names of settings that are not there. -/
def missing (settings : List (String × Option String)) : List String :=
  (settings.filter fun s => s.2.isNone).map Prod.fst

/-- The source that settings ask for. -/
def ofConfig (c : Config) : Except Error EnvironmentSource := do
  let authority ← c.authorityUrl
  let client := match c.tenantId, c.clientId, c.clientSecret with
    | some tenantId, some clientId, some secret => .ok ⟨tenantId, clientId, secret⟩
    | tenantId, clientId, secret => .error (missing
        [("AZURE_TENANT_ID", tenantId), ("AZURE_CLIENT_ID", clientId),
          ("AZURE_CLIENT_SECRET", secret)])
  return ⟨client, authority, c.retry, Endpoint.userAgent⟩

/-- The source of a given client. -/
def ofClient (tenantId clientId secret : String) : Except Error EnvironmentSource :=
  ofConfig { Config.standard with
    tenantId := some tenantId, clientId := some clientId, clientSecret := some secret }

/-- Whether no setting is missing. -/
def isConfigured (s : EnvironmentSource) : Bool :=
  match s.client with
  | .ok _ => true
  | .error _ => false

/-- One request to the authority. -/
def ask (s : EnvironmentSource) (client : ClientSecret) (r : Request) :
    Task Surroundings (Except Error Token) :=
  Endpoint.authorityToken credential s.userAgent s.authority client.tenantId
    [("client_id", client.clientId), ("client_secret", client.secret)] r.scopes

/-- Gets a token. -/
def fetch (s : EnvironmentSource) (r : Request) : Task Surroundings (Except Error Token) :=
  match s.client with
  | .error missing => .done (.error (.unavailable credential
      ("environment is not configured, missing " ++ ", ".intercalate missing)))
  | .ok client => s.retry.execute r credential (fun _ => .done ()) fun _ => s.ask client r

/-- The source. -/
def source (s : EnvironmentSource) : Source Surroundings where
  name := credential
  kind := .environment
  getToken r := Source.reported credential (s.fetch r)

/-- What is shown of the source: everything but the secret. -/
def description (s : EnvironmentSource) : String :=
  let settings := match s.client with
    | .ok client => "tenant_id: " ++ Text.Quoted.encode client.tenantId ++ ", client_id: " ++
        Text.Quoted.encode client.clientId ++ ", has_secret: true"
    | .error missing => "missing: " ++ Text.Quoted.encodeList missing
  "EnvironmentProvider \x7b " ++ settings ++ ", authority_host: " ++
    Text.Quoted.encode s.authority.text ++ " \x7d"

end EnvironmentSource

end TokenChain
