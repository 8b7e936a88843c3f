import TokenChain.Source.Environment

/-! # Workload identity

A source that proves who asks with an assertion from a file, which is read afresh on every call. -/

namespace TokenChain

/-- A client and the file with its assertion. -/
structure Federation where
  tenantId : String
  clientId : String
  tokenFile : String
deriving DecidableEq, Repr, Inhabited

/-- The settings of the workload identity source; in place of the client, the settings that are
missing. -/
structure WorkloadSource where
  federation : Except (List String) Federation
  authority : Url
  retry : RetryPolicy
  userAgent : String
deriving Inhabited

namespace WorkloadSource

/-- The name of the source. -/
def credential : String := SourceKind.workloadIdentity.name

/-- The kind of assertion that the file holds. -/
def assertionType : String := "urn:ietf:params:oauth:client-assertion-type:jwt-bearer"

/-- The source that settings ask for. -/
def ofConfig (c : Config) : Except Error WorkloadSource := do
  let authority ← c.authorityUrl
  let federation := match c.tenantId, c.clientId, c.federatedTokenFile with
    | some tenantId, some clientId, some tokenFile => .ok ⟨tenantId, clientId, tokenFile⟩
    | tenantId, clientId, tokenFile => .error (EnvironmentSource.missing
        [("AZURE_TENANT_ID", tenantId), ("AZURE_CLIENT_ID", clientId),
          ("AZURE_FEDERATED_TOKEN_FILE", tokenFile)])
  return ⟨federation, authority, c.retry, Endpoint.userAgent⟩

/-- The source of a given client. -/
def ofClient (tenantId clientId tokenFile : String) : Except Error WorkloadSource :=
  ofConfig { Config.standard with
    tenantId := some tenantId, clientId := some clientId, federatedTokenFile := some tokenFile }

/-- The text of a file, or why there is none. -/
def readText (files : Files) (path : String) : Except String String :=
  match files.read path with
  | .error e => .error e.message
  | .ok bytes => match Text.Utf8.decode? bytes with
    | some text => .ok text
    | none => .error "stream did not contain valid UTF-8"

/-- The assertion in a file, without the white space around it. -/
def assertion (files : Files) (path : String) : Except Error String :=
  match readText files path with
  | .error e => .error (.unavailable credential
      ("cannot read federated token file " ++ path ++ ": " ++ e))
  | .ok text =>
    if Text.allBlank text then
      .error (.unavailable credential ("federated token file " ++ path ++ " is empty"))
    else .ok (Text.trim text)

/-- One request to the authority. -/
def ask (s : WorkloadSource) (f : Federation) (proof : String) (r : Request) :
    Task Surroundings (Except Error Token) :=
  Endpoint.authorityToken credential s.userAgent s.authority f.tenantId
    [("client_assertion_type", assertionType), ("client_assertion", proof),
      ("client_id", f.clientId)]
    r.scopes

/-- Gets a token. -/
def fetch (s : WorkloadSource) (r : Request) : Task Surroundings (Except Error Token) :=
  match s.federation with
  | .error missing => .done (.error (.unavailable credential
      ("workload identity is not configured, missing " ++ ", ".intercalate missing)))
  | .ok f => .step id fun around =>
    match assertion around.files f.tokenFile with
    | .error e => .done (.error e)
    | .ok proof => s.retry.execute r credential (fun _ => .done ()) fun _ => s.ask f proof r

/-- The source. -/
def source (s : WorkloadSource) : Source Surroundings where
  name := credential
  kind := .workloadIdentity
  getToken r := Source.reported credential (s.fetch r)

end WorkloadSource

end TokenChain
