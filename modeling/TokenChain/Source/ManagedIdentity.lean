import TokenChain.Config
import TokenChain.Endpoint.Authority
import TokenChain.Retry.Execution
import TokenChain.Source

/-! # Managed identity

A source for programs that run on a host with an identity of its own. An app service says where its
endpoint is, and is asked with the usual retries. The metadata service of a virtual machine is
always at the same address, whether anybody listens there or not, so it stands behind a probe gate:
the first call makes a single short attempt, and only if a response comes back later calls ask as
usual. -/

namespace TokenChain

/-- Where the tokens of a managed identity come from. -/
inductive IdentityEndpoint where
  /-- The metadata service of a virtual machine. -/
  | imds (url : Url)
  /-- An app service, with the header that it wants to see. -/
  | appService (url : Url) (header : String)
deriving DecidableEq, Repr, Inhabited

namespace IdentityEndpoint

/-- The address of the endpoint. -/
def url : IdentityEndpoint → Url
  | imds url => url
  | appService url _ => url

/-- Whether the endpoint is a metadata service. -/
def isImds : IdentityEndpoint → Bool
  | imds _ => true
  | appService .. => false

/-- What is shown of an endpoint: everything but the header. -/
def description : IdentityEndpoint → String
  | imds url => "Imds \x7b url: " ++ Text.Quoted.encode url.text ++ " \x7d"
  | appService url _ => "AppService \x7b url: " ++ Text.Quoted.encode url.text ++ ", .. \x7d"

end IdentityEndpoint

/-- The settings of the managed identity source. -/
structure ManagedIdentitySource where
  endpoint : IdentityEndpoint
  clientId : Option String
  retry : RetryPolicy
  probeTimeout : Duration
  userAgent : String
  /-- The number of the source's probe gate. -/
  gate : Nat
deriving Inhabited

namespace ManagedIdentitySource

/-- The name of the source. -/
def credential : String := SourceKind.managedIdentity.name

/-- A source for an endpoint, with the settings that hold if nothing is said. -/
def ofEndpoint (endpoint : IdentityEndpoint) (gate : Nat) : ManagedIdentitySource :=
  ⟨endpoint, none, .standard, .ofSeconds 1, Endpoint.userAgent, gate⟩

/-- The endpoint that settings ask for. -/
def endpointOf (c : ManagedIdentityConfig) : Except Error IdentityEndpoint :=
  match c.identityEndpoint, c.identityHeader with
  | some endpoint, some header =>
    match Url.parse endpoint with
    | .ok url => .ok (.appService url header)
    | .error e => .error (.config ("Invalid IDENTITY_ENDPOINT " ++ endpoint ++ ": " ++ e.message))
  | _, _ => (Config.imdsTokenUrl c).map .imds

/-- The source that settings ask for. -/
def ofConfig (c : Config) (gate : Nat) : Except Error ManagedIdentitySource := do
  let endpoint ← endpointOf c.managedIdentity
  return { ofEndpoint endpoint gate with
    clientId := c.managedIdentity.clientId
    retry := c.retry
    probeTimeout := c.managedIdentity.probeTimeout }

/-- The query for a resource in a version of the endpoint's interface. -/
def query (s : ManagedIdentitySource) (version resource : String) : List (String × String) :=
  [("api-version", version), ("resource", resource)] ++
    (s.clientId.map fun c => ("client_id", c)).toList

/-- The message that asks the endpoint for a token. -/
def message (s : ManagedIdentitySource) (resource : String) : Message :=
  match s.endpoint with
  | .imds url =>
    { method := "GET"
      url := (url.addPairs (s.query "2018-02-01" resource)).text
      headers := [("metadata", "true"), ("user-agent", s.userAgent)]
      body := none }
  | .appService url header =>
    { method := "GET"
      url := (url.addPairs (s.query "2019-08-01" resource)).text
      headers := [("user-agent", s.userAgent), ("x-identity-header", header)]
      body := none }

/-- One request to the endpoint. -/
def ask (s : ManagedIdentitySource) (resource : String) (r : Request) :
    Task Surroundings (Except Error Token) :=
  Endpoint.call credential .managedIdentity r.scopes (s.message resource)

/-- Requests to the endpoint with the retries of a policy. -/
def askWith (s : ManagedIdentitySource) (policy : RetryPolicy) (resource : String) (r : Request) :
    Task Surroundings (Except Error Token) :=
  policy.execute r credential (fun _ => .done ()) fun _ => s.ask resource r

/-- Whether an error shows that a response came back. -/
def provesResponse : Error → Bool
  | .network .. | .timeout .. => false
  | _ => true

/-- The outcome of a probe whose attempt ended with the given result. -/
def outcome : Except Error Token → ProbeState
  | .error e => if provesResponse e then .succeeded else .failed e.message
  | .ok _ => .succeeded

/-- What a caller learns of a probe: an endpoint that cannot be reached is not there. -/
def probeResult : Except Error Token → Except Error Token
  | .error (.network _ m) => .error (.unavailable credential ("IMDS endpoint unreachable: " ++ m))
  | result => result

/-- Makes the probe and reports its outcome at the gate. -/
def probe (s : ManagedIdentitySource) (resource : String) (r : Request) :
    Task Surroundings (Except Error Token) :=
  ((r.within credential (some s.probeTimeout) (s.ask resource r)).onLoss
      (Surroundings.setGate s.gate (.settle .abandoned))).bind fun result =>
    .step (Surroundings.setGate s.gate (.settle (outcome result))) fun _ =>
      .done (probeResult result)

/-- The error of a call that finds the gate closed. -/
def refusal (reason : String) : Error :=
  .unavailable credential ("IMDS endpoint skipped, earlier probe failed: " ++ reason)

/-- Gets a token from the metadata service. -/
def fetchImds (s : ManagedIdentitySource) (resource : String) (r : Request) :
    Task Surroundings (Except Error Token) :=
  (Surroundings.onGate s.gate (ProbeState.consult r credential)).bind fun
    | .error e => .done (.error e)
    | .ok (.closed reason) => .done (.error (refusal reason))
    | .ok .probe => s.probe resource r
    | .ok .opened => s.askWith (s.retry.behind .opened) resource r

/-- Gets a token. -/
def fetch (s : ManagedIdentitySource) (r : Request) : Task Surroundings (Except Error Token) :=
  match r.resource credential with
  | .error e => .done (.error e)
  | .ok resource =>
    match s.endpoint with
    | .imds _ => s.fetchImds resource r
    | .appService .. => s.askWith s.retry resource r

/-- The source. -/
def source (s : ManagedIdentitySource) : Source Surroundings where
  name := credential
  kind := .managedIdentity
  getToken r := Source.reported credential (s.fetch r)

/-- The probe state in descriptions. -/
def stateText : ProbeState → String
  | .untested => "Untested"
  | .inFlight => "InFlight"
  | .succeeded => "Succeeded"
  | .failed reason => "Failed(" ++ Text.Quoted.encode reason ++ ")"

/-- What is shown of the source, given the state of its gate. -/
def description (s : ManagedIdentitySource) (state : ProbeState) : String :=
  let client := match s.clientId with
    | some c => "Some(" ++ Text.Quoted.encode c ++ ")"
    | none => "None"
  "ManagedIdentityProvider \x7b endpoint: " ++ s.endpoint.description ++
    ", client_id: " ++ client ++ ", probe_state: " ++ stateText state ++ " \x7d"

end ManagedIdentitySource

end TokenChain
