import TokenChain.Config
import TokenChain.Endpoint.Authority
import TokenChain.Source

/-! # Developer tools as sources

Sources that take a token from a tool in which a developer has logged in. A tool that is not there,
or in which nobody has logged in, does not apply. The tools write when a token expires in different
ways: `az` as a number of seconds or, in older versions, as local time; `azd` as a timestamp with an
offset. -/

namespace TokenChain

/-- The settings of a developer tool source. -/
structure ToolSource where
  tool : Tool
  program : String
  tenantId : Option String
  timeout : Duration
deriving DecidableEq, Repr, Inhabited

/-- The kind of source that a tool is. -/
def Tool.kind : Tool → SourceKind
  | .az => .azureCli
  | .azd => .azureDeveloperCli

/-- The name of a tool's source. -/
def Tool.credential (tool : Tool) : String := tool.kind.name

/-- How one logs in. -/
def Tool.login : Tool → String
  | .az => "az login"
  | .azd => "azd auth login"

/-- The program of a tool. -/
def Tool.program : Tool → String
  | .az => "az"
  | .azd => "azd"

namespace ToolSource

open TokenChain.Json

/-- The source of a tool, with the settings that hold if nothing is said. -/
def standard (tool : Tool) : ToolSource := ⟨tool, tool.program, none, .ofSeconds 13⟩

/-- The source of a tool that settings ask for. -/
def ofConfig (c : Config) (tool : Tool) : ToolSource :=
  { standard tool with tenantId := c.tenantId, timeout := c.developerToolTimeout }

/-! ### Arguments -/

/-- The option that names a tenant. -/
def tenantArguments (option : String) : Option String → Except Error (List String)
  | none => .ok []
  | some tenant => (Endpoint.checkTenant tenant).map fun _ => [option, tenant]

/-- The arguments of a run for a request. -/
def arguments (s : ToolSource) (r : Request) : Except Error (List String) :=
  match s.tool with
  | .az => do
    let resource ← r.resource s.tool.credential
    let tenant ← tenantArguments "--tenant" s.tenantId
    return ["account", "get-access-token", "--output", "json", "--resource", resource] ++ tenant
  | .azd => do
    let scopes ← Scope.validated s.tool.credential r.scopes
    let tenant ← tenantArguments "--tenant-id" s.tenantId
    return ["auth", "token", "--output", "json", "--no-prompt"] ++
      (scopes.flatMap fun scope => ["--scope", scope]) ++ tenant

/-! ### Output -/

/-- The error of an expiry that cannot be read. -/
def badExpiry (tool : Tool) (text : Option String) : Error :=
  .unauthorized tool.credential none
    ("unrecognised token expiry " ++ Text.Quoted.encode (text.getD "<missing>"))

/-- A token as `az` writes it. -/
structure AzToken where
  accessToken : String
  localExpiry : Option String
  expiry : Option Int
deriving DecidableEq, Repr

/-- Reads a token as `az` writes it. -/
def AzToken.ofDocument? (d : Document) : Option AzToken := do
  match ← d.fields? ["accessToken", "expiresOn", "expires_on"] with
  | [token, localExpiry, expiry] =>
    return ⟨← required Document.text? token, ← optional Document.text? localExpiry,
      ← optional Document.int64? expiry⟩
  | _ => none

/-- When the token expires: the number of seconds if it lies in the calendar, else the local
time. -/
def AzToken.expiresAt (t : AzToken) (zone : Zone) : Except Error Timestamp :=
  match t.expiry.bind Timestamp.ofSeconds? with
  | some expiry => .ok expiry
  | none =>
    match t.localExpiry.bind fun s => (LocalText.read? (Text.trimChars s.toList)).bind
        zone.timestamp? with
    | some expiry => .ok expiry
    | none => .error (badExpiry .az t.localExpiry)

/-- A token as `azd` writes it. -/
structure AzdToken where
  token : String
  expiry : String
deriving DecidableEq, Repr

/-- Reads a token as `azd` writes it. -/
def AzdToken.ofDocument? (d : Document) : Option AzdToken := do
  match ← d.fields? ["token", "expiresOn"] with
  | [token, expiry] => return ⟨← required Document.text? token, ← required Document.text? expiry⟩
  | _ => none

/-- When the token expires. -/
def AzdToken.expiresAt (t : AzdToken) : Except Error Timestamp :=
  match Rfc3339.read? (Text.trim t.expiry) with
  | some expiry => .ok expiry
  | none => .error (badExpiry .azd (some t.expiry))

/-- The secret and the expiry in the output of a tool. -/
def readOutput (tool : Tool) (zone : Zone) (stdout : List UInt8) :
    Except Error (String × Timestamp) :=
  match tool with
  | .az => match (Document.read? stdout).bind AzToken.ofDocument? with
    | none => .error .json
    | some t => (t.expiresAt zone).map fun expiry => (t.accessToken, expiry)
  | .azd => match (Document.read? stdout).bind AzdToken.ofDocument? with
    | none => .error .json
    | some t => t.expiresAt.map fun expiry => (t.token, expiry)

/-! ### Runs -/

/-- Whether a text is a part of another. -/
def isPart (part : List Char) : List Char → Bool
  | [] => part.isEmpty
  | c :: cs => part.isPrefixOf (c :: cs) || isPart part cs

/-- Whether a tool says that nobody has logged in. -/
def asksForLogin (tool : Tool) (stderr : String) : Bool :=
  isPart tool.login.toList stderr.toList || isPart "not logged in".toList stderr.toList

/-- The error of a run that failed. -/
def failure (s : ToolSource) (status : ExitStatus) (stderr : String) : Error :=
  if asksForLogin s.tool stderr then
    .unavailable s.tool.credential ("not logged in, run '" ++ s.tool.login ++ "'")
  else
    let line := (Text.lines stderr).find? fun l => !Text.allBlank l
    .unauthorized s.tool.credential none
      (line.getD (s.program ++ " exited with " ++ status.text))

/-- What comes of a run: the output, or an error. -/
def result (s : ToolSource) : ToolOutcome → Except Error (List UInt8)
  | .missing => .error (.unavailable s.tool.credential (s.program ++ " was not found on PATH"))
  | .notExecutable => .error (.unavailable s.tool.credential
      ("failed to start " ++ s.program ++ ": Permission denied (os error 13)"))
  | .exited status stdout stderr =>
    if status.isSuccess then .ok stdout
    else .error (s.failure status (Text.trim (Text.Utf8.decodeLossy stderr)))

/-- Runs the tool within the bounds of a request. -/
def run (s : ToolSource) (r : Request) (args : List String) :
    Task Surroundings (Except Error (List UInt8)) :=
  r.within s.tool.credential (some s.timeout) <|
    (Surroundings.onTools (Tools.run s.tool r.cancel s.program args)).bind fun outcome =>
      .done (s.result outcome)

/-- Gets a token. -/
def fetch (s : ToolSource) (r : Request) : Task Surroundings (Except Error Token) :=
  match s.arguments r with
  | .error e => .done (.error e)
  | .ok args => (s.run r args).bind fun
    | .error e => .done (.error e)
    | .ok stdout => .step id fun around =>
      match readOutput s.tool around.zone stdout with
      | .error e => .done (.error e)
      | .ok (secret, expiry) => .done (.ok ⟨secret, expiry, r.scopes⟩)

/-- Whether a call has run out of time. -/
def ranOut : Except Error Token → Bool
  | .error e => e.isTimeout
  | .ok _ => false

/-- The source. -/
def source (s : ToolSource) : Source Surroundings where
  name := s.tool.credential
  kind := s.tool.kind
  getToken r := (Source.reported s.tool.credential (s.fetch r)).bind fun result =>
    (Surroundings.onTools (Task.modify (Tools.close r.cancel (ranOut result)))).bind fun _ =>
      .done result

end ToolSource

end TokenChain
