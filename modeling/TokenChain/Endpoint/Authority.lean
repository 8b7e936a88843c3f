import TokenChain.Endpoint.Grant
import TokenChain.Url.Parser

/-! # The authority

The token endpoint of a tenant at the authority, and the message that asks it for a token. -/

namespace TokenChain.Endpoint

/-- How messages say who sends them, unless something else is asked for. -/
def userAgent : String := "azure-credential-chain/0.1.0"

/-- Whether a tenant may stand in an address or on a command line. -/
def isTenant (tenant : String) : Bool :=
  !tenant.isEmpty && tenant.toList.all fun c => c.isAlphanum || c == '-' || c == '.'

/-- Refuses a tenant that may not stand in an address. -/
def checkTenant (tenant : String) : Except Error Unit :=
  if isTenant tenant then .ok ()
  else .error (.config ("Invalid tenant id: " ++ Text.Quoted.encode tenant))

/-- The token endpoint of a tenant. -/
def tokenUrl (authority : Url) (tenant : String) : Except Error Url := do
  checkTenant tenant
  match authority.join (tenant ++ "/oauth2/v2.0/token") with
  | .ok url => return url
  | .error e => throw (.config ("Invalid authority host " ++ authority.text ++ ": " ++ e.message))

/-- The message that asks for a token for a client, with what proves that the client asks. -/
def grantMessage (url : Url) (agent : String) (proof : List (String × String))
    (scopes : List String) : Message where
  method := "POST"
  url := url.text
  headers := [("content-type", "application/x-www-form-urlencoded"), ("user-agent", agent)]
  body := some (Text.FormEncoded.encodePairs
    (("grant_type", "client_credentials") :: (proof ++ [("scope", " ".intercalate scopes)])))

/-- Asks the authority for a token. -/
def authorityToken (credential agent : String) (authority : Url) (tenant : String)
    (proof : List (String × String)) (scopes : List String) :
    Task Surroundings (Except Error Token) :=
  match tokenUrl authority tenant with
  | .error e => .done (.error e)
  | .ok url => call credential .authority scopes (grantMessage url agent proof scopes)

end TokenChain.Endpoint
