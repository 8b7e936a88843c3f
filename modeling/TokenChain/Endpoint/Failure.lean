import TokenChain.Error
import TokenChain.Json.Record
import TokenChain.Text.Blank
import TokenChain.Text.Lines

/-! # Refusals of token endpoints

What a response that grants no token says. `errorMessage` takes the message out of the body: an
error code and a description where the body is a record of them, and otherwise the body itself, cut
after 512 characters. `classify` makes an error of the status; the metadata service and app services
say with 400 and 404 that there is no identity. -/

namespace TokenChain.Endpoint

open TokenChain.Json

/-- Who answers. -/
inductive Family where
  | authority
  | managedIdentity
deriving DecidableEq, Repr, Inhabited

/-- A body that says what is wrong. -/
structure ErrorBody where
  code : Option Value
  description : Option String
  remark : Option String

/-- Reads a body that says what is wrong. -/
def ErrorBody.ofDocument? (d : Document) : Option ErrorBody := do
  match ← d.fields? ["error", "error_description", "message"] with
  | [code, description, remark] =>
    return ⟨← optional (Value.ofDocument? depthInRecord) code,
      ← optional Document.text? description, ← optional Document.text? remark⟩
  | _ => none

/-- An error code as text: a text itself, the message inside an object, or the value as it is
written. -/
def codeText (v : Value) : String :=
  match v with
  | .string s => s
  | v => ((v.member? "message").bind Value.string?).getD v.write

/-- The message of a body that says what is wrong; of a description only the first line counts. -/
def ErrorBody.message? (b : ErrorBody) : Option String :=
  match b.code.map codeText, b.description.or b.remark with
  | some code, some detail => some (code ++ ": " ++ Text.firstLine detail)
  | some code, none => some code
  | none, some detail => some (Text.firstLine detail)
  | none, none => none

/-- The characters of a body that are kept. -/
def keptCharacters : Nat := 512

/-- A body as a message of its own. -/
def plainMessage (body : String) : String :=
  match Text.trimChars body.toList with
  | [] => "empty response body"
  | cs => String.ofList (cs.take keptCharacters)

/-- The message in the body of a refusal. -/
def errorMessage (body : String) : String :=
  let record := (Document.read? (Text.Utf8.encode body)).bind ErrorBody.ofDocument?
  (record.bind ErrorBody.message?).getD (plainMessage body)

/-- Whether a status grants a token. -/
def isSuccess (status : Nat) : Bool := 200 ≤ status && status < 300

/-- Whether a status is expected to pass. -/
def isTransient (status : Nat) : Bool :=
  status == 410 || status == 429 || (500 ≤ status && status ≤ 599)

/-- The error of a response that grants no token. -/
def classify (credential : String) (family : Family) (status : Nat) (body : String) : Error :=
  let message := errorMessage body
  if family = .managedIdentity && status == 400 then
    .unavailable credential
      ("the requested identity is not assigned to this resource (" ++ message ++ ")")
  else if family = .managedIdentity && status == 404 then
    .unavailable credential ("managed identity endpoint not found (" ++ message ++ ")")
  else if isTransient status then .service credential status message
  else .unauthorized credential (some status) message

end TokenChain.Endpoint
