import TokenChain.Source.Kind
import TokenChain.Error
import TokenChain.Text.Blank
import TokenChain.Text.Quoted

/-! # Selections

Which kinds of sources a chain is built from. A selection says yes or no to each kind but the
explicit one, which is always in. `Selection.ofText` reads a selection as users write it: `dev`,
`prod` or the name of one kind, whatever the case and with or without underscores. -/

namespace TokenChain

/-- The kinds of sources in a chain. -/
structure Selection where
  environment : Bool
  workloadIdentity : Bool
  managedIdentity : Bool
  azureCli : Bool
  azureDeveloperCli : Bool
deriving DecidableEq, Repr, Inhabited

namespace Selection

/-- Every kind. -/
def all : Selection := ⟨true, true, true, true, true⟩

/-- No kind. -/
def none : Selection := ⟨false, false, false, false, false⟩

/-- The kinds that work for deployed services. -/
def production : Selection := ⟨true, true, true, false, false⟩

/-- The kinds that rely on a developer's login. -/
def developer : Selection := ⟨false, false, false, true, true⟩

/-- Whether a kind is in the selection. -/
def includes (s : Selection) : SourceKind → Bool
  | .environment => s.environment
  | .workloadIdentity => s.workloadIdentity
  | .managedIdentity => s.managedIdentity
  | .azureCli => s.azureCli
  | .azureDeveloperCli => s.azureDeveloperCli
  | .explicit => true

/-- The selection with a kind put in or left out. -/
def set (s : Selection) (kind : SourceKind) (value : Bool) : Selection :=
  match kind with
  | .environment => { s with environment := value }
  | .workloadIdentity => { s with workloadIdentity := value }
  | .managedIdentity => { s with managedIdentity := value }
  | .azureCli => { s with azureCli := value }
  | .azureDeveloperCli => { s with azureDeveloperCli := value }
  | .explicit => s

/-- The selection with a kind put in. -/
def insert (s : Selection) (kind : SourceKind) : Selection := s.set kind true

/-- The selection with a kind left out. -/
def erase (s : Selection) (kind : SourceKind) : Selection := s.set kind false

theorem includes_insert (s : Selection) (a b : SourceKind) :
    (s.insert a).includes b = (s.includes b || decide (b = a)) := by
  cases a <;> cases b <;> simp [insert, set, includes]

theorem includes_erase (s : Selection) (a b : SourceKind) :
    (s.erase a).includes b = (s.includes b && (decide (b ≠ a) || decide (b = .explicit))) := by
  cases a <;> cases b <;> simp [erase, set, includes]

/-- The characters of a selection that tell it apart from others. -/
def essence (text : String) : String :=
  String.ofList (((Text.trimChars text.toList).map Char.toLower).filter (· != '_'))

/-- Reads a selection. -/
def ofText (text : String) : Except Error Selection :=
  let only (kind : SourceKind) : Except Error Selection := .ok (none.insert kind)
  match essence text with
  | "dev" => .ok developer
  | "prod" => .ok production
  | "environmentcredential" | "environment" => only .environment
  | "workloadidentitycredential" | "workloadidentity" => only .workloadIdentity
  | "managedidentitycredential" | "managedidentity" => only .managedIdentity
  | "azureclicredential" | "azurecli" => only .azureCli
  | "azuredeveloperclicredential" | "azuredevelopercli" => only .azureDeveloperCli
  | _ =>
    .error (.config ("Invalid value for AZURE_TOKEN_CREDENTIALS: " ++ Text.Quoted.encode text ++
      " (expected dev, prod, or a credential name)"))

end Selection

end TokenChain
