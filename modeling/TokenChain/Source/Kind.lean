/-! # Kinds of sources

The mechanisms from which tokens come. -/

namespace TokenChain

/-- The mechanism behind a source. -/
inductive SourceKind where
  | environment
  | workloadIdentity
  | managedIdentity
  | azureCli
  | azureDeveloperCli
  | explicit
deriving DecidableEq, Repr, Inhabited

namespace SourceKind

/-- The name of a kind. -/
def name : SourceKind → String
  | environment => "environment"
  | workloadIdentity => "workload_identity"
  | managedIdentity => "managed_identity"
  | azureCli => "azure_cli"
  | azureDeveloperCli => "azure_developer_cli"
  | explicit => "explicit"

/-- The name of a kind in descriptions. -/
def label : SourceKind → String
  | environment => "Environment"
  | workloadIdentity => "WorkloadIdentity"
  | managedIdentity => "ManagedIdentity"
  | azureCli => "AzureCli"
  | azureDeveloperCli => "AzureDeveloperCli"
  | explicit => "Explicit"

/-- Whether the kind relies on a developer's login. -/
def isDeveloperTool : SourceKind → Bool
  | azureCli | azureDeveloperCli => true
  | _ => false

end SourceKind

end TokenChain
