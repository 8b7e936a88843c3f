import TokenChain.Chain
import TokenChain.Source.Explicit
import TokenChain.Source.WorkloadIdentity
import TokenChain.Source.ManagedIdentity
import TokenChain.Source.DeveloperTool
import TokenChain.Source.Rehearsed

/-! # Members of chains

The sources of the library under one type, and the chain that settings ask for: client secret,
workload identity, managed identity and the developer tools, as far as the selection includes
them. -/

namespace TokenChain

/-- A source of the library with its settings. -/
inductive Member where
  | environment (s : EnvironmentSource)
  | workload (s : WorkloadSource)
  | managedIdentity (s : ManagedIdentitySource)
  | tool (s : ToolSource)
  | explicit (e : ExplicitToken)
  | rehearsed (s : RehearsedSource)
deriving Inhabited

namespace Member

/-- The source with its settings built in. -/
def source : Member → Source Surroundings
  | environment s => s.source
  | workload s => s.source
  | managedIdentity s => s.source
  | tool s => s.source
  | explicit e => e.source
  | rehearsed s => s.source

/-- The probe gate of a member, if it has one. -/
def gate? : Member → Option Nat
  | managedIdentity s => some s.gate
  | _ => none

/-- How often a call of the member waits at most. -/
def patience : Member → Nat
  | environment s => s.retry.patience Wire.patience
  | workload s => s.retry.patience Wire.patience
  | managedIdentity s => s.retry.patience Wire.patience + 2
  | tool _ | rehearsed _ => 1
  | explicit _ => 0

/-- The members that settings ask for; `gate` is the number of the managed identity's probe gate. -/
def ofConfig (c : Config) (gate : Nat) : Except Error (List Member) := do
  let pick (kind : SourceKind) (make : Except Error Member) : Except Error (List Member) :=
    if c.selection.includes kind then make.map fun m => [m] else .ok []
  let secret ← pick .environment ((EnvironmentSource.ofConfig c).map environment)
  let federated ← pick .workloadIdentity ((WorkloadSource.ofConfig c).map workload)
  let identity ← pick .managedIdentity ((ManagedIdentitySource.ofConfig c gate).map managedIdentity)
  let az ← pick .azureCli (.ok (tool (ToolSource.ofConfig c .az)))
  let azd ← pick .azureDeveloperCli (.ok (tool (ToolSource.ofConfig c .azd)))
  match secret ++ federated ++ identity ++ az ++ azd with
  | [] => throw (.config "credential selection excludes every available source")
  | members => return members

end Member

end TokenChain
