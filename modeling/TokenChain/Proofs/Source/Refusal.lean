import TokenChain.Proofs.Source.Account
import TokenChain.Proofs.Source.Command
import TokenChain.Proofs.Task.Concluding

/-! # Requests that are refused

A managed identity and the developer tools check a request before they do anything else, whatever
their gates, the wire and the tools are like. `Member.Refuses` says which requests they refuse. A
call with such a request ends with a complaint about the request (`Member.concludes_of_refuses`): it
never waits, sends nothing, starts nothing, leaves all gates as they are, and writes the report of
its outcome and nothing else. -/

namespace TokenChain

open TokenChain.Task TokenChain.Surroundings

/-- **Nothing is touched** but the list of runs that are over: no message is sent, no tool is
started, and all gates stay as they are. -/
structure Surroundings.Untouched (s s' : Surroundings) : Prop extends s.Still s' where
  gates : s'.gates = s.gates

namespace Surroundings

theorem Untouched.refl (s : Surroundings) : s.Untouched s := ⟨.refl s, rfl⟩

theorem untouched_close (key : CancelKey) (timedOut : Bool) (s : Surroundings) :
    s.Untouched { s with tools := s.tools.close key timedOut } := ⟨still_close key timedOut s, rfl⟩

end Surroundings

/-! ### What is refused -/

/-- **What a member refuses**: a managed identity and one tool ask for a single scope that may be
handed on, the other tool for scopes all of which may be, and both tools for a tenant that may be
named if there is one. -/
inductive Member.Refuses (r : Request) : Member → Prop
  | identity {s : ManagedIdentitySource} (unfit : ¬ ∃ scope, r.scopes = [scope] ∧ Scope.Fit scope) :
      Refuses r (.managedIdentity s)
  | az {s : ToolSource} (tool : s.tool = .az)
      (unfit : ¬ ∃ scope, r.scopes = [scope] ∧ Scope.Fit scope) : Refuses r (.tool s)
  | azd {s : ToolSource} (tool : s.tool = .azd)
      (unfit : r.scopes = [] ∨ ∃ scope ∈ r.scopes, ¬ Scope.Fit scope) : Refuses r (.tool s)
  | tenant {s : ToolSource} {tenant : String} (named : s.tenantId = some tenant)
      (unfit : ¬ Endpoint.FitTenant tenant) : Refuses r (.tool s)

theorem ManagedIdentitySource.fetch_of_unfit (s : ManagedIdentitySource) {r : Request}
    (unfit : ¬ ∃ scope, r.scopes = [scope] ∧ Scope.Fit scope) :
    ∃ message, s.fetch r = .done (.error (.config message)) := by
  obtain ⟨message, refused⟩ := Scope.resource_of_refused credential unfit
  exact ⟨message, by rw [fetch, Request.resource, refused]⟩

theorem ToolSource.isEmpty_command {s : ToolSource} {r : Request}
    (refuses : (Member.tool s).Refuses r) : IsEmpty (s.Command r) := by
  refine ⟨fun ⟨values, takes, tenants⟩ => ?_⟩
  cases refuses with
  | az tool unfit =>
    rw [tool] at takes
    generalize r.scopes = scopes at unfit takes
    cases takes with
    | az fit names => exact unfit ⟨_, rfl, fit⟩
  | azd tool unfit =>
    rw [tool] at takes
    generalize r.scopes = scopes at unfit takes
    cases takes with
    | azd filled fit =>
      obtain empty | ⟨scope, here, unfit⟩ := unfit
      · exact filled empty
      · exact unfit (fit scope here)
  | tenant named unfit => exact unfit (tenants _ named)

theorem ToolSource.fetch_of_refuses {s : ToolSource} {r : Request}
    (refuses : (Member.tool s).Refuses r) :
    ∃ message, s.fetch r = .done (.error (.config message)) := by
  obtain ⟨c, -⟩ | ⟨-, message, refused⟩ := s.arguments_cases r
  · exact ((isEmpty_command refuses).false c).elim
  · exact ⟨message, by rw [fetch, refused]⟩

/-! ### Calls that are refused -/

/-- What a call writes that ends with `x` at once. -/
def Source.Reports (name : String) (x : Except Error Token) (ns : List Note)
    (y : Except Error Token) : Prop :=
  y = x ∧ ∃ elapsed, ns = [Source.report name elapsed x]

namespace Source

theorem concludes_reported (name : String) (x : Except Error Token) :
    (reported name (.done x)).Concludes Untouched x 3 :=
  .look fun _ => .look fun _ => .note (.done 0)

theorem yields_reported_done (name : String) (x : Except Error Token) :
    (reported name (.done x) : Task Surroundings _).Yields (Reports name x) :=
  fun _ _ => ⟨rfl, _, rfl⟩

end Source

/-- **A call that is refused** ends in four steps with a complaint about the request, touches
nothing, and writes the report of its outcome. -/
theorem Member.concludes_of_refuses {m : Member} {r : Request} (refuses : m.Refuses r) :
    ∃ message, (m.source.getToken r).Concludes Untouched (.error (.config message)) 4 ∧
      (m.source.getToken r).Yields (Source.Reports m.source.name (.error (.config message))) := by
  cases m with
  | managedIdentity s =>
    obtain ⟨message, refused⟩ : ∃ message, s.fetch r = .done (.error (.config message)) := by
      cases refuses with
      | identity unfit => exact s.fetch_of_unfit unfit
    have call : s.source.getToken r = Source.reported ManagedIdentitySource.credential
        (.done (.error (.config message))) := by
      rw [← refused]
      rfl
    refine ⟨message, ?_⟩
    rw [source, call]
    exact ⟨(Source.concludes_reported _ _).mono (Nat.le_succ 3), Source.yields_reported_done _ _⟩
  | tool s =>
    obtain ⟨message, refused⟩ := ToolSource.fetch_of_refuses refuses
    have call : s.source.getToken r =
        (Source.reported s.tool.credential (.done (.error (.config message)))).bind fun result =>
        (onTools (Task.modify (Tools.close r.cancel (ToolSource.ranOut result)))).bind
            fun _ => .done result := by
      rw [← refused]
      rfl
    refine ⟨message, ?_⟩
    rw [source, call]
    constructor
    · refine Concludes.bind (Source.concludes_reported _ _) (k := 1) ?_
      exact .step (fun around => untouched_close _ _ around) fun _ => .done 0
    · refine Yields.bind ((Source.yields_reported_done _ _).mono ?_)
      rintro _ _ ⟨rfl, elapsed, rfl⟩
      exact fun _ => ⟨rfl, elapsed, rfl⟩
  | environment | workload | explicit | rehearsed => cases refuses

end TokenChain
