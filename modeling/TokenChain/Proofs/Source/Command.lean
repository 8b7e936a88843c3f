import TokenChain.Proofs.Endpoint.Tenant
import TokenChain.Proofs.Scope
import TokenChain.Proofs.Source.Attempts

/-! # The command lines of developer tools

A tool is run with fixed words, with what the request asks for, and with a tenant if there is one in
the settings. A `ToolSource.Command` is what these may be, so it stands for a command line that
passes all checks, and the source makes no other one (`ToolSource.arguments_cases`).

A text that begins with a dash is an option to the tool. What comes from the request never does,
although the resource is cut out of a scope after the check. The check of tenants looks at the
characters only: a tenant may begin with a dash, and it is all on the command line that can
(`ToolSource.undashed_of_leads`). -/

namespace TokenChain

/-! ### Command lines -/

namespace Tool

/-- What a tool is to do. -/
def verb : Tool → List String
  | .az => ["account", "get-access-token", "--output", "json"]
  | .azd => ["auth", "token", "--output", "json", "--no-prompt"]

/-- The option that names what a token is for. -/
def subject : Tool → String
  | .az => "--resource"
  | .azd => "--scope"

/-- The option that names a tenant. -/
def realm : Tool → String
  | .az => "--tenant"
  | .azd => "--tenant-id"

/-- **What a tool is asked for**: one tool takes the resource of a single scope, and the other one
takes scopes. -/
inductive Takes : Tool → List String → List String → Prop
  | az {scope resource : String} (fit : Scope.Fit scope) (names : Scope.Names scope resource) :
      Takes .az [scope] [resource]
  | azd {scopes : List String} (filled : scopes ≠ []) (fit : ∀ scope ∈ scopes, Scope.Fit scope) :
      Takes .azd scopes scopes

theorem Takes.undashed {tool : Tool} {scopes values : List String}
    (takes : tool.Takes scopes values) : ∀ value ∈ values, ¬ ['-'] <+: value.toList := by
  cases takes with
  | az fit names =>
    intro value here dashed
    cases List.mem_singleton.mp here
    exact fit.undashed (dashed.trans names.isPrefix)
  | azd filled fit => exact fun value here => (fit value here).undashed

end Tool

namespace ToolSource

open TokenChain.Task TokenChain.Surroundings

/-- **A command line** for a request: what the tool is asked for, and a tenant that may be named. -/
structure Command (s : ToolSource) (r : Request) where
  values : List String
  takes : s.tool.Takes r.scopes values
  tenant : ∀ tenant ∈ s.tenantId, Endpoint.FitTenant tenant

namespace Command

variable {s : ToolSource} {r : Request}

/-- The arguments of a command line. -/
def line (c : s.Command r) : List String :=
  s.tool.verb ++ (c.values.flatMap fun value => [s.tool.subject, value]) ++
    s.tenantId.toList.flatMap fun tenant => [s.tool.realm, tenant]

/-- The arguments that come from the request or the settings. -/
def outside (c : s.Command r) : List String := c.values ++ s.tenantId.toList

end Command

/-! ### The checks -/

/-- What a tool is asked for, if the request passes the check of scopes. -/
def asked (s : ToolSource) (r : Request) : Except Error (List String) :=
  match s.tool with
  | .az => (r.resource s.tool.credential).map fun resource => [resource]
  | .azd => Scope.validated s.tool.credential r.scopes

theorem arguments_eq (s : ToolSource) (r : Request) :
    s.arguments r = do
      let values ← s.asked r
      let tenant ← tenantArguments s.tool.realm s.tenantId
      return s.tool.verb ++ (values.flatMap fun value => [s.tool.subject, value]) ++ tenant := by
  obtain ⟨tool, program, tenantId, timeout⟩ := s
  cases tool with
  | az =>
    rw [arguments, asked]
    dsimp only
    cases r.resource Tool.az.credential <;> rfl
  | azd => rfl

theorem asked_cases (s : ToolSource) (r : Request) :
    (∃ values, s.tool.Takes r.scopes values ∧ s.asked r = .ok values) ∨
      (∀ values, ¬ s.tool.Takes r.scopes values) ∧
      ∃ message, s.asked r = .error (.config message) := by
  obtain ⟨tool, program, tenantId, timeout⟩ := s
  obtain ⟨scopes, deadline, cancel⟩ := r
  cases tool with
  | az =>
    by_cases accepted : ∃ scope, scopes = [scope] ∧ Scope.Fit scope
    · obtain ⟨scope, rfl, fit⟩ := accepted
      have found : Scope.resource Tool.az.credential [scope] = .ok _ :=
        Scope.resource_eq_ok_iff.mpr ⟨scope, rfl, fit, Scope.names_iff.mpr rfl⟩
      exact .inl ⟨_, .az fit (Scope.names_iff.mpr rfl), by rw [asked, Request.resource, found]; rfl⟩
    · obtain ⟨message, refused⟩ := Scope.resource_of_refused Tool.az.credential accepted
      refine .inr ⟨?_, message, by rw [asked, Request.resource, refused]; rfl⟩
      rintro _ ⟨fit, -⟩
      exact accepted ⟨_, rfl, fit⟩
  | azd =>
    obtain ⟨⟨filled, fit⟩, accepted⟩ | ⟨unfit, refused⟩ :=
      Scope.validated_cases Tool.azd.credential scopes
    · exact .inl ⟨scopes, .azd filled fit, accepted⟩
    · refine .inr ⟨?_, refused⟩
      rintro _ ⟨⟩
      next filled fit =>
        obtain empty | ⟨scope, here, unfit⟩ := unfit
        · exact filled empty
        · exact unfit (fit scope here)

theorem tenantArguments_cases (option : String) (tenantId : Option String) :
    ((∀ tenant ∈ tenantId, Endpoint.FitTenant tenant) ∧
        tenantArguments option tenantId =
          .ok (tenantId.toList.flatMap fun tenant => [option, tenant])) ∨
      (¬ ∀ tenant ∈ tenantId, Endpoint.FitTenant tenant) ∧
        ∃ message, tenantArguments option tenantId = .error (.config message) := by
  cases tenantId with
  | none => exact .inl ⟨nofun, rfl⟩
  | some tenant =>
    by_cases fit : Endpoint.FitTenant tenant
    · refine .inl ⟨by rintro _ ⟨⟩; exact fit, ?_⟩
      rw [tenantArguments, Endpoint.checkTenant_eq_ok_iff.mpr fit]
      rfl
    · obtain ⟨message, refused⟩ := Endpoint.checkTenant_of_not_fit fit
      exact .inr ⟨fun fits => fit (fits tenant rfl), message, by rw [tenantArguments, refused]; rfl⟩

/-- **The arguments of a run** make a command line, or there is none for the request and it is not
acceptable. -/
theorem arguments_cases (s : ToolSource) (r : Request) :
    (∃ c : s.Command r, s.arguments r = .ok c.line) ∨
      IsEmpty (s.Command r) ∧ ∃ message, s.arguments r = .error (.config message) := by
  rw [arguments_eq]
  obtain ⟨values, takes, accepted⟩ | ⟨none, message, refused⟩ := s.asked_cases r
  · rw [accepted]
    obtain ⟨tenant, accepted⟩ | ⟨unfit, message, refused⟩ :=
      tenantArguments_cases s.tool.realm s.tenantId
    · exact .inl ⟨⟨values, takes, tenant⟩, by rw [accepted]; rfl⟩
    · exact .inr ⟨⟨fun c => unfit c.tenant⟩, message, by rw [refused]; rfl⟩
  · rw [refused]
    exact .inr ⟨⟨fun c => none c.values c.takes⟩, message, rfl⟩

/-! ### Options -/

theorem Command.dashed_iff {s : ToolSource} {r : Request} (c : s.Command r) :
    (∃ value ∈ c.outside, ['-'] <+: value.toList) ↔
      ∃ tenant ∈ s.tenantId, ['-'] <+: tenant.toList := by
  have undashed := c.takes.undashed
  constructor
  · rintro ⟨value, here, dashed⟩
    obtain asked | tenant := List.mem_append.mp here
    · exact absurd dashed (undashed value asked)
    · exact ⟨value, Option.mem_toList.mp tenant, dashed⟩
  · rintro ⟨tenant, named, dashed⟩
    exact ⟨tenant, List.mem_append_right _ (Option.mem_toList.mpr named), dashed⟩

/-! ### Runs -/

/-- **What a step of a call may do to the tools**: begin a run with a command line, or begin
none. -/
inductive Operates (s : ToolSource) (r : Request) (a b : Surroundings) : Prop
  | rests (fewer : b.tools.begun.Sublist a.tools.begun)
  | starts (c : s.Command r)
      (begun : b = { a with tools := a.tools.start s.tool r.cancel s.program c.line })

/-- A run begins once, and nothing else touches the runs that are going on. -/
theorem operates_run (s : ToolSource) {r : Request} (c : s.Command r) :
    (s.run r c.line).Spends (fun _ => s.Operates r) 0 := by
  have starts :
      (onTools (Tools.run s.tool r.cancel s.program c.line)).Spends (fun _ => s.Operates r) 0 := by
    refine ⟨0, Nat.le_refl 0, fun a => .starts c rfl, fun a => ?_⟩
    dsimp only
    cases a.tools.nextOutcome s.tool with
    | none => exact ⟨fun b => .rests (List.Sublist.refl _), fun _ => trivial⟩
    | some outcome => trivial
  refine Spends.within ?_ r _ _
  exact starts.bind_free fun _ => trivial

theorem operates_getToken (s : ToolSource) (r : Request) :
    (s.source.getToken r).Spends (fun _ => s.Operates r) 0 := by
  have fetches : (s.fetch r).Spends (fun _ => s.Operates r) 0 := by
    rw [fetch]
    obtain ⟨c, accepted⟩ | ⟨-, message, refused⟩ := s.arguments_cases r
    · rw [accepted]
      refine (s.operates_run c).bind_free fun result => ?_
      cases result with
      | error e => trivial
      | ok stdout =>
        refine ⟨0, Nat.le_refl 0, fun a => .rests (List.Sublist.refl _), fun around => ?_⟩
        dsimp only
        cases readOutput s.tool around.zone stdout with
        | error e => trivial
        | ok found => trivial
    · rw [refused]
      trivial
  refine (spends_reported _ fetches).bind_free fun result => ?_
  exact ⟨0, Nat.le_refl 0, fun a => .rests List.filter_sublist, fun _ => trivial⟩

/-- **Whatever starts a tool**, in any call for any request and at any moment, is the source's own
tool with a command line that has passed the checks. Nothing in it that comes from outside looks
like an option, unless the tenant does. -/
theorem undashed_of_leads (s : ToolSource) (r : Request) {h : History Surroundings}
    {u : Task Surroundings (Except Error Token)} (leads : (s.source.getToken r).Leads h u) :
    ∀ p ∈ h, p.2.state.tools.begun.Sublist p.1.state.tools.begun ∨
      ∃ c : s.Command r, p.2.state = { p.1.state with
          tools := p.1.state.tools.start s.tool r.cancel s.program c.line } ∧
        (∀ value ∈ c.values, ¬ ['-'] <+: value.toList) ∧
        ((∃ value ∈ c.outside, ['-'] <+: value.toList) ↔
          ∃ tenant ∈ s.tenantId, ['-'] <+: tenant.toList) := by
  have steps := (s.operates_getToken r).of_mem (fun a => .rests (List.Sublist.refl _)) leads
  intro p taken
  cases steps p taken with
  | rests fewer => exact .inl fewer
  | starts c begun => exact .inr ⟨c, begun, c.takes.undashed, c.dashed_iff⟩

/-- A tool with a tenant that looks like an option. -/
def dashing : ToolSource := { standard .az with tenantId := some "-x" }

/-- The tool is there, and a run of it never ends. -/
def workshop : World Surroundings :=
  .initial ⟨0⟩ (.ofCapacity 8) ⟨.fixed 0, ⟨[], []⟩, .initial, ⟨[none], [], [], []⟩,
    fun _ => .untested, fun _ => []⟩

/-- The third step of a call has begun a run. -/
def workshopBusy : World Surroundings :=
  { workshop with state := { workshop.state with
      tools := workshop.state.tools.start .az 0 "az"
        ["account", "get-access-token", "--output", "json", "--resource", "s", "--tenant", "-x"] } }

/-- **An option in the place of a tenant**: the tool is started with it. -/
theorem undashed_of_leads_dashing :
    ∃ h u, (dashing.source.getToken ⟨["s"], none, 0⟩).Leads h u ∧ ∃ p ∈ h,
      p.2.state.tools.begun =
        [(0, ⟨"az", some ["account", "get-access-token", "--output", "json", "--resource", "s",
          "--tenant", "-x"]⟩)] ∧
      ∃ c : dashing.Command ⟨["s"], none, 0⟩, ∃ value ∈ c.outside, ['-'] <+: value.toList := by
  have leads : (dashing.source.getToken ⟨["s"], none, 0⟩).Leads
      [(workshop, workshop), (workshop, workshop), (workshop, workshopBusy)] _ :=
    .step rfl (.step rfl (.step rfl (.refl _)))
  have third :
      (workshop, workshopBusy) ∈ [(workshop, workshop), (workshop, workshop),
        (workshop, workshopBusy)] :=
    List.mem_cons_of_mem _ (List.mem_cons_of_mem _ List.mem_cons_self)
  refine ⟨_, _, leads, _, third, rfl, ?_⟩
  obtain fewer | ⟨c, -, -, dashed⟩ := undashed_of_leads dashing _ leads _ third
  · exact absurd fewer.length_le (by decide)
  · exact ⟨c, dashed.mpr ⟨"-x", rfl, by decide⟩⟩

end ToolSource

end TokenChain
