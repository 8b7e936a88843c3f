import TokenChain.Endpoint.Authority
import TokenChain.Proofs.Url.Reference

/-! # The token endpoint of a tenant

The endpoint of a tenant is found as a reference is: the tenant is the first segment of a relative
path that is resolved below the authority. The check of tenants accepts what stands for itself in a
reference (`Endpoint.checkTenant_eq_ok_iff`), so the segments are followed as they are written. But
it also accepts `.` and `..`, and only for these two a tenant does not lead to a directory of its
own (`Endpoint.endpoint_of_authority`). -/

namespace TokenChain

namespace Endpoint

/-- **A tenant that may stand in an address** or on a command line: it is not empty, and it stands
for itself. -/
structure FitTenant (tenant : String) : Prop where
  filled : tenant ≠ ""
  literal : Url.Literal tenant.toList

/-! ### The check -/

theorem isTenant_iff_fit {tenant : String} : isTenant tenant = true ↔ FitTenant tenant := by
  have filled : tenant.isEmpty = true ↔ tenant = "" := String.isEmpty_iff
  rw [isTenant, Bool.and_eq_true, Bool.not_eq_true', ← Bool.not_eq_true, filled,
    Url.all_iff_literal]
  exact ⟨fun ⟨filled, literal⟩ => ⟨filled, literal⟩, fun h => ⟨h.filled, h.literal⟩⟩

theorem checkTenant_eq_ok_iff {tenant : String} :
    checkTenant tenant = .ok () ↔ FitTenant tenant := by
  rw [← isTenant_iff_fit, checkTenant]
  split_ifs with accepted
  · simp [accepted]
  · simp [accepted]

/-- A tenant that is refused is refused as a setting that is not acceptable. -/
theorem checkTenant_of_not_fit {tenant : String} (unfit : ¬ FitTenant tenant) :
    ∃ message, checkTenant tenant = .error (.config message) := by
  rw [checkTenant, if_neg fun accepted => unfit (isTenant_iff_fit.mp accepted)]
  exact ⟨_, rfl⟩

/-! ### The endpoint -/

/-- What is below a tenant at the authority. -/
def tokenPath : List String := ["oauth2", "v2.0", "token"]

theorem splitPath_reference (special : Bool) {tenant : String}
    (literal : Url.Literal tenant.toList) :
    Url.splitPath special (Url.clean (tenant ++ "/oauth2/v2.0/token")) =
      (tenant :: tokenPath).map String.toList := by
  have whole :
      (tenant ++ "/oauth2/v2.0/token").toList = tenant.toList ++ '/' ::
        "oauth2/v2.0/token".toList :=
    String.toList_append
  have printed : ∀ c ∈ (tenant ++ "/oauth2/v2.0/token").toList, 0x20 < c.toNat := by
    intro c here
    rw [whole, List.mem_append] at here
    cases here with
    | inl here => exact Url.blank_lt_of_literal literal c here
    | inr here =>
      have visible :
          ('/' :: "oauth2/v2.0/token".toList).all (fun c => decide (0x20 < c.toNat)) = true := by
        decide
      exact of_decide_eq_true (List.all_eq_true.mp visible c here)
  rw [Url.clean_of_forall_lt printed, whole, Url.splitPath_literal special literal]
  cases special <;> rfl

theorem literal_tokenPath : ∀ segment ∈ tokenPath, Url.Literal segment.toList := by
  simp only [← Url.all_iff_literal]
  decide

theorem named_tokenPath : ∀ segment ∈ tokenPath, segment ≠ "." ∧ segment ≠ ".." := by decide

theorem tokenUrl_of_fit {base : Url} {dirs names : List String} (path : base.path = .segments names)
    (directory : Url.Directory dirs names) {tenant : String} (fit : FitTenant tenant) :
    tokenUrl base tenant =
      .ok { base with path := .segments (Url.follow dirs tenant ++ tokenPath),
                      query := none, fragment := none } := by
  have literal : ∀ segment ∈ tenant :: tokenPath, Url.Literal segment.toList :=
    List.forall_mem_cons.mpr ⟨fit.literal, literal_tokenPath⟩
  have named :
      ∀ segment, (tenant :: tokenPath).getLast? = some segment → segment ≠ "." ∧ segment ≠ ".." :=
    fun segment last => named_tokenPath segment (List.mem_of_getLast? last)
  have joined := Url.join_literal path directory (splitPath_reference _ fit.literal) literal named
  rw [List.foldl_cons, Url.foldl_follow_of_named _ named_tokenPath] at joined
  rw [tokenUrl, checkTenant_eq_ok_iff.mpr fit, joined]
  rfl

/-- **The token endpoint of a tenant** that passes the check, at any authority that has directories
and nothing behind them: it lies where the tenant leads below the directory of the authority, and
all but the path is the authority's. The tenant leads to a directory of its own unless it is `.` or
`..`. -/
theorem endpoint_of_authority {c : Config} {base : Url} (authority : c.authorityUrl = .ok base)
    {names : List String} (hierarchical : base.path = .segments names) (query : base.query = none)
    (fragment : base.fragment = none) {tenant : String} (accepted : checkTenant tenant = .ok ()) :
    ∃ dirs, Url.Directory dirs names ∧
      tokenUrl base tenant =
        .ok { base with path := .segments (Url.follow dirs tenant ++ tokenPath) } ∧
      (Url.follow dirs tenant = dirs ++ [tenant] ↔ tenant ≠ "." ∧ tenant ≠ "..") := by
  obtain ⟨dirs, directory⟩ := Config.exists_directory authority hierarchical query fragment
  refine ⟨dirs, directory, ?_, Url.follow_eq_append_iff⟩
  rw [tokenUrl_of_fit hierarchical directory (checkTenant_eq_ok_iff.mp accepted)]
  simp only [query, fragment]

/-- An authority with no directory, at a host that is written as an address. -/
def loopback : Config := { Config.standard with authorityHost := "https://[::1]" }

/-- The address of `loopback`. -/
def loopbackUrl : Url := ⟨"https", "", "", some "[::1]", none, .segments [""], none, none⟩

theorem authorityUrl_loopback : loopback.authorityUrl = .ok loopbackUrl := by
  have read : loopback.authorityUrl.toOption = some loopbackUrl := by decide +kernel
  cases address : loopback.authorityUrl with
  | ok url =>
    rw [address] at read
    cases read
    rfl
  | error e => rw [address] at read; cases read

/-- **A tenant without a directory**: `..` passes the check, and the endpoint has no tenant in its
path. -/
theorem endpoint_of_authority_dots : checkTenant ".." = .ok () ∧ ∃ dirs, Url.Directory dirs [""] ∧
    tokenUrl loopbackUrl ".." =
      .ok { loopbackUrl with path := .segments (Url.follow dirs ".." ++ tokenPath) } ∧
    Url.follow dirs ".." ≠ dirs ++ [".."] := by
  have accepted : checkTenant ".." = .ok () := rfl
  obtain ⟨dirs, directory, found, own⟩ :=
    endpoint_of_authority authorityUrl_loopback rfl rfl rfl accepted
  exact ⟨accepted, dirs, directory, found, fun same => (own.mp same).2 rfl⟩

end Endpoint

end TokenChain
