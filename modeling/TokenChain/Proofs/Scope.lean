import Mathlib.Tactic.SplitIfs
import TokenChain.Request

/-! # Scopes and the resources that they name

What may be handed on is said here as a property of the text (`Scope.Fit`), and the check accepts
exactly these texts (`Scope.check_eq_ok_iff`); of several scopes all have to be such
(`Scope.validated_cases`). A scope names a resource (`Scope.Names`): it may end in `/.default`,
which is not part of the name.

The scope is checked and not its resource. All that the check promises goes over to the resource,
which is a beginning of the scope, except that there is anything left of it: `/.default` alone names
nothing, and it is the only such scope (`Request.named_of_resource`). -/

namespace TokenChain

namespace Scope

/-- **A text that may be handed on**: it is not empty, it does not look like an option, and it is
written in a small alphabet. -/
structure Fit (text : String) : Prop where
  filled : text ≠ ""
  undashed : ¬ ['-'] <+: text.toList
  plain : ∀ c ∈ text.toList, c.isAlphanum = true ∨ c ∈ ['.', '-', '_', ':', '/']

/-- **What resource a scope names**: the scope without the ending of a default scope, or the scope
if it does not end so. -/
inductive Names : String → String → Prop
  | byDefault (resource : String) : Names (resource ++ "/.default") resource
  | whole {scope : String} (bare : ¬ defaultSuffix <:+ scope.toList) : Names scope scope

/-! ### The check -/

theorem isScopeChar_iff {c : Char} :
    isScopeChar c = true ↔ c.isAlphanum = true ∨ c ∈ ['.', '-', '_', ':', '/'] := by
  simp only [isScopeChar, Bool.or_eq_true, beq_iff_eq, List.mem_cons,
    List.not_mem_nil, or_false, or_assoc]

theorem head?_eq_dash_iff {cs : List Char} : cs.head? = some '-' ↔ ['-'] <+: cs := by
  cases cs with
  | nil => simp
  | cons c cs => simp [List.cons_prefix_cons, eq_comm]

theorem isValid_iff_fit {scope : String} : isValid scope = true ↔ Fit scope := by
  have filled : scope.toList.isEmpty = true ↔ scope = "" := by simp
  simp only [isValid, isPlain, Bool.and_eq_true, Bool.not_eq_true', bne_iff_ne,
    List.all_eq_true, ne_eq, head?_eq_dash_iff, isScopeChar_iff, ← Bool.not_eq_true, filled]
  exact ⟨fun ⟨⟨filled, undashed⟩, plain⟩ => ⟨filled, undashed, plain⟩,
    fun h => ⟨⟨h.filled, h.undashed⟩, h.plain⟩⟩

theorem check_eq_ok_iff {scope : String} : check scope = .ok () ↔ Fit scope := by
  rw [← isValid_iff_fit, check]
  split_ifs with valid
  · simp [valid]
  · simp [valid]

theorem check_of_not_fit {scope : String} (unfit : ¬ Fit scope) :
    ∃ message, check scope = .error (.config message) := by
  rw [check, if_neg fun valid => unfit (isValid_iff_fit.mp valid)]
  exact ⟨_, rfl⟩

/-! ### The resource -/

theorem dropSuffix_append (front suffix : List Char) :
    dropSuffix suffix (front ++ suffix) = front := by
  rw [dropSuffix, if_pos (by simp)]
  simp

theorem names_iff {scope resource : String} :
    Names scope resource ↔ resource = String.ofList (dropSuffix defaultSuffix scope.toList) := by
  constructor
  · rintro (_ | bare)
    · have ending : (resource ++ "/.default").toList = resource.toList ++ defaultSuffix :=
        String.toList_append
      rw [ending, dropSuffix_append, String.ofList_toList]
    · rw [dropSuffix, if_neg (by simpa using bare), String.ofList_toList]
  · rintro rfl
    by_cases ending : defaultSuffix <:+ scope.toList
    · obtain ⟨front, split⟩ := ending
      have whole : scope = String.ofList front ++ "/.default" := by
        rw [← String.toList_inj, String.toList_append, String.toList_ofList, ← split]
        rfl
      rw [← split, dropSuffix_append, whole]
      exact .byDefault _
    · rw [dropSuffix, if_neg (by simpa using ending), String.ofList_toList]
      exact .whole ending

/-- **A resource** comes of a single scope that passes the check, and of nothing else. -/
theorem resource_eq_ok_iff {credential : String} {scopes : List String} {resource : String} :
    Scope.resource credential scopes = .ok resource ↔ ∃ scope, scopes = [scope] ∧ Fit scope ∧
      Names scope resource := by
  unfold Scope.resource
  split
  · next scope =>
    by_cases fit : Fit scope
    · rw [check_eq_ok_iff.mpr fit]
      simp [bind, Except.bind, pure, Except.pure, fit, names_iff, eq_comm]
    · obtain ⟨message, refused⟩ := check_of_not_fit fit
      rw [refused]
      simp [bind, Except.bind, fit]
  · next other =>
    simp only [reduceCtorEq, false_iff]
    rintro ⟨scope, rfl, -⟩
    exact other scope rfl

theorem resource_of_refused (credential : String) {scopes : List String}
    (refused : ¬ ∃ scope, scopes = [scope] ∧ Fit scope) :
    ∃ message, Scope.resource credential scopes = .error (.config message) := by
  unfold Scope.resource
  split
  · next scope =>
    obtain ⟨message, refused⟩ := check_of_not_fit fun fit => refused ⟨scope, rfl, fit⟩
    rw [refused]
    exact ⟨message, rfl⟩
  · exact ⟨_, rfl⟩

/-! ### Several scopes -/

theorem forM_check (scopes : List String) :
    ((∀ scope ∈ scopes, Fit scope) ∧ scopes.forM check = .ok ()) ∨
      (∃ scope ∈ scopes, ¬ Fit scope) ∧ ∃ message, scopes.forM check =
        .error (.config message) := by
  induction scopes with
  | nil => exact .inl ⟨nofun, rfl⟩
  | cons scope more ih =>
    have checked : (scope :: more).forM check = check scope >>= fun _ => more.forM check := rfl
    rw [checked]
    by_cases fit : Fit scope
    · rw [check_eq_ok_iff.mpr fit]
      obtain ⟨fits, accepted⟩ | ⟨⟨other, behind, unfit⟩, refused⟩ := ih
      · exact .inl ⟨List.forall_mem_cons.mpr ⟨fit, fits⟩, accepted⟩
      · exact .inr ⟨⟨other, List.mem_cons_of_mem _ behind, unfit⟩, refused⟩
    · obtain ⟨message, refused⟩ := check_of_not_fit fit
      rw [refused]
      exact .inr ⟨⟨scope, List.mem_cons_self, fit⟩, message, rfl⟩

/-- **The scopes of a request** are handed on if there are some and all of them may be handed on;
otherwise the request is not acceptable. -/
theorem validated_cases (credential : String) (scopes : List String) :
    ((scopes ≠ [] ∧ ∀ scope ∈ scopes, Fit scope) ∧ validated credential scopes = .ok scopes) ∨
      (scopes = [] ∨ ∃ scope ∈ scopes, ¬ Fit scope) ∧
        ∃ message, validated credential scopes = .error (.config message) := by
  cases scopes with
  | nil => exact .inr ⟨.inl rfl, _, rfl⟩
  | cons scope more =>
    have checked :
        validated credential (scope :: more) = (scope :: more).forM check >>=
          fun _ => .ok (scope :: more) := rfl
    rw [checked]
    obtain ⟨fits, accepted⟩ | ⟨unfit, message, refused⟩ := forM_check (scope :: more)
    · exact .inl ⟨⟨List.cons_ne_nil _ _, fits⟩, by rw [accepted]; rfl⟩
    · exact .inr ⟨.inr unfit, message, by rw [refused]; rfl⟩

/-! ### What the check promises of the resource -/

/-- A resource is a beginning of the scope that names it. -/
theorem Names.isPrefix {scope resource : String} (names : Names scope resource) :
    resource.toList <+: scope.toList := by
  cases names with
  | byDefault => simp
  | whole => exact List.prefix_rfl

theorem Names.eq_empty_iff {scope resource : String} (names : Names scope resource)
    (filled : scope ≠ "") : resource = "" ↔ scope = "/.default" := by
  cases names with
  | byDefault =>
    refine ⟨fun empty => by rw [empty]; rfl, fun same => ?_⟩
    have lengths := congrArg String.length same
    simp at lengths
    simpa using lengths
  | whole bare =>
    refine ⟨fun empty => absurd empty filled, fun same => absurd ?_ bare⟩
    rw [same]
    exact List.suffix_rfl

/-- **What is promised of a scope** holds of what is left of it. -/
theorem Fit.of_names {scope resource : String} (fit : Fit scope) (names : Names scope resource)
    (filled : resource ≠ "") : Fit resource where
  filled := filled
  undashed dashed := fit.undashed (dashed.trans names.isPrefix)
  plain c here := fit.plain c (names.isPrefix.subset here)

end Scope

namespace Request

/-- **The resource of a request**: there is one exactly if there is a single scope that may be
handed on. The scope names the resource, which may be handed on as well, unless the scope consists
of its ending. -/
theorem named_of_resource (r : Request) (credential : String) :
    ((∃ resource, r.resource credential = .ok resource) ↔
      ∃ scope, r.scopes = [scope] ∧ Scope.Fit scope) ∧ ∀ resource, r.resource credential =
        .ok resource → ∃ scope, r.scopes = [scope] ∧ Scope.Names scope resource ∧
        (resource = "" ∧ scope = "/.default" ∨ Scope.Fit resource ∧ scope ≠ "/.default") := by
  constructor
  · constructor
    · rintro ⟨resource, named⟩
      obtain ⟨scope, single, fit, -⟩ := Scope.resource_eq_ok_iff.mp named
      exact ⟨scope, single, fit⟩
    · rintro ⟨scope, single, fit⟩
      exact ⟨_, Scope.resource_eq_ok_iff.mpr ⟨scope, single, fit, Scope.names_iff.mpr rfl⟩⟩
  · intro resource named
    obtain ⟨scope, single, fit, names⟩ := Scope.resource_eq_ok_iff.mp named
    have nothing := names.eq_empty_iff fit.filled
    refine ⟨scope, single, names, ?_⟩
    by_cases empty : resource = ""
    · exact .inl ⟨empty, nothing.mp empty⟩
    · exact .inr ⟨fit.of_names names empty, fun same => empty (nothing.mpr same)⟩

/-- **A scope without a resource** passes the check, and its resource is empty. -/
theorem named_of_resource_bare : (⟨["/.default"], none, 0⟩ : Request).resource "az" = .ok "" ∧
    ∃ scope, ["/.default"] = [scope] ∧ Scope.Names scope "" ∧
      ("" = "" ∧ scope = "/.default" ∨ Scope.Fit "" ∧ scope ≠ "/.default") :=
  ⟨rfl, (named_of_resource ⟨["/.default"], none, 0⟩ "az").2 "" rfl⟩

end Request

end TokenChain
