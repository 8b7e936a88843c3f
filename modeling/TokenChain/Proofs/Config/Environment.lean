import Mathlib.Data.List.Nodup
import TokenChain.Config
import TokenChain.Proofs.Text.Numeral

/-! # What the settings depend on

The variables that are read come in two sorts, texts (`textual`) and numbers with the bits of their
ranges (`numeric`). A variable counts by what it is read as: a text that is not all white space, or
the number that such a text holds (`number?_eq_some_iff`). So a change that leaves what the
variables are read as leaves the settings, too (`ofVariables_congr`).

`Immaterial` lists the changes of one variable that do: a blank variable goes away, a numeric
variable goes away that holds no number of its range, a variable changes that nobody reads. Any
number of them may come together, and the settings stay the same or fail alike; they fail for a
selection alone that nobody can read; and no pause before a retry is longer than the longest one
(`ofVariables_of_immaterial`). -/

namespace TokenChain

open Text

namespace Config

namespace Variables

/-! ### The variables that are read -/

/-- The variables that are read as texts. -/
def textual : List String :=
  ["AZURE_TENANT_ID", "AZURE_CLIENT_ID", "AZURE_CLIENT_SECRET", "AZURE_FEDERATED_TOKEN_FILE",
    "AZURE_AUTHORITY_HOST", "AZURE_MANAGED_IDENTITY_CLIENT_ID", "AZURE_POD_IDENTITY_AUTHORITY_HOST",
    "IDENTITY_ENDPOINT", "IDENTITY_HEADER", "AZURE_TOKEN_CREDENTIALS"]

/-- The variables that are read as unsigned numbers, with the bits of their ranges. -/
def numeric : List (String × Nat) :=
  [("AZURE_CREDENTIAL_MAX_RETRIES", 32), ("AZURE_CREDENTIAL_RETRY_BASE_MS", 64),
    ("AZURE_CREDENTIAL_RETRY_MAX_MS", 64), ("AZURE_CREDENTIAL_ATTEMPT_TIMEOUT_MS", 64),
    ("AZURE_CREDENTIAL_PROBE_TIMEOUT_MS", 64), ("AZURE_CREDENTIAL_DEVELOPER_TOOL_TIMEOUT_MS", 64),
    ("AZURE_CREDENTIAL_DIAGNOSTICS_CAPACITY", 64)]

theorem nodup_names : (textual ++ numeric.map Prod.fst).Nodup := by decide

theorem notMem_textual {name : String} {bits : Nat} (number : (name, bits) ∈ numeric) :
    name ∉ textual := fun text =>
  (List.nodup_append.mp nodup_names).2.2 name text name (List.mem_map_of_mem number) rfl

theorem bits_eq {name : String} {bits bits' : Nat} (first : (name, bits) ∈ numeric)
    (second : (name, bits') ∈ numeric) : bits = bits' :=
  congrArg Prod.snd
    (List.inj_on_of_nodup_map (List.nodup_append.mp nodup_names).2.1 first second rfl)

/-! ### What a variable is read as -/

/-- **A text that holds a number** of so many bits: an unsigned numeral of it, with white space
around it. -/
def Holds (bits : Nat) (text : String) (n : Nat) : Prop :=
  ∃ core, Padded core text.toList ∧ UnsignedNumeral n core ∧ n < 2 ^ bits

theorem unsigned?_trim_eq_some_iff {bits n : Nat} {text : String} :
    Integer.unsigned? bits (trim text) = some n ↔ Holds bits text n := by
  rw [trim, Integer.unsigned?_eq_some_iff]
  constructor
  · exact fun ⟨numeral, small⟩ => ⟨_, padded_trimChars _, numeral, small⟩
  · rintro ⟨core, padded, numeral, small⟩
    rw [padded.trimChars_eq numeral.signed.bare]
    exact ⟨numeral, small⟩

/-- A text that holds nothing but white space. -/
def Blank (text : String) : Prop := ∀ c ∈ text.toList, isBlank c = true

theorem allBlank_iff {text : String} : allBlank text = true ↔ Blank text := List.all_eq_true

theorem value?_eq_some_iff {vars : Variables} {name text : String} :
    vars.value? name = some text ↔ vars name = some text ∧ ¬ Blank text := by
  rw [value?, Option.filter_eq_some_iff, Bool.not_eq_true', ← Bool.not_eq_true, allBlank_iff]

theorem Holds.not_blank {bits n : Nat} {text : String} (holds : Holds bits text n) :
    ¬ Blank text := by
  intro blank
  obtain ⟨core, ⟨before, after, whole, -, -⟩, numeral, -⟩ := holds
  obtain ⟨c, cs, rfl⟩ := List.exists_cons_of_ne_nil numeral.ne_nil
  have solid := numeral.signed.bare.first c rfl
  rw [blank c (by simp [whole])] at solid
  cases solid

/-- A variable is read as the number that its text holds. -/
theorem number?_eq_some_iff {vars : Variables} {name : String} {bits n : Nat} :
    vars.number? bits name = some n ↔ ∃ text, vars name = some text ∧ Holds bits text n := by
  rw [number?, Option.bind_eq_some_iff]
  simp only [value?_eq_some_iff, unsigned?_trim_eq_some_iff]
  constructor
  · exact fun ⟨text, ⟨set, _⟩, holds⟩ => ⟨text, set, holds⟩
  · exact fun ⟨text, set, holds⟩ => ⟨text, ⟨set, holds.not_blank⟩, holds⟩

theorem number?_eq_none {vars : Variables} {name : String} {bits : Nat}
    (unreadable : ∀ text, vars name = some text → ∀ n, ¬ Holds bits text n) :
    vars.number? bits name = none := by
  rw [Option.eq_none_iff_forall_ne_some]
  intro n read
  obtain ⟨text, set, holds⟩ := number?_eq_some_iff.mp read
  exact unreadable text set n holds

end Variables

/-! ### Changes that do not show -/

open Variables

theorem ofVariables_congr {vars vars' : Variables}
    (texts : ∀ name ∈ textual, vars'.value? name = vars.value? name)
    (numbers : ∀ entry ∈ numeric, vars'.number? entry.2 entry.1 = vars.number? entry.2 entry.1) :
    ofVariables vars' = ofVariables vars := by
  simp only [textual, numeric, List.forall_mem_cons] at texts numbers
  simp only [ofVariables, selectionOf, retryOf, managedIdentityOf, either?, millis?, texts, numbers]

/-- **A change of a variable that does not show.** -/
inductive Immaterial (before after : Variables) (name : String) : Prop where
  | kept (same : after name = before name)
  /-- The variable is blank, and goes away. -/
  | blank {text : String} (set : before name = some text) (blank : Blank text)
      (removed : after name = none)
  /-- The variable is to be a number but is none of its range, and goes away. -/
  | unreadable {text : String} {bits : Nat} (number : (name, bits) ∈ numeric)
      (set : before name = some text) (unreadable : ∀ n, ¬ Holds bits text n)
      (removed : after name = none)
  /-- Nobody reads the variable; it is added, removed or changed. -/
  | foreign (noText : name ∉ textual) (noNumber : ∀ bits, (name, bits) ∉ numeric)

variable {before after : Variables} {name : String}

theorem Immaterial.value?_eq (change : Immaterial before after name) (text : name ∈ textual) :
    after.value? name = before.value? name := by
  cases change with
  | kept same => rw [value?, value?, same]
  | blank set blank removed =>
    rw [value?, value?, removed, set, Option.filter_some, allBlank_iff.mpr blank]
    rfl
  | unreadable number => exact absurd text (notMem_textual number)
  | foreign noText => exact absurd text noText

theorem Immaterial.number?_eq (change : Immaterial before after name) {bits : Nat}
    (number : (name, bits) ∈ numeric) : after.number? bits name = before.number? bits name := by
  cases change with
  | kept same => rw [number?, number?, value?, value?, same]
  | blank set blank removed =>
    rw [number?_eq_none (by simp [removed]), number?_eq_none]
    intro text set' n holds
    cases set.symm.trans set'
    exact holds.not_blank blank
  | unreadable number' set unreadable removed =>
    obtain rfl := bits_eq number number'
    rw [number?_eq_none (by simp [removed]), number?_eq_none]
    intro text set' n
    cases set.symm.trans set'
    exact unreadable n
  | foreign noText noNumber => exact absurd number (noNumber bits)

/-! ### What is left -/

variable {vars : Variables} {c : Config} {e : Error}

/-- The longest pause before a retry is not shorter than the first one. -/
theorem baseDelay_le_maxDelay_retryOf (vars : Variables) :
    (retryOf vars).baseDelay ≤ (retryOf vars).maxDelay :=
  Nat.le_max_right _ _

theorem retry_of_ofVariables (read : ofVariables vars = .ok c) : c.retry = retryOf vars := by
  rw [ofVariables] at read
  cases chosen : selectionOf vars with
  | error e => rw [chosen] at read; cases read
  | ok selection =>
    rw [chosen] at read
    cases read
    rfl

theorem ofVariables_eq_error_iff : ofVariables vars = .error e ↔ selectionOf vars = .error e := by
  rw [ofVariables]
  cases selectionOf vars <;> simp [bind, Except.bind, pure, Except.pure]

/-- A selection is refused only where there is one. -/
theorem selectionOf_eq_error_iff : selectionOf vars = .error e ↔
    ∃ text, vars "AZURE_TOKEN_CREDENTIALS" = some text ∧ ¬ Blank text ∧
    Selection.ofText text = .error e := by
  rw [selectionOf]
  simp only [← and_assoc, ← value?_eq_some_iff]
  cases vars.value? "AZURE_TOKEN_CREDENTIALS" <;> simp

/-- **What the settings do not depend on.** They fail for a selection that nobody can read, and for
nothing else; changes that do not show leave them as they are, whether they fail or not; and the
longest pause before a retry is not shorter than the first one. -/
theorem ofVariables_of_immaterial {before after : Variables}
    (changes : ∀ name, Immaterial before after name) : ofVariables after = ofVariables before ∧
    (∀ e, ofVariables before = .error e ↔ ∃ text, before "AZURE_TOKEN_CREDENTIALS" = some text ∧
      (∃ c ∈ text.toList, isBlank c = false) ∧ Selection.ofText text = .error e) ∧
    ∀ c, ofVariables before = .ok c → c.retry.baseDelay ≤ c.retry.maxDelay := by
  refine ⟨ofVariables_congr (fun name text => (changes name).value?_eq text)
    (fun entry number => (changes entry.1).number?_eq number), fun e => ?_, fun c read => ?_⟩
  · rw [ofVariables_eq_error_iff, selectionOf_eq_error_iff]
    simp [Blank]
  · rw [retry_of_ofVariables read]
    exact baseDelay_le_maxDelay_retryOf before

/-- A base delay alone. -/
def sparse : Variables
  | "AZURE_CREDENTIAL_RETRY_BASE_MS" => some " +9000\n"
  | _ => none

/-- The same base delay, among a blank variable, a number of 33 bits, and a variable of somebody
else. -/
def crowded : Variables
  | "AZURE_TENANT_ID" => some "\t "
  | "AZURE_CREDENTIAL_MAX_RETRIES" => some "4294967296"
  | "HOME" => some "/root"
  | name => sparse name

theorem immaterial_crowded (name : String) : Immaterial crowded sparse name := by
  by_cases tenant : name = "AZURE_TENANT_ID"
  · subst tenant
    exact .blank rfl (by simp [Blank]; decide) rfl
  by_cases retries : name = "AZURE_CREDENTIAL_MAX_RETRIES"
  · subst retries
    refine .unreadable (show (_, 32) ∈ numeric by decide) rfl (fun n holds => ?_) rfl
    have tooGreat : Integer.unsigned? 32 (trim "4294967296") = none := by decide
    rw [← unsigned?_trim_eq_some_iff, tooGreat] at holds
    cases holds
  by_cases home : name = "HOME"
  · subst home
    exact .foreign (by decide) (by simp [numeric])
  · exact .kept (by simp [crowded])

theorem ofVariables_of_immaterial_crowded : (∀ name, Immaterial crowded sparse name) ∧
    ofVariables sparse = ofVariables crowded ∧
    ∃ c, ofVariables crowded = .ok c ∧ c.retry.baseDelay = .ofSeconds 9 ∧
    c.retry.maxDelay = .ofSeconds 9 := by
  exact ⟨immaterial_crowded, (ofVariables_of_immaterial immaterial_crowded).1, _,
    rfl, by decide, by decide⟩

end Config

end TokenChain
