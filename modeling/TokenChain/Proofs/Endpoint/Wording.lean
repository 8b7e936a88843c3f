import TokenChain.Endpoint.Failure
import TokenChain.Proofs.Json.Writing

/-! # The wording of refusals

The message in the body of a refusal is what a record in the body says, a code or a detail or both,
and otherwise the body itself. Only the body itself is checked and cut: it gives a message that is
never empty and never longer than `keptCharacters`. What a record says is taken as it is, but for
the lines of a detail behind the first.

So a message is empty for a record that says nothing but the empty text (`Mute`), goes over several
lines for a code or a body that does (`Broken`), and is too long for a record that says too much
(`Lengthy`); for no other body (`errorMessage_flaws`). -/

namespace TokenChain

open Text

/-! ### First lines -/

/-- **A text whose first line is empty**: it is empty itself or begins with the end of a line. -/
inductive Text.OpensEmpty : List Char → Prop where
  | nil : OpensEmpty []
  | feed (cs : List Char) : OpensEmpty ('\n' :: cs)
  | returnFeed (cs : List Char) : OpensEmpty ('\r' :: '\n' :: cs)

namespace Text

theorem consLine_ne_nil (c : Char) (ls : List (List Char)) : consLine c ls ≠ [] := by
  cases ls <;> exact List.cons_ne_nil _ _

theorem headD_consLine_ne_nil (c : Char) (ls : List (List Char)) :
    (consLine c ls).headD [] ≠ [] := by
  cases ls <;> exact List.cons_ne_nil _ _

theorem linesOf_eq_nil_iff {cs : List Char} : linesOf cs = [] ↔ cs = [] := by
  fun_cases linesOf cs with
  | case4 c cs => simp [consLine_ne_nil]
  | _ => simp

theorem headD_linesOf_eq_nil_iff {cs : List Char} : (linesOf cs).headD [] = [] ↔ OpensEmpty cs := by
  fun_cases linesOf cs with
  | case1 => exact iff_of_true rfl .nil
  | case2 cs => exact iff_of_true rfl (.feed cs)
  | case3 cs => exact iff_of_true rfl (.returnFeed cs)
  | case4 c cs feed ret =>
    refine iff_of_false (headD_consLine_ne_nil _ _) fun opens => ?_
    cases opens with
    | feed => exact feed rfl
    | returnFeed ds => exact ret ds rfl rfl

theorem toList_firstLine (s : String) : (firstLine s).toList = (linesOf s.toList).headD [] := by
  rw [firstLine, lines]
  cases ls : linesOf s.toList with
  | nil => exact linesOf_eq_nil_iff.mp ls
  | cons l ls => exact String.toList_ofList

theorem firstLine_eq_empty_iff {s : String} : firstLine s = "" ↔ OpensEmpty s.toList := by
  rw [← headD_linesOf_eq_nil_iff, ← toList_firstLine, String.toList_eq_nil_iff]

theorem oneLine_firstLine (s : String) : OneLine (firstLine s) := by
  rw [OneLine, toList_firstLine]
  cases ls : linesOf s.toList with
  | nil => exact List.not_mem_nil
  | cons l ls' => exact newline_notMem_of_mem_linesOf (ls ▸ List.mem_cons_self)

end Text

namespace Endpoint

open Json

/-! ### What a record says -/

/-- **What a code says** in words: it is a text itself, or an object with a message in it. -/
inductive Utters : Value → String → Prop where
  | text (s : String) : Utters (.string s) s
  | message {v : Value} {s : String} (member : v.member? "message" = some (.string s)) : Utters v s

theorem codeText_cases (v : Value) : Utters v (codeText v) ∨ codeText v = v.write := by
  unfold codeText
  split
  case h_1 s => exact .inl (.text s)
  case h_2 =>
    cases member : v.member? "message" with
    | none => exact .inr rfl
    | some m =>
      cases m with
      | string s => exact .inl (.message member)
      | _ => exact .inr rfl

theorem Utters.codeText_eq {v : Value} {s : String} (utters : Utters v s) : codeText v = s := by
  cases utters with
  | text => rfl
  | message member =>
    unfold codeText
    split
    · cases member
    · rw [member]
      rfl

theorem codeText_eq_empty_iff {v : Value} : codeText v = "" ↔ Utters v "" := by
  refine ⟨fun empty => ?_, Utters.codeText_eq⟩
  obtain utters | written := codeText_cases v
  · rwa [empty] at utters
  · exact absurd (written.symm.trans empty) v.write_ne_empty

theorem newline_mem_codeText_iff {v : Value} :
    '\n' ∈ (codeText v).toList ↔ ∃ s, Utters v s ∧ '\n' ∈ s.toList := by
  constructor
  · intro broken
    obtain utters | written := codeText_cases v
    · exact ⟨_, utters, broken⟩
    · rw [written] at broken
      exact absurd broken v.oneLine_write
  · rintro ⟨s, utters, broken⟩
    rwa [utters.codeText_eq]

/-- The record in a body, if it is read as one. -/
def ErrorBody.of? (body : String) : Option ErrorBody :=
  (Document.read? (Utf8.encode body)).bind ErrorBody.ofDocument?

/-- The code in the record of a body. -/
def codeIn (body : String) : Option Value := (ErrorBody.of? body).bind ErrorBody.code

/-- The description in the record of a body, or the remark in its place. -/
def detailIn (body : String) : Option String :=
  (ErrorBody.of? body).bind fun b => b.description.or b.remark

/-- The message of a code and a detail. -/
def wording? (code : Option Value) (detail : Option String) : Option String :=
  match code, detail with
  | some v, some d => some (codeText v ++ ": " ++ firstLine d)
  | some v, none => some (codeText v)
  | none, some d => some (firstLine d)
  | none, none => none

theorem errorMessage_eq (body : String) :
    errorMessage body = (wording? (codeIn body) (detailIn body)).getD (plainMessage body) := by
  have record : ∀ b : ErrorBody, b.message? = wording? b.code (b.description.or b.remark) := by
    intro b
    rw [ErrorBody.message?]
    cases b.code <;> cases b.description.or b.remark <;> rfl
  show ((ErrorBody.of? body).bind ErrorBody.message?).getD (plainMessage body) = _
  rw [codeIn, detailIn]
  cases ErrorBody.of? body with
  | none => rfl
  | some b => exact congrArg (Option.getD · (plainMessage body)) (record b)

/-! ### The body itself -/

theorem plainMessage_ne_empty (body : String) : plainMessage body ≠ "" := by
  rw [plainMessage]
  split
  · decide
  · rename_i filled
    rw [Ne, ← String.toList_eq_nil_iff, String.toList_ofList, List.take_eq_nil_iff]
    exact not_or.mpr ⟨by decide, filled⟩

theorem length_plainMessage_le (body : String) : (plainMessage body).length ≤ keptCharacters := by
  rw [plainMessage]
  split
  · decide
  · rw [String.length_ofList]
    exact List.length_take_le _ _

theorem newline_mem_plainMessage_iff {body : String} :
    '\n' ∈ (plainMessage body).toList ↔ '\n' ∈ (trimChars body.toList).take keptCharacters := by
  rw [plainMessage]
  split
  · rename_i empty
    simp [empty]
  · rw [String.toList_ofList]

/-! ### Messages out of bounds -/

/-- **A record that says nothing**: the empty text alone, or a detail alone whose first line is
empty. -/
inductive Mute : Option Value → Option String → Prop where
  | code {v : Value} (empty : Utters v "") : Mute (some v) none
  | detail {d : String} (empty : OpensEmpty d.toList) : Mute none (some d)

/-- **A body that says something on several lines**: its code does, or there is no record and what
is kept of the body does. -/
inductive Broken (body : String) : Option Value → Option String → Prop where
  | code {v : Value} {s : String} {detail : Option String} (utters : Utters v s)
      (broken : '\n' ∈ s.toList) : Broken body (some v) detail
  | plain (broken : '\n' ∈ (trimChars body.toList).take keptCharacters) : Broken body none none

/-- **A record that says too much.** -/
inductive Lengthy : Option Value → Option String → Prop where
  | code {v : Value} (long : keptCharacters < (codeText v).length) : Lengthy (some v) none
  | detail {d : String} (long : keptCharacters < (firstLine d).length) : Lengthy none (some d)
  | both {v : Value} {d : String}
      (long : keptCharacters < (codeText v).length + 2 + (firstLine d).length) :
        Lengthy (some v) (some d)

section

variable {body : String} {code : Option Value} {detail : Option String}

theorem eq_empty_iff_mute :
    (wording? code detail).getD (plainMessage body) = "" ↔ Mute code detail := by
  match code, detail with
  | some v, some d => exact iff_of_false (by simp [wording?]) nofun
  | some v, none => exact codeText_eq_empty_iff.trans ⟨.code, fun | .code empty => empty⟩
  | none, some d => exact firstLine_eq_empty_iff.trans ⟨.detail, fun | .detail empty => empty⟩
  | none, none => exact iff_of_false (plainMessage_ne_empty body) nofun

theorem broken_code_iff {v : Value} :
    Broken body (some v) detail ↔ ∃ s, Utters v s ∧ '\n' ∈ s.toList :=
  ⟨fun | .code utters broken => ⟨_, utters, broken⟩, fun ⟨_, utters, broken⟩ => .code utters broken⟩

theorem newline_mem_iff_broken :
    '\n' ∈ ((wording? code detail).getD (plainMessage body)).toList ↔ Broken body code detail := by
  match code, detail with
  | some v, some d =>
    have code : '\n' ∈ (codeText v ++ ": " ++ firstLine d).toList ↔ '\n' ∈ (codeText v).toList := by
      have detail : '\n' ∉ (firstLine d).toList := oneLine_firstLine d
      simp [detail]
    exact code.trans (newline_mem_codeText_iff.trans broken_code_iff.symm)
  | some v, none => exact newline_mem_codeText_iff.trans broken_code_iff.symm
  | none, some d => exact iff_of_false (oneLine_firstLine d) nofun
  | none, none => exact newline_mem_plainMessage_iff.trans ⟨.plain, fun | .plain broken => broken⟩

theorem lt_length_iff_lengthy :
    keptCharacters < ((wording? code detail).getD (plainMessage body)).length ↔
      Lengthy code detail := by
  match code, detail with
  | some v, some d =>
    have length :
        (codeText v ++ ": " ++ firstLine d).length = (codeText v).length + 2 +
          (firstLine d).length := by
      rw [String.length_append, String.length_append]
      rfl
    exact (iff_of_eq (congrArg (keptCharacters < ·) length)).trans ⟨.both, fun | .both long => long⟩
  | some v, none => exact ⟨.code, fun | .code long => long⟩
  | none, some d => exact ⟨.detail, fun | .detail long => long⟩
  | none, none => exact iff_of_false (Nat.not_lt.mpr (length_plainMessage_le body)) nofun

end

/-- **Which messages are out of bounds**, over all bodies: the empty ones, those of several lines,
and those that are too long. -/
theorem errorMessage_flaws (body : String) :
    (errorMessage body = "" ↔ Mute (codeIn body) (detailIn body)) ∧
    ('\n' ∈ (errorMessage body).toList ↔ Broken body (codeIn body) (detailIn body)) ∧
    (keptCharacters < (errorMessage body).length ↔ Lengthy (codeIn body) (detailIn body)) := by
  rw [errorMessage_eq]
  exact ⟨eq_empty_iff_mute, newline_mem_iff_broken, lt_length_iff_lengthy⟩

-- a code that is the empty text, a code on two lines, and a body on two lines that is no record
example : errorMessage "\x7b\"error\":\"\"\x7d" = "" := by decide +kernel
example : errorMessage "\x7b\"error\":\"a\\nb\"\x7d" = "a\nb" := by decide +kernel
example : errorMessage "gateway\ndown" = "gateway\ndown" := by decide +kernel

end Endpoint

end TokenChain
