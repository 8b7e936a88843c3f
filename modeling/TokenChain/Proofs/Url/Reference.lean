import TokenChain.Proofs.Url.Directory

/-! # References that stand for themselves

A segment of letters, digits, dashes and dots is written in a reference as it is (`Url.Literal`):
nothing in it is encoded, cut off or taken for a slash or a drive. Two such segments are no names:
`.` means the directory itself, and `..` the one above it. `Url.follow` says where a segment leads,
and a reference of such segments below a directory is read by following them one by one
(`Url.join_literal`), for special schemes, files and all others alike. -/

namespace TokenChain

namespace Url

/-- **A text that stands for itself** in a reference: letters, digits, dashes and dots. -/
def Literal (cs : List Char) : Prop := ∀ c ∈ cs, c.isAlphanum = true ∨ c ∈ ['-', '.']

theorem all_iff_literal {cs : List Char} :
    (cs.all fun c => c.isAlphanum || c == '-' || c == '.') = true ↔ Literal cs := by
  simp [Literal, or_assoc]

/-! ### Characters that stand for themselves -/

theorem toNat_lt_of_literal {c : Char} (literal : c.isAlphanum = true ∨ c ∈ ['-', '.']) :
    c.toNat < 128 := by
  obtain alphanumeric | mark := literal
  · change (decide (c.val ≥ 'A'.val ∧ c.val ≤ 'Z'.val) || (c.val ≥ 'a'.val && c.val ≤ 'z'.val) ||
      (c.val ≥ '0'.val && c.val ≤ '9'.val)) = true at alphanumeric
    simp only [Bool.or_eq_true, Bool.and_eq_true, decide_eq_true_eq, ge_iff_le,
      UInt32.le_iff_toNat_le] at alphanumeric
    have value : c.val.toNat = c.toNat := rfl
    have bounds : 'Z'.val.toNat = 90 ∧ 'z'.val.toNat = 122 ∧ '9'.val.toNat = 57 := by decide
    omega
  · simp only [List.mem_cons, List.not_mem_nil, or_false] at mark
    obtain rfl | rfl := mark <;> decide

/-- What holds of the characters of ASCII that stand for themselves holds of all that do. -/
theorem forall_literal {P : Char → Prop}
    (ascii : ∀ n < 128, (Char.ofNat n).isAlphanum = true ∨
      Char.ofNat n ∈ ['-', '.'] → P (Char.ofNat n))
    {cs : List Char} (literal : Literal cs) : ∀ c ∈ cs, P c := by
  intro c here
  have numbered := ascii c.toNat (toNat_lt_of_literal (literal c here))
  rw [Char.ofNat_toNat] at numbered
  exact numbered (literal c here)

theorem inPathSet_eq (c : Char) :
    inPathSet c =
      (isControl c || decide (c ∈ " \"<>`".toList) || decide (c ∈ "#?\x7b\x7d".toList)) := by
  rw [inPathSet, inFragmentSet, String.contains_char_eq, String.contains_char_eq]

theorem not_inPathSet_of_literal {cs : List Char} (literal : Literal cs) :
    ∀ c ∈ cs, inPathSet c = false := by
  simp only [inPathSet_eq]
  exact forall_literal (by decide +kernel) literal

theorem blank_lt_of_literal {cs : List Char} (literal : Literal cs) : ∀ c ∈ cs, 0x20 < c.toNat :=
  forall_literal (by decide +kernel) literal

theorem not_isSlash_of_literal {cs : List Char} (literal : Literal cs) :
    ∀ c ∈ cs, ∀ special, isSlash special c = false :=
  forall_literal (by decide +kernel) literal

theorem not_mark_of_literal {cs : List Char} (literal : Literal cs) :
    ∀ c ∈ cs, c ∉ [':', '|'] ∧ c.toLower ≠ '%' :=
  forall_literal (by decide +kernel) literal

/-! ### Segments that stand for themselves -/

theorem clean_of_forall_lt {s : String} (printed : ∀ c ∈ s.toList, 0x20 < c.toNat) :
    clean s = s.toList := by
  have uncut : ∀ cs :
      List Char, (∀ c ∈ cs, 0x20 < c.toNat) →
      cs.dropWhile (fun c => decide (c.toNat ≤ 0x20)) = cs := by
    intro cs printed
    cases cs with
    | nil => rfl
    | cons c cs => exact List.dropWhile_cons_of_neg (by simpa using printed c List.mem_cons_self)
  unfold clean
  dsimp only
  rw [uncut _ printed, uncut _ fun c here => printed c (List.mem_reverse.mp here),
    List.reverse_reverse, List.filter_eq_self]
  intro c here
  have visible := printed c here
  simp only [Bool.not_eq_true', Bool.or_eq_false_iff, beq_eq_false_iff_ne, ne_eq]
  refine ⟨⟨?_, ?_⟩, ?_⟩ <;> rintro rfl <;> revert visible <;> decide

theorem splitPath_literal (special : Bool) {segment : List Char} (literal : Literal segment)
    (rest : List Char) :
    splitPath special (segment ++ '/' :: rest) = segment :: splitPath special rest := by
  have unslashed := not_isSlash_of_literal literal
  have same : segment.map (fun c => if isSlash special c then '/' else c) = segment := by
    refine (List.map_congr_left fun c here => ?_).trans (List.map_id segment)
    rw [unslashed c here special]
    rfl
  unfold splitPath List.splitOn
  rw [List.map_append, List.map_cons, same]
  refine List.splitOnP_append_cons_of_forall_mem (fun c here => ?_) '/' rfl _
  have plain := unslashed c here false
  simpa [isSlash] using plain

theorem percentEncode_literal {cs : List Char} (literal : Literal cs) :
    percentEncode inPathSet cs = String.ofList cs := by
  have same : cs.flatMap (percentChar inPathSet) = cs := by
    have unencoded := not_inPathSet_of_literal literal
    clear literal
    induction cs with
    | nil => rfl
    | cons c cs ih =>
      rw [List.flatMap_cons, ih fun c here => unencoded c (List.mem_cons_of_mem _ here),
        percentChar, unencoded c List.mem_cons_self]
      rfl
  rw [percentEncode, same]

theorem not_escape_of_literal {segment text : String} (literal : Literal segment.toList)
    (sign : '%' ∈ text.toList) : (segment.toLower == text) = false := by
  rw [beq_eq_false_iff_ne]
  rintro rfl
  have letters : segment.toLower.toList = segment.toList.map Char.toLower := String.toList_map
  rw [letters, List.mem_map] at sign
  obtain ⟨c, here, lowered⟩ := sign
  exact (not_mark_of_literal literal c here).2 lowered

theorem isDrive_literal {cs : List Char} (literal : Literal cs) : isDrive cs = false := by
  have marks := not_mark_of_literal literal
  unfold isDrive
  split
  · next letter mark =>
    have unmarked := (marks mark (by simp)).1
    simp only [List.mem_cons, List.not_mem_nil, or_false, not_or] at unmarked
    simp [unmarked]
  · rfl

theorem isDoubleDot_literal {segment : String} (literal : Literal segment.toList) :
    isDoubleDot segment = (segment == "..") := by
  have escape {text : String} : '%' ∈ text.toList → (segment.toLower == text) = false :=
    not_escape_of_literal literal
  rw [isDoubleDot, escape (by decide), escape (by decide), escape (by decide)]
  simp only [Bool.or_false]

theorem isSingleDot_literal {segment : String} (literal : Literal segment.toList) :
    isSingleDot segment = (segment == ".") := by
  rw [isSingleDot, not_escape_of_literal literal (by decide), Bool.or_false]

/-- Where a segment that stands for itself leads. -/
def follow (dirs : List String) (segment : String) : List String :=
  if segment = ".." then parent dirs else if segment = "." then dirs else dirs ++ [segment]

theorem enter_literal (file : Bool) (dirs : List String) {segment : String}
    (literal : Literal segment.toList) : enter file dirs segment = follow dirs segment := by
  rw [enter, isDoubleDot_literal literal, isSingleDot_literal literal,
    isDrive_literal literal, follow]
  simp only [beq_iff_eq, Bool.and_false, Bool.false_eq_true, if_false]

/-- A segment leads to a directory of its own unless it is a dot segment. -/
theorem follow_eq_append_iff {dirs : List String} {segment : String} :
    follow dirs segment = dirs ++ [segment] ↔ segment ≠ "." ∧ segment ≠ ".." := by
  have above : (parent dirs).length ≤ dirs.length := by
    unfold parent
    split_ifs <;> simp
  unfold follow
  split_ifs with double single
  · refine iff_of_false (fun same => ?_) (by simp [double])
    have lengths := congrArg List.length same
    simp only [List.length_append, List.length_singleton] at lengths
    omega
  · exact iff_of_false (fun same => by simpa using congrArg List.length same) (by simp [single])
  · exact iff_of_true rfl ⟨single, double⟩

theorem foldl_follow_of_named (dirs : List String) {segments : List String}
    (named : ∀ segment ∈ segments, segment ≠ "." ∧ segment ≠ "..") :
    segments.foldl follow dirs = dirs ++ segments := by
  induction segments generalizing dirs with
  | nil => exact (List.append_nil dirs).symm
  | cons segment more ih =>
    rw [List.foldl_cons, follow_eq_append_iff.mpr (named segment List.mem_cons_self),
      ih _ fun later here => named later (List.mem_cons_of_mem _ here), List.append_assoc,
      List.singleton_append]

/-- **The segments of a reference**, if they stand for themselves and the last one is a name, are
followed one by one. -/
theorem resolvePath_literal (file : Bool) (dirs : List String) {segments : List String}
    (literal : ∀ segment ∈ segments, Literal segment.toList)
    (named : ∀ segment, segments.getLast? = some segment → segment ≠ "." ∧ segment ≠ "..") :
    resolvePath file dirs (segments.map String.toList) = segments.foldl follow dirs := by
  induction segments generalizing dirs with
  | nil => rfl
  | cons segment more ih =>
    have here := literal segment List.mem_cons_self
    have entered (dirs : List String) := enter_literal file dirs here
    have ahead (dirs : List String) :=
      ih dirs fun segment later => literal segment (List.mem_cons_of_mem _ later)
    cases more with
    | nil =>
      obtain ⟨single, double⟩ := named segment rfl
      rw [List.map_singleton, resolvePath, percentEncode_literal here, String.ofList_toList,
        entered, isDoubleDot_literal here, isSingleDot_literal here, beq_false_of_ne double,
        beq_false_of_ne single]
      exact List.append_nil _
    | cons second more =>
      have behind :=
        ahead (follow dirs segment) fun last ends => named last (by rwa [List.getLast?_cons_cons])
      have entering :
          resolvePath file dirs ((segment :: second :: more).map String.toList) = resolvePath file
          (enter file dirs (percentEncode inPathSet segment.toList))
            ((second :: more).map String.toList) := rfl
      rw [entering, percentEncode_literal here, String.ofList_toList, entered]
      exact behind

/-! ### References below a directory -/

section Directory
variable {dirs names : List String}

theorem Directory.dropLast_eq (directory : Directory dirs names) : names.dropLast = dirs := by
  cases directory with
  | slash => exact List.dropLast_concat
  | root => rfl

theorem Directory.fileBase_eq (directory : Directory dirs names) : fileBase names = (dirs, "") := by
  cases directory with
  | slash =>
    rw [fileBase, List.getLast?_concat, List.dropLast_concat]
    rfl
  | root => rfl

/-- **A reference below a directory**: its segments are followed from the directory on, whatever the
scheme is. -/
theorem join_literal {base : Url} {reference : String} {segments : List String}
    (path : base.path = .segments names) (directory : Directory dirs names)
    (pieces : splitPath (isSpecial base.scheme) (clean reference) = segments.map String.toList)
    (literal : ∀ segment ∈ segments, Literal segment.toList)
    (named : ∀ segment, segments.getLast? = some segment → segment ≠ "." ∧ segment ≠ "..") :
    base.join reference =
      .ok { base with path := .segments (segments.foldl follow dirs),
                      query := none, fragment := none } := by
  have inFile : joinFile names (segments.map String.toList) = segments.foldl follow dirs := by
    -- no drive is cut off in the last place, so the reference begins in the directory here as well
    rw [joinFile, directory.fileBase_eq, ← resolvePath_literal true dirs literal named]
    cases segments <;> rfl
  rw [join, path]
  dsimp only
  rw [pieces, inFile, directory.dropLast_eq, resolvePath_literal false dirs literal named, ite_self]

end Directory

end Url

end TokenChain
