import Mathlib.Data.List.TakeWhile
import Mathlib.Tactic.SplitIfs
import TokenChain.Config

/-! # Addresses that end in a slash

An address whose text ends in a slash and that has neither a query nor a fragment is the address of
a directory: its path ends in the empty segment behind the last slash, or there is no path at all
(`Url.Directory`). So a base address has directories that a reference is resolved in
(`Config.exists_directory`).

A text that is closed ends in a slash as long as anything is left of it (`Url.Closed`), and the
parser hands on only ends of the text to what reads the path. What a parser that may fail reads is
stated with `Url.Reads`. -/

namespace TokenChain

namespace Url

/-- **The path of a directory**: what stands behind the last slash is empty, or there is nothing at
all. -/
inductive Directory : List String → List String → Prop
  | slash (dirs : List String) : Directory dirs (dirs ++ [""])
  | root : Directory [] []

/-- A text that ends in a slash, if it is not empty. -/
def Closed (cs : List Char) : Prop := ∀ c, cs.getLast? = some c → c = '/'

/-- An address, if it has segments and nothing behind them, is the address of a directory. -/
def IsDirectory (u : Url) : Prop :=
  ∀ names, u.path = .segments names → u.query = none → u.fragment = none →
    ∃ dirs, Directory dirs names

/-- What is read has a property, if anything is read. -/
def Reads {α : Type} (P : α → Prop) (x : Except UrlError α) : Prop := ∀ a, x = .ok a → P a

section Reads
variable {α β : Type} {P : β → Prop}

theorem reads_pure {b : β} (h : P b) : Reads P (pure b) := by
  rintro _ ⟨⟩
  exact h

theorem reads_throw (e : UrlError) (f : α → Except UrlError β) : Reads P (throw e >>= f) := nofun

theorem Reads.bind {x : Except UrlError α} {f : α → Except UrlError β}
    (h : ∀ a, x = .ok a → Reads P (f a)) : Reads P (x >>= f) := by
  cases x with
  | error e => exact nofun
  | ok a => exact h a rfl

theorem reads_ite {c : Prop} [Decidable c] {x y : Except UrlError β}
    (pos : Reads P x) (neg : Reads P y) : Reads P (if c then x else y) := by
  split_ifs
  · exact pos
  · exact neg

end Reads

/-! ### Closed texts -/

theorem closed_nil : Closed [] := nofun

theorem closed_append_slash (front : List Char) : Closed (front ++ ['/']) := by
  intro c last
  simpa [eq_comm] using last

theorem Closed.cases {cs : List Char} (closed : Closed cs) :
    cs = [] ∨ ∃ front, cs = front ++ ['/'] := by
  cases last : cs.getLast? with
  | none => exact .inl (List.getLast?_eq_none_iff.mp last)
  | some c =>
    obtain ⟨front, rfl⟩ := List.getLast?_eq_some_iff.mp last
    exact .inr ⟨front, by rw [closed c last]⟩

/-- **An end of a closed text** is closed. -/
theorem Closed.suffix {cs rest : List Char} (closed : Closed cs) (ending : rest <:+ cs) :
    Closed rest := by
  obtain ⟨front, rfl⟩ := ending
  intro c last
  exact closed c (by rw [List.getLast?_append, last]; rfl)

theorem Closed.append {cs : List Char} (closed : Closed cs) (filled : cs ≠ []) (front : List Char) :
    Closed (front ++ cs) := by
  obtain rfl | ⟨before, rfl⟩ := closed.cases
  · exact absurd rfl filled
  · rw [← List.append_assoc]
    exact closed_append_slash _

/-- What is left of a text without the blanks around it and the line breaks in it ends as the text
does. -/
theorem closed_clean {s : String} (ends : s.toList.getLast? = some '/') : Closed (clean s) := by
  obtain ⟨front, split⟩ := List.getLast?_eq_some_iff.mp ends
  unfold clean
  dsimp only
  -- only the front is cut off: the slash at the end is no blank
  have kept : ∀ cs :
      List Char, Closed cs →
      Closed ((cs.reverse.dropWhile fun c => decide (c.toNat ≤ 0x20)).reverse.filter fun c =>
        !(c == '\t' || c == '\n' || c == '\r')) := by
    intro cs closed
    obtain rfl | ⟨before, rfl⟩ := closed.cases
    · exact closed_nil
    · rw [List.reverse_append, List.reverse_singleton, List.singleton_append,
        List.dropWhile_cons_of_neg (by decide), List.reverse_cons,
        List.reverse_reverse, List.filter_append]
      exact closed_append_slash _
  refine kept _ (Closed.suffix ?_ (List.dropWhile_suffix _))
  rw [split]
  exact closed_append_slash front

/-! ### Paths -/

theorem splitPath_of_closed (special : Bool) {cs : List Char} (closed : Closed cs) :
    ∃ pieces, splitPath special cs = pieces ++ [[]] := by
  obtain rfl | ⟨front, rfl⟩ := closed.cases
  · exact ⟨[], rfl⟩
  · let slashed : Char → Char := fun c => if isSlash special c then '/' else c
    refine ⟨(front.map slashed).splitOn '/', ?_⟩
    unfold splitPath List.splitOn
    rw [List.map_append]
    exact List.splitOnP_append_cons _ [] rfl

theorem isDoubleDot_empty : isDoubleDot "" = false := by decide +kernel

theorem isSingleDot_empty : isSingleDot "" = false := by decide +kernel

theorem enter_empty (file : Bool) (dirs : List String) : enter file dirs "" = dirs ++ [""] := by
  unfold enter
  simp [isDoubleDot_empty, isSingleDot_empty, isDrive]

/-- **Behind the last slash** of a path there is an empty segment. -/
theorem resolvePath_append_nil (file : Bool) (pieces : List (List Char)) (dirs : List String) :
    ∃ dirs', resolvePath file dirs (pieces ++ [[]]) = dirs' ++ [""] := by
  induction pieces generalizing dirs with
  | nil =>
    refine ⟨dirs, ?_⟩
    rw [List.nil_append, resolvePath, show percentEncode inPathSet [] = "" from rfl,
      enter_empty, isDoubleDot_empty, isSingleDot_empty]
    exact List.append_nil _
  | cons piece pieces ih =>
    obtain ⟨dirs', rest⟩ := ih (enter file dirs (percentEncode inPathSet piece))
    refine ⟨dirs', ?_⟩
    rw [List.cons_append, resolvePath, rest]
    simp

theorem resolvePath_of_closed (file special : Bool) (dirs : List String) {cs : List Char}
    (closed : Closed cs) :
    ∃ dirs', resolvePath file dirs (splitPath special cs) = dirs' ++ [""] := by
  obtain ⟨pieces, split⟩ := splitPath_of_closed special closed
  rw [split]
  exact resolvePath_append_nil file pieces dirs

theorem directory_absolutePath (special : Bool) {cs : List Char} (closed : Closed cs) :
    ∃ dirs, Directory dirs (absolutePath special cs) := by
  cases cs with
  | nil =>
    cases special with
    | true => exact ⟨[], .slash []⟩
    | false => exact ⟨[], .root⟩
  | cons c rest =>
    have behind : Closed (if isSlash special c then rest else c :: rest) := by
      split_ifs
      · exact closed.suffix (List.suffix_cons c rest)
      · exact closed
    obtain ⟨dirs, path⟩ := resolvePath_of_closed false special [] behind
    exact ⟨dirs, by rw [absolutePath, path]; exact .slash dirs⟩

/-- The path of a file loses its empty first segments, but not the one behind the last slash. -/
theorem directory_dropEmpty (dirs : List String) :
    ∃ dirs', Directory dirs' (dropEmpty (dirs ++ [""])) := by
  induction dirs with
  | nil => exact ⟨[], .slash []⟩
  | cons dir dirs ih =>
    rw [List.cons_append, dropEmpty]
    by_cases empty : dir.isEmpty = true
    · rw [List.dropWhile_cons_of_pos empty]
      exact ih
    · rw [List.dropWhile_cons_of_neg empty]
      exact ⟨dir :: dirs, .slash (dir :: dirs)⟩

/-! ### Addresses -/

theorem splitTail_of_bare {cs path : List Char} (split : splitTail cs = (path, none, none)) :
    path = cs := by
  unfold splitTail at split
  dsimp only at split
  have whole := List.takeWhile_append_dropWhile (p := (!endsPath ·)) (l := cs)
  split at split
  · split at split <;> cases split
  · cases split
  · next nothing =>
    cases split
    rw [nothing, List.append_nil] at whole
    exact whole

/-- An address that ends in a closed text has a path that ends in a closed text, unless there is
something behind it. -/
theorem isDirectory_withTail {u : Url} {special : Bool} {cs : List Char}
    (names : List Char → List String)
    (path : ∀ {path}, splitTail cs = (path, none, none) → ∃ dirs, Directory dirs (names path)) :
    IsDirectory (withTail { u with path := .segments (names (splitTail cs).1) } special
      (splitTail cs).2.1 (splitTail cs).2.2) := by
  intro segments same noQuery noFragment
  cases same
  have query : (splitTail cs).2.1 = none := Option.map_eq_none_iff.mp noQuery
  have fragment : (splitTail cs).2.2 = none := Option.map_eq_none_iff.mp noFragment
  exact path (Prod.ext rfl (Prod.ext query fragment))

theorem isDirectory_withPath (u : Url) (special : Bool) {cs : List Char} (closed : Closed cs) :
    IsDirectory (withPath u special cs) := by
  refine isDirectory_withTail (absolutePath special) fun {path} split => ?_
  rw [splitTail_of_bare split]
  exact directory_absolutePath special closed

theorem isDirectory_fileAt (host : String) {cs : List Char} (closed : Closed cs) :
    IsDirectory (fileAt host cs) := by
  have files : ∀ host, IsDirectory (withTail ⟨"file", "", "", some host, none,
      .segments (dropEmpty (resolvePath true [] (splitPath true (splitTail cs).1))), none,
      none⟩ true (splitTail cs).2.1 (splitTail cs).2.2) := fun host => by
    refine isDirectory_withTail (u := ⟨"file", "", "", some host, none, .segments [], none, none⟩)
      (fun path => dropEmpty (resolvePath true [] (splitPath true path))) fun {path} split => ?_
    rw [splitTail_of_bare split]
    obtain ⟨dirs, resolved⟩ := resolvePath_of_closed true true [] closed
    rw [resolved]
    exact directory_dropEmpty dirs
  exact files _

/-- Nothing is left of a server without a text. -/
theorem reads_parseServer_nil (special : Bool) :
    Reads (fun p => p.2.2 = []) (parseServer special []) := by
  unfold parseServer
  simp only [List.take_nil, List.drop_nil]
  cases special with
  | true => exact reads_throw _ _
  | false => exact .bind fun host _ => reads_pure rfl

theorem isDirectory_parseAuthority (scheme : String) {cs : List Char} (closed : Closed cs) :
    Reads IsDirectory (parseAuthority scheme cs) := by
  unfold parseAuthority
  dsimp only
  refine .bind fun ⟨user, server⟩ split => .bind fun ⟨host, port, rest⟩ served => ?_
  dsimp only at served ⊢
  have path : Closed (rest ++ cs.dropWhile fun c =>
      !(isSlash (isSpecial scheme) c || endsPath c)) := by
    obtain rfl | ⟨front, rfl⟩ := closed.cases
    · -- nothing follows the slashes, so nothing is left of the server
      cases split
      have nothing : rest = [] := reads_parseServer_nil _ _ served
      rw [nothing]
      exact closed_nil
    · -- the slash at the end stops the authority
      refine (closed.suffix (List.dropWhile_suffix _)).append ?_ rest
      intro passed
      have slash := List.dropWhile_eq_nil_iff.mp passed '/' (by simp)
      simp [isSlash] at slash
  exact reads_ite (reads_throw _ _) (reads_pure (isDirectory_withPath _ _ path))

theorem isDirectory_parseFile {cs : List Char} (closed : Closed cs) :
    Reads IsDirectory (parseFile cs) := by
  unfold parseFile
  dsimp only
  generalize hrest : cs.drop ((cs.take 2).takeWhile (isSlash true)).length = rest
  have behind : Closed rest := closed.suffix (hrest ▸ List.drop_suffix _ cs)
  generalize htail : (rest.dropWhile fun c => !(isSlash true c || endsPath c)) = tail
  have behind' : Closed tail := behind.suffix (htail ▸ List.dropWhile_suffix _)
  refine reads_ite (reads_pure (isDirectory_fileAt _ behind)) ?_
  refine reads_ite (reads_pure (isDirectory_fileAt _ behind)) ?_
  refine reads_ite (reads_pure (isDirectory_fileAt _ behind')) (.bind fun host _ => ?_)
  refine reads_ite (reads_pure (isDirectory_fileAt _ behind'))
    (reads_pure (isDirectory_fileAt _ ?_))
  split_ifs
  · exact behind'.suffix (List.drop_suffix 1 tail)
  · exact behind'

theorem isDirectory_parseOther (scheme : String) {cs : List Char} (closed : Closed cs) :
    Reads IsDirectory (parseOther scheme cs) := by
  unfold parseOther
  split
  · exact isDirectory_parseAuthority scheme (closed.suffix (List.suffix_append ['/', '/'] _))
  · exact reads_pure (isDirectory_withPath _ false closed)
  · -- an address with an opaque path has no segments
    refine reads_pure fun names path => ?_
    cases path

theorem suffix_of_scheme? {cs rest : List Char} {scheme : String}
    (h : scheme? cs = some (scheme, rest)) : rest <:+ cs := by
  unfold scheme? at h
  dsimp only at h
  split_ifs at h
  split at h
  · next behind split =>
    cases h
    exact (List.suffix_cons ':' rest).trans (split ▸ List.dropWhile_suffix _)
  · cases h

/-- **An address that ends in a slash** is the address of a directory. -/
theorem isDirectory_parse {s : String} (ends : s.toList.getLast? = some '/') :
    Reads IsDirectory (parse s) := by
  unfold parse
  split
  · exact nofun
  · next scheme rest found =>
    have closed := (closed_clean ends).suffix (suffix_of_scheme? found)
    split_ifs
    · exact isDirectory_parseFile closed
    · exact isDirectory_parseAuthority scheme (closed.suffix (List.dropWhile_suffix _))
    · exact isDirectory_parseOther scheme closed

end Url

/-- **A base address** has a directory in which references begin, if it has segments and nothing
behind them. -/
theorem Config.exists_directory {host : String} {base : Url} (address : baseUrl host = .ok base)
    {names : List String} (hierarchical : base.path = .segments names) (query : base.query = none)
    (fragment : base.fragment = none) : ∃ dirs, Url.Directory dirs names := by
  unfold baseUrl at address
  dsimp only at address
  split at address
  · next url parsed =>
    cases address
    refine Url.isDirectory_parse ?_ base parsed names hierarchical query fragment
    split_ifs with ends
    · exact beq_iff_eq.mp ends
    · rw [String.toList_append]
      exact List.getLast?_concat
  · cases address

end TokenChain
