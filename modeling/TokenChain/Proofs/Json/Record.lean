import TokenChain.Json.Record
import TokenChain.Proofs.Text.Numeral

/-! # Fields of records

A `Frame` is a document with a place for one more value. It holds a field of a record if the place
is where the record has the field (`Frame.Holds`): anywhere among the members of an object, or at
the position of the field in an array. What a document gives for the other fields does not depend on
what stands at the place (`Frame.Separates`, `Frame.separates`).

The shortest decimal text of an integer of 64 bits is read as this integer
(`Document.int64?_decimal`). -/

namespace TokenChain.Json

open TokenChain.Text

/-! ### Lists of fields -/

theorem mapM_eq_none {α β : Type} {f : α → Option β} {as : List α} {a : α} (mem : a ∈ as)
    (fails : f a = none) : as.mapM f = none := by
  induction as with
  | nil => cases mem
  | cons b bs ih =>
    rw [List.mapM_cons]
    obtain rfl | later := List.mem_cons.mp mem
    · rw [fails]
      rfl
    · rw [ih later]
      cases f b <;> rfl

theorem mapM_congr {α β : Type} {f g : α → Option β} {as : List α} (same : ∀ a ∈ as, g a = f a) :
    as.mapM g = as.mapM f := by
  induction as with
  | nil => rfl
  | cons a as ih =>
    rw [List.mapM_cons, List.mapM_cons, same a List.mem_cons_self,
      ih fun b h => same b (List.mem_cons_of_mem a h)]

theorem mapM_update {α β : Type} {f g : α → Option β} {as : List α} (nodup : as.Nodup) {a : α}
    {i : Nat} (place : as[i]? = some a) (same : ∀ b ≠ a, g b = f b) {x y : β} (old : f a = some x)
    (new : g a = some y) : as.mapM g = (as.mapM f).map fun bs => bs.set i y := by
  induction as generalizing i with
  | nil => cases place
  | cons b bs ih =>
    obtain ⟨fresh, nodup⟩ := List.nodup_cons.mp nodup
    rw [List.mapM_cons, List.mapM_cons]
    cases i with
    | zero =>
      cases place
      have rest : bs.mapM g = bs.mapM f :=
        mapM_congr fun c h => same c fun equal => fresh (equal ▸ h)
      rw [old, new, rest]
      cases bs.mapM f <;> rfl
    | succ i =>
      have other : b ≠ a := fun equal => fresh (equal ▸ List.mem_of_getElem? place)
      rw [same b other, ih nodup place]
      cases f b <;> cases bs.mapM f <;> rfl

theorem map_range_update {β : Type} {f g : Nat → β} {n i : Nat} {y : β}
    (same : ∀ j ≠ i, g j = f j) (new : g i = y) :
    (List.range n).map g = ((List.range n).map f).set i y := by
  refine List.ext_getElem? fun j => ?_
  rw [List.getElem?_set, List.getElem?_map, List.getElem?_map, List.length_map, List.length_range]
  obtain inside | outside := Nat.lt_or_ge j n
  · rw [List.getElem?_range inside, Option.map_some, Option.map_some]
    obtain rfl | apart := eq_or_ne i j
    · rw [if_pos rfl, if_pos inside, new]
    · rw [if_neg apart, same j apart.symm]
  · rw [List.getElem?_eq_none (by simpa using outside), Option.map_none, Option.map_none]
    obtain rfl | apart := eq_or_ne i j
    · rw [if_pos rfl, if_neg (by omega)]
    · rw [if_neg apart]

theorem length_of_mapM {α β : Type} {f : α → Option β} {as : List α} {bs : List β}
    (h : as.mapM f = some bs) : bs.length = as.length := by
  induction as generalizing bs with
  | nil =>
    cases h
    rfl
  | cons a as ih =>
    rw [List.mapM_cons] at h
    simp only [Option.bind_eq_bind, Option.bind_eq_some_iff, Option.pure_def,
      Option.some.injEq] at h
    obtain ⟨b, -, bs, rest, rfl⟩ := h
    rw [List.length_cons, List.length_cons, ih rest]

/-! ### Frames -/

/-- **A document with a place for one more value**: between the members of an object or the items of
an array. -/
inductive Frame where
  | object (before after : List (Option String × Document))
  | array (before after : List Document)

namespace Frame

/-- **A field of a record** stands at the place, or the field is not given. -/
inductive Holds (names : List String) (name : String) :
    Frame → Option Document → Document → Prop where
  | member {before after : List (Option String × Document)} (v : Document) :
    Holds names name (.object before after) (some v) (.object (before ++ (some name, v) :: after))
  | noMember {before after : List (Option String × Document)}
      (fresh : ∀ m ∈ before ++ after, m.1 ≠ some name) :
    Holds names name (.object before after) none (.object (before ++ after))
  | item {before after : List Document} (v : Document) (place : names[before.length]? = some name) :
    Holds names name (.array before after) (some v) (.array (before ++ v :: after))
  | noItem {before : List Document} (place : names[before.length]? = some name) :
    Holds names name (.array before []) none (.array before)

end Frame

/-- What the members of an object give for a field; a field that is given twice is refused. -/
def given? (members : List (Option String × Document)) (name : String) : Option (Option Document) :=
  match members.filter fun m => m.1 == some name with
  | [] => some none
  | [m] => some (some m.2)
  | _ => none

theorem fields?_object (names : List String) (members : List (Option String × Document)) :
    (Document.object members).fields? names =
      if members.all fun m => m.1.isSome then names.mapM (given? members) else none := rfl

theorem fields?_array (names : List String) (items : List Document) :
    (Document.array items).fields? names =
      if items.length ≤
        names.length then some ((List.range names.length).map fun i => items[i]?) else none := rfl

theorem length_of_fields? {names : List String} {d : Document} {fields : List (Option Document)}
    (h : d.fields? names = some fields) : fields.length = names.length := by
  cases d with
  | array items =>
    rw [fields?_array] at h
    split at h <;> cases h
    rw [List.length_map, List.length_range]
  | object members =>
    rw [fields?_object] at h
    split at h
    · exact length_of_mapM h
    · cases h
  | _ => cases h

section
variable {before after : List (Option String × Document)} {name : String} {v : Document}

theorem given?_other {other : String} (distinct : other ≠ name) :
    given? (before ++ (some name, v) :: after) other = given? (before ++ after) other := by
  have skipped :
      ((some name, v) :: after).filter (fun m => m.1 == some other) =
        after.filter fun m => m.1 == some other :=
    List.filter_cons_of_neg (by simpa using distinct.symm)
  rw [given?, given?, List.filter_append, List.filter_append, skipped]

theorem given?_of_fresh (fresh : ∀ m ∈ before ++ after, m.1 ≠ some name) :
    given? (before ++ after) name = some none := by
  have none : (before ++ after).filter (fun m => m.1 == some name) = [] := by
    rw [List.filter_eq_nil_iff]
    exact fun m h => by simpa using fresh m h
  rw [given?, none]

theorem given?_self (fresh : ∀ m ∈ before ++ after, m.1 ≠ some name) :
    given? (before ++ (some name, v) :: after) name = some (some v) := by
  have none : ∀ members : List (Option String × Document), (∀ m ∈ members, m ∈ before ++ after) →
      members.filter (fun m => m.1 == some name) = [] := by
    intro members part
    rw [List.filter_eq_nil_iff]
    exact fun m h => by simpa using fresh m (part m h)
  rw [given?, List.filter_append, List.filter_cons_of_pos (by simp),
    none before fun m h => List.mem_append_left _ h,
    none after fun m h => List.mem_append_right _ h]
  rfl

theorem given?_twice (twice : ∃ m ∈ before ++ after, m.1 = some name) :
    given? (before ++ (some name, v) :: after) name = none := by
  obtain ⟨m, mem, same⟩ := twice
  have found :
      m ∈ before.filter (fun m => m.1 == some name) ∨
      m ∈ after.filter fun m => m.1 == some name := by
    simpa [List.mem_filter, same] using mem
  rw [given?, List.filter_append, List.filter_cons_of_pos (by simp)]
  cases first : before.filter fun m => m.1 == some name with
  | nil =>
    cases last : after.filter fun m => m.1 == some name with
    | nil => simp [first, last] at found
    | cons => rfl
  | cons _ more => cases more <;> rfl

end

namespace Frame

variable {names : List String} {name : String} {i : Nat}

/-- **What a document gives for the other fields** does not depend on the field at the place: they
are all given or none, and the field at the place is what is given for it. -/
def Separates (frame : Frame) (names : List String) (name : String) (i : Nat) : Prop :=
  ∃ base : Option (List (Option Document)), (∀ fields ∈ base, fields.length = names.length) ∧
    ∀ x d, frame.Holds names name x d → d.fields? names = base.map fun fields => fields.set i x

theorem separates_object (nodup : names.Nodup) (place : names[i]? = some name)
    (before after : List (Option String × Document)) :
    (object before after).Separates names name i := by
  by_cases twice : ∃ m ∈ before ++ after, m.1 = some name
  · refine ⟨none, nofun, fun x d holds => ?_⟩
    cases holds with
    | member v =>
      rw [fields?_object, mapM_eq_none (List.mem_of_getElem? place) (given?_twice twice)]
      split <;> rfl
    | noMember fresh =>
      obtain ⟨m, mem, same⟩ := twice
      exact absurd same (fresh m mem)
  · have fresh : ∀ m ∈ before ++ after, m.1 ≠ some name := fun m mem same => twice ⟨m, mem, same⟩
    refine ⟨(Document.object (before ++ after)).fields? names, fun _ => length_of_fields?,
      fun x d holds => ?_⟩
    cases holds with
    | member v =>
      have named :
          ((before ++ (some name, v) :: after).all fun m => m.1.isSome) =
            (before ++ after).all fun m => m.1.isSome := by
        simp
      rw [fields?_object, fields?_object, named]
      split
      · exact mapM_update nodup place (fun _ => given?_other)
          (given?_of_fresh fresh) (given?_self fresh)
      · rfl
    | noMember =>
      rw [fields?_object]
      split
      · exact mapM_update nodup place (fun _ _ => rfl) (given?_of_fresh fresh)
          (given?_of_fresh fresh)
      · rfl

theorem separates_array (nodup : names.Nodup) (place : names[i]? = some name)
    (before after : List Document) : (array before after).Separates names name i := by
  have short := (List.getElem?_eq_some_iff.mp place).choose
  have here : names[before.length]? = some name → before.length = i := fun place' =>
    ((List.getElem?_inj short nodup).mp (place.trans place'.symm)).symm
  refine ⟨(Document.array (before ++ .null :: after)).fields? names, fun _ => length_of_fields?,
    fun x d holds => ?_⟩
  cases holds with
  | item v place' =>
    obtain rfl := here place'
    have size : (before ++ v :: after).length = (before ++ Document.null :: after).length := by simp
    rw [fields?_array, fields?_array, size]
    split
    · refine congrArg some (map_range_update (fun j apart => ?_) ?_)
      · obtain early | late := Nat.lt_or_gt_of_ne apart
        · rw [List.getElem?_append_left early, List.getElem?_append_left early]
        · rw [List.getElem?_append_right late.le, List.getElem?_append_right late.le,
            List.getElem?_cons, List.getElem?_cons, if_neg (by omega), if_neg (by omega)]
      · rw [List.getElem?_append_right le_rfl, Nat.sub_self, List.getElem?_cons_zero]
    · rfl
  | noItem place' =>
    obtain rfl := here place'
    rw [fields?_array, fields?_array, if_pos short.le,
      if_pos (by rw [List.length_append]; exact short)]
    refine congrArg some (map_range_update (fun j apart => ?_) ?_)
    · obtain early | late := Nat.lt_or_gt_of_ne apart
      · rw [List.getElem?_append_left early]
      · rw [List.getElem?_append_right late.le, List.getElem?_eq_none late.le,
          List.getElem?_cons, if_neg (by omega)]
        exact (List.getElem?_nil).symm
    · exact List.getElem?_eq_none le_rfl

theorem separates (nodup : names.Nodup) (place : names[i]? = some name) (frame : Frame) :
    frame.Separates names name i := by
  cases frame with
  | object before after => exact separates_object nodup place before after
  | array before after => exact separates_array nodup place before after

end Frame

/-! ### Integers -/

namespace Number

theorem isDigit_eq (c : Char) : c.isDigit = Digits.isDigit c := (Digits.isDigit_eq c).symm

theorem foldl_whole {ds : List Char} (fits : Digits.number ds < 2 ^ 64) :
    ds.foldl Gathered.whole ⟨0, 0, false⟩ = ⟨Digits.number ds, 0, false⟩ := by
  induction ds using List.reverseRecOn with
  | nil => rfl
  | append_singleton ds c ih =>
    rw [Digits.number_append_singleton] at fits ⊢
    have next : Digits.number ds * 10 + (c.toNat - 48) =
        10 * Digits.number ds + Digits.valueOf c := by
      rw [Nat.mul_comm]
      rfl
    rw [List.foldl_append, ih (by omega), List.foldl_cons, List.foldl_nil, Gathered.whole]
    dsimp only
    rw [next, Bool.false_or, if_neg (by simpa using fits)]

section
variable {k : Nat} {ds : List Char} (numeral : Numeral k ds)
include numeral

theorem takeWhile_numeral : ds.takeWhile Char.isDigit = ds := by
  rw [List.takeWhile_eq_self_iff]
  exact fun c h => (isDigit_eq c).trans (numeral.isDigit h)

theorem dropWhile_numeral : ds.dropWhile Char.isDigit = [] := by
  rw [List.dropWhile_eq_nil_iff]
  exact fun c h => (isDigit_eq c).trans (numeral.isDigit h)

theorem ofText?_numeral (fits : k < 2 ^ 64) : ofText? ds = some (.int k) := by
  have gathered := foldl_whole (by rwa [numeral.number_eq] : Digits.number ds < 2 ^ 64)
  rw [ofText?]
  · rw [takeWhile_numeral numeral, dropWhile_numeral numeral, gathered, numeral.number_eq]
    rfl
  · rintro cs rfl
    exact numeral.head?_ne rfl rfl

theorem ofText?_minus (positive : 0 < k) (fits : k ≤ 2 ^ 63) :
    ofText? ('-' :: ds) = some (.int (-k)) := by
  have gathered := foldl_whole (by rw [numeral.number_eq]; omega : Digits.number ds < 2 ^ 64)
  have exact_ : (decide (k = 0) || decide (k > Nat.pow 2 63)) = false := by
    rw [Bool.or_eq_false_iff, decide_eq_false_iff_not, decide_eq_false_iff_not]
    exact ⟨positive.ne', fits.not_gt⟩
  rw [ofText?, takeWhile_numeral numeral, dropWhile_numeral numeral, gathered, numeral.number_eq]
  simp only [exact_, Bool.false_eq_true, if_false, Bool.not_true]

end

theorem ofText?_decimal {n : Int} (low : -2 ^ 63 ≤ n) (high : n < 2 ^ 63) :
    ofText? (toString n).toList = some (.int n) := by
  have numeral : ∀ k : Nat, Numeral k k.repr.toList :=
    fun k => ⟨0, by rw [Nat.repr_eq_ofList_toDigits, String.toList_ofList]; rfl⟩
  rw [Int.toString_eq_repr, Int.repr_eq_if]
  split
  · rename_i positive
    rw [ofText?_numeral (numeral _) (by omega), Int.toNat_of_nonneg positive]
  · rename_i negative
    rw [String.toList_append]
    refine (ofText?_minus (numeral _) (by omega) (by omega)).trans ?_
    rw [Int.toNat_of_nonneg (by omega), Int.neg_neg]

end Number

theorem Document.int64?_decimal {n : Int} (low : -2 ^ 63 ≤ n) (high : n < 2 ^ 63) :
    (Document.number (toString n).toList).int64? = some n := by
  rw [int64?, Number.ofText?_decimal low high]
  exact if_pos high

end TokenChain.Json
