import Mathlib.Data.List.Range
import TokenChain.Chain

/-! # What a chain remembers

The reference for calls that are made one after another. `Memory.call` says all that a call of the
chain does, given what each source would reply if it were asked in this call: which places are
asked, what the caller gets, and what the chain remembers afterwards. Nothing here scans: the scan
is described by the place at which it ends (`Memory.winner?`, `Memory.reach`).

`Memory.path` is the same stretch of places for a scan that begins anywhere, as the induction over a
scan needs it (`path_range`). -/

namespace TokenChain

/-- What a chain remembers between calls. Sources are named by their places. -/
structure Memory where
  selected : Option Nat
  /-- Why a source is ruled out, if it is. -/
  ruledOut : Nat → Option String
  lastScan : List (Nat × Fare)

/-- All that a call does: the places that it asks, in order and once each, what the caller gets, and
what is remembered afterwards. -/
structure Memory.Effect where
  asked : List Nat
  result : Except Error Token
  after : Memory

namespace Memory

/-- The memory of a chain that has not been called yet. -/
def blank : Memory := ⟨none, fun _ => none, []⟩

/-- The memory that a state of a chain stands for. -/
def ofState (s : ChainState) : Memory := ⟨s.selected, s.reason?, s.lastScan⟩

/-- Nothing is selected and no source is ruled out any more. -/
def forget (m : Memory) : Memory := { m with selected := none, ruledOut := fun _ => none }

/-- The reason for ruling a source out that a reply gives, if it does. -/
def reasonIn : Except Error Token → Option String
  | .error (.unavailable _ reason) => some reason
  | _ => none

variable (m : Memory) (reply : Nat → Except Error Token) (name : Nat → String) (n : Nat)

/-- Whether a scan asks the source at a place when it comes there. -/
def isOpen (i : Nat) : Bool := (m.ruledOut i).isNone

/-- Whether a scan ends at a place with a token. -/
def wins (i : Nat) : Bool := m.isOpen i && (reply i).isOk

/-- The first of `n` places at which a scan ends with a token. -/
def winner? : Option Nat := (List.range n).find? (m.wins reply)

/-- How many of `n` places a scan comes to. -/
def reach : Nat := ((m.winner? reply n).map (· + 1)).getD n

/-- The places that a scan asks. -/
def asked : List Nat := (List.range (m.reach reply n)).filter m.isOpen

/-- How a source fares to which a scan comes. -/
def fare (i : Nat) : Fare :=
  match m.ruledOut i, reply i with
  | some reason, _ => .skipped reason
  | none, .ok token => .succeeded token.expiresAt
  | none, .error e => .failed e.category e.message

/-- Why a source to which a scan comes gives no token; of no account if it gives one. -/
def cause (i : Nat) : Error :=
  match m.ruledOut i, reply i with
  | some reason, _ => .unavailable (name i) reason
  | none, .error e => e
  | none, .ok _ => default

/-- What the caller gets from a scan. -/
def scanResult : Except Error Token :=
  match m.winner? reply n with
  | some k => reply k
  | none => .error (.aggregate ((List.range n).map fun i => (name i, m.cause reply name i)))

/-- What is remembered after a scan. -/
def afterScan : Memory where
  selected := m.winner? reply n
  ruledOut i := if i ∈ m.asked reply n then reasonIn (reply i) else m.ruledOut i
  lastScan := (List.range (m.reach reply n)).map fun i => (i, m.fare reply i)

/-- **A call** of a chain with `n` sources, if the source at place `i` replies `reply i` when it is
asked. -/
def call : Effect :=
  match m.selected with
  | some k => ⟨[k], reply k, m⟩
  | none => ⟨m.asked reply n, m.scanResult reply name n, m.afterScan reply n⟩

/-! ### Scans from anywhere -/

/-- The first of the given places, in their order, up to and with the one at which a scan ends. -/
def path : List Nat → List Nat
  | [] => []
  | i :: places => if m.wins reply i then [i] else i :: path places

variable {m reply}

theorem mem_of_mem_path {i : Nat} : ∀ {places : List Nat}, i ∈ m.path reply places → i ∈ places
  | j :: places, h => by
    simp only [path] at h
    split_ifs at h
    · exact List.mem_cons.mpr (Or.inl (List.mem_singleton.mp h))
    · rcases List.mem_cons.mp h with rfl | h
      · exact List.mem_cons_self
      · exact List.mem_cons_of_mem j (mem_of_mem_path h)

/-- Two memories with the replies of the sources agree about some places. -/
structure Agree (m m' : Memory) (reply reply' : Nat → Except Error Token) (places : List Nat) :
    Prop where
  ruledOut : ∀ i ∈ places, m'.ruledOut i = m.ruledOut i
  reply : ∀ i ∈ places, reply' i = reply i

namespace Agree

variable {m' : Memory} {reply' : Nat → Except Error Token} {places : List Nat}

theorem tail {i : Nat} (h : Agree m m' reply reply' (i :: places)) :
    Agree m m' reply reply' places :=
  ⟨fun j hj => h.ruledOut j (List.mem_cons_of_mem i hj),
    fun j hj => h.reply j (List.mem_cons_of_mem i hj)⟩

theorem isOpen (h : Agree m m' reply reply' places) : ∀ i ∈ places, m'.isOpen i = m.isOpen i :=
    fun i hi => by
  rw [Memory.isOpen, Memory.isOpen, h.ruledOut i hi]

theorem wins (h : Agree m m' reply reply' places) :
    ∀ i ∈ places, m'.wins reply' i = m.wins reply i :=
  fun i hi => by rw [Memory.wins, Memory.wins, h.isOpen i hi, h.reply i hi]

theorem find? : ∀ {places : List Nat}, Agree m m' reply reply' places →
    places.find? (m'.wins reply') = places.find? (m.wins reply)
  | [], _ => rfl
  | i :: places, h => by
    rw [List.find?_cons, List.find?_cons, h.wins i List.mem_cons_self, h.tail.find?]

theorem path : ∀ {places : List Nat}, Agree m m' reply reply' places →
    m'.path reply' places = m.path reply places
  | [], _ => rfl
  | i :: places, h => by
    rw [Memory.path, Memory.path, h.wins i List.mem_cons_self, h.tail.path]

theorem opens (h : Agree m m' reply reply' places) :
    (m.path reply places).filter m'.isOpen = (m.path reply places).filter m.isOpen :=
  List.filter_congr fun i hi => h.isOpen i (mem_of_mem_path hi)

theorem fares (h : Agree m m' reply reply' places) :
    ((m.path reply places).map fun i => (i, m'.fare reply' i)) =
      (m.path reply places).map fun i => (i, m.fare reply i) :=
  List.map_congr_left fun i hi => by
    rw [fare, fare, h.ruledOut i (mem_of_mem_path hi), h.reply i (mem_of_mem_path hi)]

theorem causes (h : Agree m m' reply reply' places) (name : Nat → String) :
    (places.map fun i => (name i, m'.cause reply' name i)) =
      places.map fun i => (name i, m.cause reply name i) :=
  List.map_congr_left fun i hi => by rw [cause, cause, h.ruledOut i hi, h.reply i hi]

end Agree

theorem path_range' : ∀ (n s : Nat), m.path reply (List.range' s n) =
    List.range' s ((((List.range' s n).find? (m.wins reply)).map (· + 1 - s)).getD n)
  | 0, s => by simp [path]
  | n + 1, s => by
    have ih := path_range' n (s + 1)
    rw [List.range'_succ, path]
    cases hs : m.wins reply s with
    | true => simp [hs]
    | false =>
      rw [if_neg (by simp), ih, List.find?_cons_of_neg (by simp [hs])]
      cases hf : (List.range' (s + 1) n).find? (m.wins reply) with
      | none => simp [List.range'_succ]
      | some k =>
        have hk := List.mem_range'_1.mp (List.mem_of_find?_eq_some hf)
        have hlen : k + 1 - s = (k + 1 - (s + 1)) + 1 := by omega
        simp only [Option.map_some, Option.getD_some, hlen, List.range'_succ]

theorem path_range (n : Nat) : m.path reply (List.range n) = List.range (m.reach reply n) := by
  rw [List.range_eq_range', path_range' n 0, List.range_eq_range', reach, winner?,
    List.range_eq_range']
  rfl

end Memory

end TokenChain
