import TokenChain.Source

/-! # Chains

A chain asks its sources for a token, one after another. The first call scans the sources in order
and the first one that issues a token is selected: later calls go straight to it and nowhere else,
even if it fails. A source that said in a scan that it does not apply is ruled out and skipped in
later scans. `Chain.reset` forgets the selection and what was ruled out.

Only one call scans at a time. A call that finds no selection takes a ticket and waits for its turn
(`Turns`); when its turn has come it looks again, for another call may have selected a source in the
meantime.

The state of a chain stands beside the state `ρ` of its sources (`Shared`), which know nothing of
the chain. -/

namespace TokenChain

/-! ### Turns -/

/-- Whose turn it is: the waiting tickets in order, the first of which has its turn, and the next
ticket. -/
structure Turns where
  waiting : List Nat
  next : Nat
deriving DecidableEq, Repr, Inhabited

namespace Turns

/-- Nobody waits. -/
def empty : Turns := ⟨[], 0⟩

/-- Takes a ticket. -/
def enter (t : Turns) : Turns := ⟨t.waiting ++ [t.next], t.next + 1⟩

/-- Gives a ticket back. -/
def leave (ticket : Nat) (t : Turns) : Turns := { t with waiting := t.waiting.filter (· != ticket) }

/-- Whether it is the ticket's turn. -/
def isFirst (ticket : Nat) (t : Turns) : Bool := t.waiting.head? == some ticket

end Turns

/-! ### The state of a chain -/

/-- How a source fared in a scan. -/
inductive Fare where
  | succeeded (expiresAt : Timestamp)
  | failed (category : Category) (message : String)
  /-- Not asked, because an earlier scan had ruled it out. -/
  | skipped (reason : String)
deriving DecidableEq, Repr, Inhabited

/-- What a chain remembers. Sources are named by their places. -/
structure ChainState where
  /-- The source to which all calls go. -/
  selected : Option Nat
  /-- Why sources are ruled out. -/
  ruledOut : List (Nat × String)
  /-- How the sources fared in the scan that ended last. -/
  lastScan : List (Nat × Fare)
  turns : Turns
deriving DecidableEq, Repr, Inhabited

namespace ChainState

/-- The state before any call. -/
def initial : ChainState := ⟨none, [], [], .empty⟩

/-- Why a source is ruled out, if it is. -/
def reason? (s : ChainState) (i : Nat) : Option String := s.ruledOut.lookup i

/-- Rules a source out. -/
def ruleOut (i : Nat) (reason : String) (s : ChainState) : ChainState :=
  { s with ruledOut := (i, reason) :: s.ruledOut.filter fun r => r.1 != i }

/-- Selects a source, and keeps how the scan went. -/
def select (i : Nat) (scan : List (Nat × Fare)) (s : ChainState) : ChainState :=
  { s with selected := some i, lastScan := scan }

/-- Keeps how a scan without success went. -/
def conclude (scan : List (Nat × Fare)) (s : ChainState) : ChainState := { s with lastScan := scan }

/-- Forgets the selection and what was ruled out. -/
def forget (s : ChainState) : ChainState := { s with selected := none, ruledOut := [] }

/-- Takes a ticket. -/
def enter (s : ChainState) : ChainState := { s with turns := s.turns.enter }

/-- Gives a ticket back. -/
def leave (ticket : Nat) (s : ChainState) : ChainState := { s with turns := s.turns.leave ticket }

end ChainState

/-- The state of a chain beside the state of its sources. -/
structure Shared (ρ : Type) where
  chain : ChainState
  sources : ρ

namespace Shared

variable {ρ α : Type}

/-- Changes the state of the chain. -/
def onChain (f : ChainState → ChainState) (s : Shared ρ) : Shared ρ := { s with chain := f s.chain }

/-- A task of the sources. -/
def lift (t : Task ρ α) : Task (Shared ρ) α :=
  t.zoom Shared.sources fun sources s => { s with sources }

end Shared

/-! ### Chains -/

/-- Sources in the order in which they are asked. -/
structure Chain (ρ : Type) where
  sources : List (Source ρ)

namespace Chain

variable {ρ : Type}

/-- The name under which a chain writes to the log. -/
def credential : String := "chain"

/-- The error of a source that is skipped. -/
def skipNotice (reason : String) : String := "skipped, unavailable in an earlier scan: " ++ reason

/-- What a scan has found so far: how the sources fared, and why they failed. -/
structure Findings where
  fares : List (Nat × Fare)
  failures : List (String × Error)

namespace Findings

/-- Nothing yet. -/
def empty : Findings := ⟨[], []⟩

/-- One more source was skipped. -/
def skip (f : Findings) (i : Nat) (name reason : String) : Findings :=
  ⟨f.fares ++ [(i, .skipped reason)], f.failures ++ [(name, .unavailable name reason)]⟩

/-- One more source failed. -/
def fail (f : Findings) (i : Nat) (name : String) (e : Error) : Findings :=
  ⟨f.fares ++ [(i, .failed e.category e.message)], f.failures ++ [(name, e)]⟩

/-- The scan that ends with the success of a source. -/
def succeed (f : Findings) (i : Nat) (token : Token) : List (Nat × Fare) :=
  f.fares ++ [(i, .succeeded token.expiresAt)]

end Findings

/-- What a failure of a source changes: only a source that does not apply is ruled out. -/
def noteFailure (i : Nat) : Error → ChainState → ChainState
  | .unavailable _ reason => ChainState.ruleOut i reason
  | _ => id

/-- Scans the sources from place `i` on. -/
def scanFrom (r : Request) : List (Source ρ) → Nat → Findings → Task (Shared ρ) (Except Error Token)
  | [], _, f => .step (Shared.onChain (ChainState.conclude f.fares)) fun _ =>
    .done (.error (.aggregate f.failures))
  | source :: rest, i, f => .step id fun s =>
    match s.chain.reason? i with
    | some reason => .note ⟨.debug, source.name, skipNotice reason⟩ <|
        scanFrom r rest (i + 1) (f.skip i source.name reason)
    | none => (Shared.lift (source.getToken r)).bind fun
      | .ok token => .step (Shared.onChain (ChainState.select i (f.succeed i token))) fun _ =>
        .done (.ok token)
      | .error e => .step (Shared.onChain (noteFailure i e)) fun _ =>
        scanFrom r rest (i + 1) (f.fail i source.name e)

/-- Asks the source at a place. -/
def ask (c : Chain ρ) (r : Request) (i : Nat) : Task (Shared ρ) (Except Error Token) :=
  match c.sources[i]? with
  | some source => Shared.lift (source.getToken r)
  | none => .crash

/-- Takes a ticket and waits for its turn, as long as the request allows. -/
def waitTurn (r : Request) : Task (Shared ρ) (Except Error Nat) :=
  r.within credential none <|
    .step (Shared.onChain ChainState.enter) fun before =>
      let ticket := before.chain.turns.next
      .wait { ready := fun s => s.chain.turns.isFirst ticket
              abandon := Shared.onChain (ChainState.leave ticket) } fun _ => .done (.ok ticket)

/-- Gives a ticket back and ends with a value. -/
def leaveWith {α : Type} (ticket : Nat) (next : Task (Shared ρ) α) : Task (Shared ρ) α :=
  .step (Shared.onChain (ChainState.leave ticket)) fun _ => next

/-- The call whose turn it is. -/
def takeTurn (c : Chain ρ) (r : Request) (ticket : Nat) : Task (Shared ρ) (Except Error Token) :=
  .step id fun s =>
    match s.chain.selected with
    | some i => leaveWith ticket (c.ask r i)
    | none =>
      ((scanFrom r c.sources 0 .empty).onLoss (Shared.onChain (ChainState.leave ticket))).bind
        fun result => leaveWith ticket (.done result)

/-- Gets a token from the selected source, or scans for one. -/
def getToken (c : Chain ρ) (r : Request) : Task (Shared ρ) (Except Error Token) :=
  .step id fun s =>
    match s.chain.selected with
    | some i => c.ask r i
    | none => (waitTurn r).bind fun
      | .error e => .done (.error e)
      | .ok ticket => c.takeTurn r ticket

/-- What is logged when a selection is forgotten. -/
def resetNotice (name : String) : Note :=
  ⟨.info, credential, "selection of " ++ name ++ " reset by operator"⟩

/-- Forgets the selection and what was ruled out, without waiting for a scan. -/
def reset (c : Chain ρ) : Task (Shared ρ) Unit :=
  .step (Shared.onChain ChainState.forget) fun before =>
    match before.chain.selected.bind fun i => c.sources[i]? with
    | some source => .note (resetNotice source.name) (.done ())
    | none => .done ()

/-- What is shown of a source and its place. -/
def describeSource (i : Nat) (s : Source ρ) : String :=
  "SourceDescriptor \x7b index: " ++ toString i ++ ", name: " ++
    Text.Quoted.encode s.name ++ ", kind: " ++ s.kind.label ++ " \x7d"

/-- What is shown of a chain, given its selection. -/
def description (c : Chain ρ) (selected : Option Nat) : String :=
  let chosen := match selected with
    | some i => "Some(" ++ toString i ++ ")"
    | none => "None"
  "ChainProvider \x7b sources: [" ++
    ", ".intercalate (c.sources.zipIdx.map fun (s, i) => describeSource i s) ++
    "], selected: " ++ chosen ++ ", .. \x7d"

end Chain

end TokenChain
