import TokenChain.Chain.Member
import TokenChain.Schedule

/-! # Sessions

A chain at work: one step after another on a chain and its surroundings. A step lets one or more
calls run until all of them are over, or looks at the chain, or changes its surroundings. Each step
is answered by a `Report`.

Every call listens to a cancellation of its own, and its times count from the instant at which it
starts. -/

namespace TokenChain

/-- One call for a token. Without a member to ask, it asks the chain. -/
structure Call where
  scopes : List String
  timeout : Option Duration
  cancelled : Bool
  cancelAfter : Option Duration
  abortAfter : Option Duration
  start : Duration
  via : Option Nat
deriving Repr, Inhabited

/-- A chain, the members that may be asked on their own, and the world they are in. -/
structure Session where
  members : List Member
  chainMembers : List Member
  world : World (Shared Surroundings)
  /-- The next cancellation that no call listens to yet. -/
  nextKey : CancelKey

/-- What becomes of a call, and when it is over. -/
structure CallResult where
  ending : Ending (Except Error Token)
  time : Instant
deriving Inhabited

/-- What happened outside while calls ran. -/
structure Traffic where
  sent : List Message
  runs : List ToolRun
deriving Inhabited

/-- A source and its place in the chain. -/
structure Place where
  index : Nat
  name : String
  kind : SourceKind
deriving DecidableEq, Repr, Inhabited

/-- What a session can be asked to do. -/
inductive Session.Step where
  | get (call : Call)
  | many (calls : List Call)
  | reset
  | clearLog
  | wait (time : Duration)
  | file (name : String) (node : Option FileNode)
  | sources
  | lastScan
  | log
  | debug (via : Option Nat)
  | inspect (via : Nat)

/-- What a session answers. -/
inductive Session.Report where
  | got (result : Option CallResult) (traffic : Traffic)
  | gotMany (results : List (Option CallResult)) (traffic : Traffic) (time : Instant)
  | nothing
  | sources (places : List Place)
  | scan (fares : List (Place × Fare))
  | log (lines : List String) (capacity : Nat)
  | debug (text : String)
  | configured (value : Bool)
  | endpoint (state : ProbeState) (imds : Bool) (url description : String)
  | named (name : String) (kind : SourceKind)

/-- What every report goes with: the selection, the length of the log, and the states of the
members' probe gates. -/
structure Session.Status where
  selected : Option Place
  logSize : Nat
  probes : List ProbeState

namespace Session

/-- The chain. -/
def chain (s : Session) : Chain Surroundings := ⟨s.chainMembers.map Member.source⟩

/-- A place in the chain. -/
def place (s : Session) (i : Nat) : Place :=
  match s.chainMembers[i]? with
  | some m => ⟨i, m.source.name, m.source.kind⟩
  | none => ⟨i, "", .explicit⟩

/-- The selected source. -/
def selected (s : Session) : Option Place := s.world.state.chain.selected.map s.place

/-- The states of the members' probe gates. -/
def probes (s : Session) : List ProbeState :=
  (s.members.filterMap Member.gate?).map s.world.state.sources.gates

/-- What goes with a report. -/
def status (s : Session) : Status := ⟨s.selected, s.world.log.size, s.probes⟩

/-! ### Calls -/

/-- When a call begins, at the earliest. -/
def begins (s : Session) (c : Call) : Instant := s.world.now + c.start

/-- The request of a call, unless its deadline lies too far ahead. -/
def request? (s : Session) (c : Call) (key : CancelKey) : Option Request :=
  Request.ofTimeout? c.scopes c.timeout (s.begins c) key

/-- The work of a call once it has begun. -/
def work (s : Session) (c : Call) (key : CancelKey) :
    Task (Shared Surroundings) (Except Error Token) :=
  match s.request? c key, c.via with
  | none, _ => .crash
  | some r, none => s.chain.getToken r
  | some r, some i => match s.members[i]? with
    | some m => Shared.lift (m.source.getToken r)
    | none => .crash

/-- The job of a call. -/
def job (s : Session) (c : Call) (key : CancelKey) :
    Job (Shared Surroundings) (Except Error Token) :=
  let work := s.work c key
  .ofTask key (c.abortAfter.map (s.begins c + ·))
    (if c.start.nanos = 0 then work else (Task.sleepUntil (s.begins c)).bind fun _ => work)

/-- The world in which the request of a call has been cancelled, or will be. -/
def arrange (s : Session) (c : Call) (key : CancelKey) (w : World (Shared Surroundings)) :
    World (Shared Surroundings) :=
  if c.cancelled then w.cancel key
  else match c.cancelAfter with
  | some d => w.scheduleCancel key (s.begins c + d)
  | none => w

/-- How often a call waits at most, besides for its start and for its turn. -/
def patience (s : Session) : Nat :=
  ((s.members ++ s.chainMembers).map Member.patience).foldr (· + ·) 0

/-- How many turns calls take at most: each of them waits no more than so often, and before one wait
more is over every call may be woken once in vain, cancellations may take place and the clock may
move. -/
def turns (s : Session) (calls : List Call) : Nat :=
  calls.length * (s.patience + 3) * (calls.length + 3) + 1

/-- Lets calls run until all of them are over. -/
def runCalls (s : Session) (calls : List Call) : Session × List (Option CallResult) :=
  let keyed := calls.zipIdx.map fun (c, i) => (c, s.nextKey + i)
  let world := keyed.foldl (fun w (c, key) => s.arrange c key w) s.world
  let start : Schedule (Shared Surroundings) (Except Error Token) :=
    { world, queue := keyed.map fun (c, key) => s.job c key }
  let stop := start.runTo none (s.turns calls)
  let results := keyed.map fun (_, key) =>
    (stop.finished.find? fun f => f.id == key).map fun f => ⟨f.ending, f.time⟩
  ({ s with world := stop.world, nextKey := s.nextKey + calls.length }, results)

/-- What happened outside between two states of the surroundings. -/
def traffic (before after : Surroundings) : Traffic :=
  ⟨after.wire.sent.drop before.wire.sent.length, after.tools.listed.drop before.tools.listed.length⟩

/-! ### Steps -/

/-- Lets a task that does not wait run to its end. -/
def perform (s : Session) (t : Task (Shared Surroundings) Unit) : Session :=
  { s with world := (t.run s.world).1 }

/-- What is shown of a member, or of the chain. -/
def describe (s : Session) (via : Option Nat) : String :=
  match via.bind fun i => s.members[i]? with
  | some (.environment m) => m.description
  | some (.managedIdentity m) => m.description (s.world.state.sources.gates m.gate)
  | _ => s.chain.description s.world.state.chain.selected

/-- What is known of a member. -/
def inspect (s : Session) (via : Nat) : Report :=
  match s.members[via]? with
  | some (.environment m) => .configured m.isConfigured
  | some (.managedIdentity m) =>
    .endpoint (s.world.state.sources.gates m.gate) m.endpoint.isImds m.endpoint.url.text
      m.endpoint.description
  | some m => .named m.source.name m.source.kind
  | none => .nothing

/-- Does a step. -/
def step (s : Session) : Step → Session × Report
  | .get call =>
    let (after, results) := s.runCalls [call]
    (after, .got results.head?.join (traffic s.world.state.sources after.world.state.sources))
  | .many calls =>
    let (after, results) := s.runCalls calls
    (after, .gotMany results
      (traffic s.world.state.sources after.world.state.sources) after.world.now)
  | .reset => (s.perform s.chain.reset, .nothing)
  | .clearLog => ({ s with world := { s.world with log := s.world.log.clear } }, .nothing)
  | .wait time => ({ s with world := { s.world with now := s.world.now + time } }, .nothing)
  | .file name node =>
    (s.perform (Shared.lift (Task.modify fun around =>
      { around with files := around.files.set name node })), .nothing)
  | .sources => (s, .sources ((List.range s.chainMembers.length).map s.place))
  | .lastScan => (s, .scan (s.world.state.chain.lastScan.map fun (i, fare) => (s.place i, fare)))
  | .log => (s, .log s.world.log.lines s.world.log.capacity)
  | .debug via => (s, .debug (s.describe via))
  | .inspect via => (s, s.inspect via)

/-- Does steps one after another; each report goes with the status behind its step. -/
def steps (s : Session) : List Step → Session × List (Report × Status)
  | [] => (s, [])
  | step :: rest =>
    let (after, report) := s.step step
    let (last, reports) := after.steps rest
    (last, (report, after.status) :: reports)

end Session

end TokenChain
