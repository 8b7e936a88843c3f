import TokenChain.Task

/-! # Developer tools

Programs that a developer has installed. Runs end as a list says, one list for each tool, used up in
order; when the list is empty the program is missing. A run takes no time, unless it never ends.

A run is listed when the call that began it is over. The arguments are not known for a program that
did not start, nor for one that was stopped because the call ran out of time; a call that is dropped
lists nothing. -/

namespace TokenChain

/-- The tools. -/
inductive Tool where
  | az
  | azd
deriving DecidableEq, Repr, Inhabited

/-- How a program ends. -/
inductive ExitStatus where
  | code (n : Int)
  | signal (n : Nat)
deriving DecidableEq, Repr, Inhabited

namespace ExitStatus

/-- The names of signals by their numbers. -/
def signalNames : List (Nat × String) :=
  [(1, "SIGHUP"), (2, "SIGINT"), (3, "SIGQUIT"), (4, "SIGILL"), (5, "SIGTRAP"), (6, "SIGABRT"),
   (7, "SIGBUS"), (8, "SIGFPE"), (9, "SIGKILL"), (10, "SIGUSR1"), (11, "SIGSEGV"), (12, "SIGUSR2"),
   (13, "SIGPIPE"), (14, "SIGALRM"), (15, "SIGTERM"), (16, "SIGSTKFLT"), (17, "SIGCHLD"),
   (18, "SIGCONT"), (19, "SIGSTOP"), (20, "SIGTSTP"), (21, "SIGTTIN"), (22, "SIGTTOU"),
   (23, "SIGURG"), (24, "SIGXCPU"), (25, "SIGXFSZ"), (26, "SIGVTALRM"), (27, "SIGPROF"),
   (28, "SIGWINCH"), (29, "SIGIO"), (30, "SIGPWR"), (31, "SIGSYS")]

/-- Whether the program says that it has done its work. -/
def isSuccess : ExitStatus → Bool
  | code n => n == 0
  | signal _ => false

/-- The text of an exit status. -/
def text : ExitStatus → String
  | code n => "exit status: " ++ toString n
  | signal n => "signal: " ++ toString n ++
      (((signalNames.lookup n).map fun name => " (" ++ name ++ ")").getD "")

end ExitStatus

/-- What becomes of a run. -/
inductive ToolOutcome where
  | missing
  | notExecutable
  | exited (status : ExitStatus) (stdout stderr : List UInt8)
deriving DecidableEq, Repr, Inhabited

/-- A run: the program, and its arguments as far as they are known. -/
structure ToolRun where
  program : String
  args : Option (List String)
deriving DecidableEq, Repr, Inhabited

/-- The outcomes still to come, the runs of calls that are not over, and the runs of those that are.
A run without an outcome never ends. -/
structure Tools where
  az : List (Option ToolOutcome)
  azd : List (Option ToolOutcome)
  begun : List (CancelKey × ToolRun)
  listed : List ToolRun
deriving Repr, Inhabited

namespace Tools

/-- The outcomes still to come for a tool. -/
def outcomes (t : Tools) : Tool → List (Option ToolOutcome)
  | .az => t.az
  | .azd => t.azd

/-- The tools with one outcome used up. -/
def use (t : Tools) : Tool → Tools
  | .az => { t with az := t.az.drop 1 }
  | .azd => { t with azd := t.azd.drop 1 }

/-- What will become of the next run. -/
def nextOutcome (t : Tools) (tool : Tool) : Option ToolOutcome :=
  (t.outcomes tool).headD (some .missing)

/-- Whether the next run will begin at all. -/
def willStart (t : Tools) (tool : Tool) : Bool :=
  match t.nextOutcome tool with
  | some .missing | some .notExecutable => false
  | _ => true

/-- The tools once a call has begun a run. -/
def start (tool : Tool) (key : CancelKey) (program : String) (args : List String) (t : Tools) :
    Tools :=
  let run : ToolRun := ⟨program, if t.willStart tool then some args else none⟩
  { t.use tool with begun := t.begun ++ [(key, run)] }

/-- The tools once a call is over: its run is listed, without arguments if the call ran out of
time. -/
def close (key : CancelKey) (timedOut : Bool) (t : Tools) : Tools :=
  let runs := (t.begun.filter fun b => b.1 == key).map fun b =>
    if timedOut then { b.2 with args := none } else b.2
  { t with begun := t.begun.filter fun b => b.1 != key, listed := t.listed ++ runs }

/-- Begins a run and waits for its end. -/
def run (tool : Tool) (key : CancelKey) (program : String) (args : List String) :
    Task Tools ToolOutcome :=
  .step (start tool key program args) fun t =>
    match t.nextOutcome tool with
    | none => .hang
    | some outcome => .done outcome

end Tools

end TokenChain
