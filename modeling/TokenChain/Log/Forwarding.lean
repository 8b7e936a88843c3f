import TokenChain.Log
import TokenChain.Text.Quoted

/-! # Forwarded events

Events of other components copied into a diagnostic log. A `Forwarder` passes on the events that are
grave enough and come from the targets asked for. The chain's own events are never passed on, for
its sources write to the log themselves. -/

namespace TokenChain

/-- How grave an event is. -/
inductive Severity where
  | trace
  | debug
  | info
  | warn
  | error
deriving DecidableEq, Repr, Inhabited

/-- The rank of a severity; graver events rank higher. -/
def Severity.rank : Severity → Nat
  | .trace => 0
  | .debug => 1
  | .info => 2
  | .warn => 3
  | .error => 4

/-- The level of an event in the log. -/
def Severity.level : Severity → Level
  | .trace | .debug => .debug
  | .info => .info
  | .warn => .warning
  | .error => .error

/-- A recorded value: text that stands for itself, or text that is shown in quotes. -/
inductive Recorded where
  | plain (text : String)
  | quoted (text : String)
deriving DecidableEq, Repr, Inhabited

/-- How a recorded value reads. -/
def Recorded.text : Recorded → String
  | .plain s => s
  | .quoted s => Text.Quoted.encode s

/-- An event: who reports it, and the values recorded with it by name. -/
structure Event where
  severity : Severity
  target : String
  values : List (String × Recorded)
deriving Repr, Inhabited

/-- The text of an entry while the values of an event are recorded one after another: the message,
and the other values. -/
structure Draft where
  message : String
  fields : String
deriving DecidableEq, Repr, Inhabited

namespace Draft

/-- Adds a value with its name behind the others. -/
def push (d : Draft) (name text : String) : Draft :=
  let front := if d.fields.isEmpty then d.fields else d.fields ++ " "
  { d with fields := front ++ (name ++ "=" ++ text) }

/-- Records a value; a later message takes the place of an earlier one. -/
def record (d : Draft) (v : String × Recorded) : Draft :=
  if v.1 == "message" then { d with message := v.2.text } else d.push v.1 v.2.text

/-- The text of the entry: the message and the fields, if they are not empty. -/
def finish (d : Draft) : String :=
  if d.fields.isEmpty then d.message
  else if d.message.isEmpty then d.fields
  else d.message ++ " " ++ d.fields

end Draft

/-- The message of the log entry for an event. -/
def Event.text (e : Event) : String := (e.values.foldl Draft.record ⟨"", ""⟩).finish

/-- Which events are copied into the log. -/
structure Forwarder where
  /-- The least grave severity passed on. -/
  threshold : Severity
  /-- How the targets passed on begin. -/
  targets : Option String
deriving Repr, Inhabited

namespace Forwarder

/-- How the targets of the chain's own events begin. -/
def ownTarget : String := "azure_credential_chain"

/-- Everything from `info` up. -/
def standard : Forwarder := ⟨.info, none⟩

/-- Whether an event is passed on. -/
def accepts (f : Forwarder) (e : Event) : Bool :=
  !ownTarget.toList.isPrefixOf e.target.toList
    && decide (f.threshold.rank ≤ e.severity.rank)
    && f.targets.all fun start => start.toList.isPrefixOf e.target.toList

/-- The log after an event at the given time. -/
def forward (f : Forwarder) (now : Instant) (log : Log) (e : Event) : Log :=
  if f.accepts e then log.append
    { level := e.severity.level, context := e.target, message := e.text, time := now }
  else log

/-- The log after events, each at its own time. -/
def forwardAll (f : Forwarder) (log : Log) (events : List (Instant × Event)) : Log :=
  events.foldl (fun log (now, e) => f.forward now log e) log

end Forwarder

end TokenChain
