import TokenChain.Log

/-! # Handles of logs

Who writes to a log or reads it holds a handle. A handle can be copied, and a copy leads to the log
that the handle leads to: what is written through one of them is read through all of them.

A `Logbook` holds logs, the handles that lead to them, and what the calls made through the handles
were answered with. A snapshot is such an answer: it consists of entries and has nothing more to do
with the log. -/

namespace TokenChain

/-- What can be done to a log through a handle. -/
inductive LogCall where
  | append (context message : String)
  | appendWithLevel (level : Level) (context message : String)
  | clear
  | size
  | snapshot
deriving DecidableEq, Repr, Inhabited

/-- What a call is answered with. -/
inductive LogAnswer where
  | nothing
  | size (n : Nat)
  | snapshot (entries : List Entry)
deriving DecidableEq, Repr, Inhabited

namespace Log

/-- Writes an entry of a given level. -/
def appendWithLevel (log : Log) (now : Instant) (level : Level) (context message : String) : Log :=
  log.append { level, context, message, time := now }

/-- Makes a call. What is written without a level is information. -/
def perform (log : Log) (now : Instant) : LogCall → Log × LogAnswer
  | .append context message => (log.appendWithLevel now .info context message, .nothing)
  | .appendWithLevel level context message =>
    (log.appendWithLevel now level context message, .nothing)
  | .clear => (log.clear, .nothing)
  | .size => (log, .size log.size)
  | .snapshot => (log, .snapshot log.entries)

end Log

/-- Logs and their handles. -/
structure Logbook where
  now : Instant
  logs : List Log
  /-- The log that each handle leads to. -/
  handles : List Nat
  /-- What the calls so far were answered with. -/
  answers : List LogAnswer
deriving Repr, Inhabited

/-- What can happen to the logs of a logbook. -/
inductive LogStep where
  | opens (capacity : Nat)
  | copies (handle : Nat)
  | calls (handle : Nat) (call : LogCall)
  | waits (time : Duration)
deriving DecidableEq, Repr, Inhabited

namespace Logbook

/-- A logbook without any logs. -/
def initial (now : Instant) : Logbook := ⟨now, [], [], []⟩

/-- Does a step. A new log has one handle. A log for which no room can be set aside does not come
about, and through a handle that does not exist nothing happens. -/
def step (b : Logbook) : LogStep → Logbook
  | .opens capacity => match Log.ofCapacity? capacity with
    | some log => { b with logs := b.logs ++ [log], handles := b.handles ++ [b.logs.length] }
    | none => b
  | .copies handle => match b.handles[handle]? with
    | some i => { b with handles := b.handles ++ [i] }
    | none => b
  | .calls handle call => match b.handles[handle]? with
    | some i => match b.logs[i]? with
      | some log =>
        { b with
          logs := b.logs.set i (log.perform b.now call).1
          answers := b.answers ++ [(log.perform b.now call).2] }
      | none => b
    | none => b
  | .waits time => { b with now := b.now + time }

/-- Does steps one after another. -/
def steps (b : Logbook) (ss : List LogStep) : Logbook := ss.foldl step b

end Logbook

end TokenChain
