import TokenChain.Time.Rfc3339

/-! # The diagnostic log

What the sources of a chain have done, in the order they did it. A log holds a fixed number of
entries, at least one; a new entry in a full log pushes out the oldest, in any other it comes last
(`entries_append_of_lt`). -/

namespace TokenChain

/-- How grave an entry is. -/
inductive Level where
  | debug
  | info
  | warning
  | error
deriving DecidableEq, Repr, Inhabited

/-- The name of a level in log lines. -/
def Level.name : Level → String
  | .debug => "DEBUG"
  | .info => "INFO"
  | .warning => "WARN"
  | .error => "ERROR"

/-- Blanks on the right up to the given width. -/
def padRight (width : Nat) (s : String) : String :=
  s ++ String.ofList (List.replicate (width - s.length) ' ')

/-- Blanks on the left up to the given width. -/
def padLeft (width : Nat) (s : String) : String :=
  String.ofList (List.replicate (width - s.length) ' ') ++ s

/-- Blanks on both sides up to the given width, the odd one on the right. -/
def padCenter (width : Nat) (s : String) : String :=
  padRight width (padLeft (s.length + (width - s.length) / 2) s)

/-- What is to be logged: all of an entry but its time. -/
structure Note where
  level : Level
  /-- Who writes the entry, usually a source. -/
  context : String
  message : String
deriving DecidableEq, Repr, Inhabited

/-- One entry of the log. -/
structure Entry extends Note where
  time : Instant
deriving DecidableEq, Repr, Inhabited

namespace Entry

/-- The time of an entry in full. -/
def timestamp (e : Entry) : String := Rfc3339.writeZulu (.ofInstant e.time)

/-- The line of an entry. -/
def line (e : Entry) : String :=
  "[" ++ Rfc3339.writeMillis (.ofInstant e.time) ++ "] " ++ padRight 5 e.level.name ++ " " ++
    e.context ++ ": " ++ e.message

end Entry

/-- The entries that a log still holds, oldest first. -/
structure Log where
  capacity : Nat
  entries : List Entry
deriving Repr, Inhabited

namespace Log

/-- The capacity of a log of which nothing else is said. -/
def defaultCapacity : Nat := 256

/-- An empty log for at most `capacity` entries, but for one at least. -/
def ofCapacity (capacity : Nat) : Log := ⟨max capacity 1, []⟩

/-- The largest capacity for which room can be set aside, at 64 bytes for an entry. -/
def largestCapacity : Nat := 144115188075855871

/-- An empty log of the given capacity, if room for it can be set aside. -/
def ofCapacity? (capacity : Nat) : Option Log :=
  if capacity ≤ largestCapacity then some (ofCapacity capacity) else none

/-- The number of entries. -/
def size (log : Log) : Nat := log.entries.length

/-- Writes an entry behind the others. -/
def append (log : Log) (e : Entry) : Log :=
  if log.size = log.capacity then { log with entries := log.entries.drop 1 ++ [e] }
  else { log with entries := log.entries ++ [e] }

/-- Removes all entries. -/
def clear (log : Log) : Log := { log with entries := [] }

/-- The lines of the entries. -/
def lines (log : Log) : List String := log.entries.map Entry.line

/-- What is shown of a log. -/
def description (log : Log) : String :=
  "DiagnosticLog \x7b capacity: " ++ toString log.capacity ++ ", len: " ++
    toString log.size ++ " \x7d"

end Log

end TokenChain
