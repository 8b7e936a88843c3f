import TokenChain.Surroundings.Files
import TokenChain.Surroundings.Tools
import TokenChain.Surroundings.Wire
import TokenChain.Probe.Gate
import TokenChain.Time.Zone

/-! # Surroundings

All that sources share besides clock and log: the wire, the files, the developer tools, the local
time, the probe gates, and what rehearsed sources still have to say. Gates and rehearsals have
numbers. -/

namespace TokenChain

/-- One call of a rehearsed source: how long it takes and how it ends. -/
inductive Cue where
  | crash
  | token (secret : String) (lifetime : Int)
  | error (e : Error)
deriving Inhabited

/-- What a rehearsed source still has to say: for each call a delay and a cue. -/
abbrev Rehearsal := List (Duration × Cue)

/-- What the sources of a chain share. -/
structure Surroundings where
  zone : Zone
  wire : Wire
  files : Files
  tools : Tools
  gates : Nat → ProbeState
  rehearsals : Nat → Rehearsal

namespace Surroundings

variable {α : Type}

/-- A function with another value at one place. -/
def update {β : Type} (f : Nat → β) (i : Nat) (b : β) : Nat → β := fun j => if j = i then b else f j

/-- A task on the wire. -/
def onWire (t : Task Wire α) : Task Surroundings α :=
  t.zoom Surroundings.wire fun wire s => { s with wire }

/-- A task on the tools. -/
def onTools (t : Task Tools α) : Task Surroundings α :=
  t.zoom Surroundings.tools fun tools s => { s with tools }

/-- A task on a gate. -/
def onGate (i : Nat) (t : Task ProbeState α) : Task Surroundings α :=
  t.zoom (fun s => s.gates i) fun gate s => { s with gates := update s.gates i gate }

/-- A task on what a rehearsed source still has to say. -/
def onRehearsal (i : Nat) (t : Task Rehearsal α) : Task Surroundings α :=
  t.zoom (fun s => s.rehearsals i) fun cues s => { s with rehearsals := update s.rehearsals i cues }

/-- The surroundings with a gate in another state. -/
def setGate (i : Nat) (f : ProbeState → ProbeState) (s : Surroundings) : Surroundings :=
  { s with gates := update s.gates i (f (s.gates i)) }

end Surroundings

end TokenChain
