import TokenChain.Request
import TokenChain.Retry.Policy

/-! # Probe gates

Off its home ground a metadata endpoint does not answer at all, so the first request to it is a
probe: a single short attempt. A gate lets one caller through to make the probe and holds the others
back until the probe has an outcome. A probe that succeeds opens the gate for good, a probe that
fails closes it for good; one that is abandoned has failed.

The gate only ever moves from `untested` to `inFlight` and on to an outcome. -/

namespace TokenChain

/-- How far the probe has come. -/
inductive ProbeState where
  | untested
  | inFlight
  | succeeded
  | failed (reason : String)
deriving DecidableEq, Repr, Inhabited

/-- What a caller may do after asking at the gate. -/
inductive Admission where
  /-- Make the probe, and report its outcome. -/
  | probe
  /-- Go on as usual. -/
  | opened
  /-- Nothing. -/
  | closed (reason : String)
deriving DecidableEq, Repr, Inhabited

namespace ProbeState

/-- Whether the probe has an outcome. -/
def isSettled : ProbeState → Bool
  | succeeded | failed _ => true
  | untested | inFlight => false

/-- The state once a probe has been claimed. -/
def claim : ProbeState → ProbeState
  | untested => inFlight
  | s => s

/-- The state once a probe in flight has ended with an outcome. -/
def settle (outcome : ProbeState) : ProbeState → ProbeState
  | inFlight => outcome
  | s => s

/-- The outcome of a probe that was never reported. -/
def abandoned : ProbeState := failed "probe abandoned before the endpoint answered"

/-- What a settled gate admits to. -/
def admission : ProbeState → Admission
  | failed reason => .closed reason
  | _ => .opened

/-- Consults the gate: claims the probe if nobody has, and otherwise waits for its outcome. -/
def consult (r : Request) (credential : String) : Task ProbeState (Except Error Admission) :=
  .step claim fun before =>
    if before = untested then .done (.ok .probe)
    else r.within credential none <|
      .wait { ready := isSettled } fun _ => .step id fun s => .done (.ok s.admission)

end ProbeState

/-- The policy that goes with an admission: retries only behind an open gate. -/
def RetryPolicy.behind (base : RetryPolicy) : Admission → RetryPolicy
  | .opened => base
  | .probe | .closed _ => { base with maxRetries := 0 }

end TokenChain
