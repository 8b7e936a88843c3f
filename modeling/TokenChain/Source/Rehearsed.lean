import TokenChain.Source
import TokenChain.Surroundings

/-! # Rehearsed sources

A source that answers as it was told to beforehand, one cue for each call. It pays no attention to
deadlines and cancellations. It stands in for a real source where a chain is tried out. -/

namespace TokenChain

/-- A source that was told what to answer. -/
structure RehearsedSource where
  name : String
  kind : SourceKind
  /-- The number of its rehearsal. -/
  part : Nat
deriving DecidableEq, Repr, Inhabited

namespace RehearsedSource

/-- The answer that a cue stands for. -/
def perform (r : Request) : Cue → Task Surroundings (Except Error Token)
  | .crash => .crash
  | .error e => .done (.error e)
  | .token secret lifetime => .look fun m =>
    match Token.lasting? secret m.now lifetime r.scopes with
    | some token => .done (.ok token)
    | none => .crash

/-- What is logged about an answer. -/
def remark : Except Error Token → String
  | .ok _ => "ok"
  | .error _ => "failed"

/-- Waits as long as the cue says, answers, and logs the answer. -/
def play (s : RehearsedSource) (r : Request) (delay : Duration) (cue : Cue) :
    Task Surroundings (Except Error Token) :=
  let answer := (perform r cue).bind fun result =>
    .note ⟨.info, s.name, remark result⟩ (.done result)
  if delay.nanos = 0 then answer
  else .look fun m => (Task.sleepUntil (m.now + delay)).bind fun _ => answer

/-- The source. -/
def source (s : RehearsedSource) : Source Surroundings where
  name := s.name
  kind := s.kind
  getToken r := (Surroundings.onRehearsal s.part (.step (List.drop 1) .done)).bind fun cues =>
    match cues.head? with
    | some (delay, cue) => s.play r delay cue
    | none => s.play r ⟨0⟩ (.error (.unavailable s.name "script exhausted"))

end RehearsedSource

end TokenChain
