import TokenChain.Proofs.Chain.Selection
import TokenChain.Proofs.Source.Account

/-! # The log of a call

What a call of a chain of members writes to the log follows one grammar, over the steps that the
call takes. A scan goes through the sources in order (`Minutes`): a source that is found ruled out
gives one entry with the reason that is found, any other one is called and gives an account of the
call, and the first that has a token is the last one. A call scans in its turn, or asks the selected
source alone, or ends before its turn and writes nothing (`Transcript`).

The grammar follows the tasks: a call is a sequence of a few tasks, and what it has written is taken
apart along with them (`minutes_of_writes`, `transcript_of_writes`). -/

namespace TokenChain.Chain

open TokenChain.Task TokenChain.Shared

variable {r : Request}

/-- A member is called for the given steps, and the entries that are written meanwhile are its
account. -/
structure Answers (r : Request) (m : Member) (h : History (Shared Surroundings)) (es : List Entry)
    (x : Except Error Token) : Prop where
  called : (Shared.lift (m.source.getToken r)).Leads h (.done x)
  account : Source.Account m.policy m.source.name (es.map Entry.toNote) x

/-- **What a scan writes** in its steps from place `i` on, given the failures so far. -/
inductive Minutes (r : Request) :
    List Member → Nat → List (String × Error) → History (Shared Surroundings) → List Entry →
    Except Error Token → Prop
  /-- There are no more sources. -/
  | exhausted {i : Nat} {failures : List (String × Error)} {w w' : World (Shared Surroundings)} :
      Minutes r [] i failures [(w, w')] [] (.error (.aggregate failures))
  /-- The next source is found ruled out. -/
  | skipped {m : Member} {ms : List Member} {i : Nat} {failures : List (String × Error)}
      {reason : String} {w w' v v' : World (Shared Surroundings)}
      {h : History (Shared Surroundings)} {es : List Entry} {x : Except Error Token}
      (ruledOut : w.state.chain.reason? i = some reason)
      (rest : Minutes r ms (i + 1) (failures ++
        [(m.source.name, .unavailable m.source.name reason)]) h es x) :
      Minutes r (m :: ms) i failures ((w, w') :: (v, v') :: h)
        (⟨⟨.debug, m.source.name, skipNotice reason⟩, v.now⟩ :: es) x
  /-- The next source is called and fails. -/
  | failed {m : Member} {ms : List Member} {i : Nat} {failures : List (String × Error)} {e : Error}
      {w w' v v' : World (Shared Surroundings)} {h h' : History (Shared Surroundings)}
      {es es' : List Entry} {x : Except Error Token} (inPlay : w.state.chain.reason? i = none)
      (answers : Answers r m h es (.error e))
      (rest : Minutes r ms (i + 1) (failures ++ [(m.source.name, e)]) h' es' x) :
      Minutes r (m :: ms) i failures ((w, w') :: (h ++ (v, v') :: h')) (es ++ es') x
  /-- The next source is called and has a token; nobody is called after it. -/
  | won {m : Member} {ms : List Member} {i : Nat} {failures : List (String × Error)} {token : Token}
      {w w' v v' : World (Shared Surroundings)} {h : History (Shared Surroundings)}
      {es : List Entry} (inPlay : w.state.chain.reason? i = none)
      (answers : Answers r m h es (.ok token)) :
      Minutes r (m :: ms) i failures ((w, w') :: (h ++ [(v, v')])) es (.ok token)

/-- **What a call writes** in its steps. -/
inductive Transcript (ms : List Member) (r : Request) :
    History (Shared Surroundings) → List Entry → Except Error Token → Prop
  /-- A source is selected when the call begins; it alone is asked. -/
  | direct {i : Nat} {m : Member} {w w' : World (Shared Surroundings)}
      {h : History (Shared Surroundings)} {es : List Entry} {x : Except Error Token}
      (selected : w.state.chain.selected = some i) (here : ms[i]? = some m)
      (answers : Answers r m h es x) : Transcript ms r ((w, w') :: h) es x
  /-- The call ends waiting for its turn. -/
  | refused {w w' : World (Shared Surroundings)} {h : History (Shared Surroundings)} {e : Error}
      (unselected : w.state.chain.selected = none)
      (waited : (waitTurn r).Leads h (.done (.error e))) :
      Transcript ms r ((w, w') :: h) [] (.error e)
  /-- A source is selected when the turn of the call comes; it alone is asked. -/
  | yielded {i ticket : Nat} {m : Member} {w w' v v' u u' : World (Shared Surroundings)}
      {h h' : History (Shared Surroundings)} {es : List Entry} {x : Except Error Token}
      (unselected : w.state.chain.selected = none)
      (waited : (waitTurn r).Leads h (.done (.ok ticket)))
      (selected : v.state.chain.selected = some i) (here : ms[i]? = some m)
      (answers : Answers r m h' es x) :
      Transcript ms r ((w, w') :: (h ++ (v, v') :: (u, u') :: h')) es x
  /-- The call scans in its turn. -/
  | scanned {ticket : Nat} {w w' v v' u u' : World (Shared Surroundings)}
      {h h' : History (Shared Surroundings)} {es : List Entry} {x : Except Error Token}
      (unselected : w.state.chain.selected = none)
      (waited : (waitTurn r).Leads h (.done (.ok ticket))) (still : v.state.chain.selected = none)
      (scan : Minutes r ms 0 [] h' es x) : Transcript ms r
        ((w, w') :: (h ++ (v, v') :: (h' ++ [(u, u')]))) es x

/-- A member that is asked gives an account. -/
theorem answers_of_writes {m : Member} (own : m.IsOwn)
    {h : History (Shared Surroundings)} {es : List Entry} {x : Except Error Token}
    (writes : (Shared.lift (m.source.getToken r)).Writes h es (.done x)) : Answers r m h es x := by
  obtain ⟨h', inside⟩ := writes.of_zoom fun _ => rfl
  exact ⟨writes.leads, inside.of_yields (m.yields_getToken own r)⟩

/-- **A scan** of members, by recursion over them. -/
theorem minutes_of_writes :
    ∀ {ms : List Member} {i : Nat} {f : Findings} {h : History (Shared Surroundings)}
    {es : List Entry} {x : Except Error Token}, (∀ m ∈ ms, m.IsOwn) →
    (scanFrom r (ms.map Member.source) i f).Writes h es (.done x) → Minutes r ms i f.failures h es x
  | [], i, f, h, es, x, _, writes => by
    obtain ⟨w, w', h, rfl, rest⟩ := writes.of_step
    obtain ⟨rfl, rfl, rfl⟩ := rest.of_done
    exact .exhausted
  | m :: ms, i, f, h, es, x, own, writes => by
    have others : ∀ m ∈ ms, m.IsOwn := fun m' mem => own m' (List.mem_cons_of_mem _ mem)
    rw [List.map_cons, scanFrom] at writes
    obtain ⟨w, w', h, rfl, found⟩ := writes.of_step
    cases ruledOut : w.state.chain.reason? i with
    | some reason =>
      rw [ruledOut] at found
      obtain ⟨v, v', h, es, rfl, rfl, rest⟩ := found.of_note
      exact .skipped ruledOut (minutes_of_writes others rest)
    | none =>
      rw [ruledOut] at found
      obtain ⟨y, h₁, h₂, es₁, es₂, rfl, rfl, called, digests⟩ := found.of_bind
      have answers := answers_of_writes (own m List.mem_cons_self) called
      cases y with
      | ok token =>
        obtain ⟨v, v', h₂, rfl, rest⟩ := digests.of_step
        obtain ⟨rfl, rfl, rfl⟩ := rest.of_done
        rw [List.append_nil]
        exact .won ruledOut answers
      | error e =>
        obtain ⟨v, v', h₂, rfl, rest⟩ := digests.of_step
        exact .failed ruledOut answers (minutes_of_writes others rest)

theorem answers_of_ask {ms : List Member} (own : ∀ m ∈ ms, m.IsOwn) {i : Nat}
    {h : History (Shared Surroundings)} {es : List Entry} {x : Except Error Token}
    (writes : (ask ⟨ms.map Member.source⟩ r i).Writes h es (.done x)) :
    ∃ m, ms[i]? = some m ∧ Answers r m h es x := by
  rw [ask, List.getElem?_map] at writes
  cases here : ms[i]? with
  | none =>
    rw [here] at writes
    exact absurd writes not_writes_crash
  | some m =>
    rw [here] at writes
    exact ⟨m, rfl, answers_of_writes (own m (List.mem_of_getElem? here)) writes⟩

theorem silent_waitTurn {ρ : Type} (r : Request) :
    (waitTurn r : Task (Shared ρ) (Except Error Nat)).Silent := by
  have waits : (Task.step (Shared.onChain ChainState.enter) fun before =>
      let ticket := before.chain.turns.next
      .wait { ready := fun s => s.chain.turns.isFirst ticket
              abandon := Shared.onChain (ChainState.leave ticket) } fun _ => .done (.ok ticket) :
      Task (Shared ρ) (Except Error Nat)).Silent := fun _ _ => trivial
  exact waits.within r credential none

/-- **A call** of a chain of members, taken apart. -/
theorem transcript_of_writes {ms : List Member} (own : ∀ m ∈ ms, m.IsOwn)
    {h : History (Shared Surroundings)} {es : List Entry} {x : Except Error Token}
    (writes : (getToken ⟨ms.map Member.source⟩ r).Writes h es (.done x)) :
    Transcript ms r h es x := by
  obtain ⟨w, w', h, rfl, arrived⟩ := writes.of_step
  cases selected : w.state.chain.selected with
  | some i =>
    rw [selected] at arrived
    obtain ⟨m, here, answers⟩ := answers_of_ask own arrived
    exact .direct selected here answers
  | none =>
    rw [selected] at arrived
    obtain ⟨turn, h₁, h₂, es₁, es₂, rfl, rfl, waited, rest⟩ := arrived.of_bind
    obtain rfl := waited.of_silent (silent_waitTurn r)
    cases turn with
    | error e =>
      obtain ⟨rfl, rfl, rfl⟩ := rest.of_done
      rw [List.append_nil]
      exact .refused selected waited.leads
    | ok ticket =>
      obtain ⟨v, v', h₂, rfl, admitted⟩ := rest.of_step
      cases still : v.state.chain.selected with
      | some i =>
        rw [still] at admitted
        obtain ⟨u, u', h₂, rfl, asks⟩ := admitted.of_step
        obtain ⟨m, here, answers⟩ := answers_of_ask own asks
        exact .yielded selected waited.leads still here answers
      | none =>
        rw [still] at admitted
        obtain ⟨y, h₂, h₃, es₂, es₃, rfl, rfl, scan, leaves⟩ := admitted.of_bind
        obtain ⟨u, u', h₃, rfl, ends⟩ := leaves.of_step
        obtain ⟨rfl, rfl, rfl⟩ := ends.of_done
        rw [List.append_nil]
        exact .scanned selected waited.leads still (minutes_of_writes own scan.of_onLoss)

/-- A client that is not set up, an app service that does not answer, and a token that was handed
over. -/
def deafThenHanded : List Member :=
  [.environment ⟨.error ["AZURE_TENANT_ID"], default, .noRetry, ""⟩,
    .managedIdentity ⟨.appService default "secret", none, ⟨1, ⟨0⟩, ⟨0⟩, .ofSeconds 30⟩,
      .ofSeconds 1, "", 0⟩,
    .explicit ⟨"handed over", ⟨"token", ⟨3600, 0⟩, []⟩⟩]

/-- A world without replies, in which nothing has happened yet. -/
def deafWorld : World (Shared Surroundings) :=
  .initial ⟨0⟩ (.ofCapacity 8)
    ⟨.initial, default, ⟨[], []⟩, [], default, fun _ => .untested, fun _ => []⟩

/-- A call goes through all of them. -/
def deafMoves : List (Crowd.Move Request) := .call 0 ⟨["a"], none, 0⟩ :: List.replicate 30 (.go 0)

/-- The call has ended. -/
def deafCall : Calls Surroundings :=
  Crowd.play (getToken ⟨deafThenHanded.map Member.source⟩) deafMoves (.empty deafWorld)

end TokenChain.Chain
