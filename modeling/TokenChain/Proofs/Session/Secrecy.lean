import TokenChain.Proofs.Chain.Likeness
import TokenChain.Proofs.Schedule
import TokenChain.Proofs.Schedule.Likeness
import TokenChain.Proofs.Task.Lockstep

/-! # Secrets stay secret

Two sessions that are the same but for secrets (`Session.Alike`) cannot be told apart by anything
that is kept or shown for diagnosis (`Session.discreet_of_alike`): asked the same, they answer the
same, and whatever order calls go on in, all along the way the log, the errors, the selection, the
scan, the probe states and the descriptions of tokens are the same. Only the secrets of the tokens
that calls return and the bodies of the messages that are sent may differ. -/

namespace TokenChain

open List (Forall₂)
open TokenChain.Task

/-! ### What is seen -/

/-- An ending without the secret of a token. -/
def Ending.redacted : Ending (Except Error Token) → Ending (Except Error Token)
  | value x => value (x.map Token.redacted)
  | e => e

def Finish.redacted (f : Finish (Except Error Token)) : Finish (Except Error Token) :=
  { f with ending := f.ending.redacted }

def CallResult.redacted (r : CallResult) : CallResult := { r with ending := r.ending.redacted }

/-- What happened outside, without the bodies of messages. -/
def Traffic.redacted (t : Traffic) : Traffic := { t with sent := t.sent.map Message.redacted }

/-- The token with which a call ended. -/
def Ending.token? : Ending (Except Error Token) → Option Token
  | value (.ok t) => some t
  | _ => none

namespace Session.Report

/-- An answer without the secrets of tokens and the bodies of messages. -/
def redacted : Report → Report
  | got result traffic => got (result.map CallResult.redacted) traffic.redacted
  | gotMany results traffic time =>
    gotMany (results.map (Option.map CallResult.redacted)) traffic.redacted time
  | r => r

/-- The tokens in an answer. -/
def tokens : Report → List Token
  | got result _ => (result.bind fun r => r.ending.token?).toList
  | gotMany results _ _ => results.filterMap fun result => result.bind fun r => r.ending.token?
  | _ => []

end Session.Report

/-- How a task has ended, if it is over. -/
def Task.ending? {σ α : Type} : Task σ α → Option (Ending α)
  | done a => some (.value a)
  | crash => some .crashed
  | _ => none

/-- How a caller has ended, if it is over. -/
def Crowd.ending? {ι σ α : Type} (g : Crowd ι σ α) (id : Nat) : Option (Ending α) :=
  (g.callers id).bind fun c => c.rest.ending?

/-- What is seen of a session at work: the log, what the chain remembers, the states of the probe
gates, the messages that have been sent, without their bodies, and the tools that have been run. -/
structure Sight where
  log : Log
  chain : ChainState
  gates : Nat → ProbeState
  sent : List Message
  begun : List (CancelKey × ToolRun)
  runs : List ToolRun

def World.sight (w : World (Shared Surroundings)) : Sight where
  log := w.log
  chain := w.state.chain
  gates := w.state.sources.gates
  sent := w.state.sources.wire.sent.map Message.redacted
  begun := w.state.sources.tools.begun
  runs := w.state.sources.tools.listed

/-- **The same is seen** of worlds that are alike. -/
theorem World.Alike.sight {w w' : World (Shared Surroundings)}
    (h : w.Alike (Shared.Alike Surroundings.Alike) w') : w.sight = w'.sight := by
  rw [World.sight, World.sight, h.log, h.state.chain, h.state.sources.gates,
    h.state.sources.wire.sent, h.state.sources.tools.begun, h.state.sources.tools.listed]

/-! ### Endings that are alike -/

theorem Ending.Alike.redacted {e e' : Ending (Except Error Token)} (h : e.Alike AnswerAlike e') :
    e.redacted = e'.redacted := by
  cases h with
  | value alike =>
    cases alike with
    | error e => rfl
    | ok alike => exact congrArg (fun t => Ending.value (Except.ok t)) alike
  | crashed => rfl
  | aborted => rfl

theorem Finish.Alike.redacted {f f' : Finish (Except Error Token)} (h : f.Alike AnswerAlike f') :
    f.redacted = f'.redacted := by
  rw [Finish.redacted, Finish.redacted, h.ending.redacted, h.id, h.time]

theorem map_redacted_eq {l l' : List (Finish (Except Error Token))}
    (h : Forall₂ (Finish.Alike AnswerAlike) l l') :
    l.map Finish.redacted = l'.map Finish.redacted := by
  induction h with
  | nil => rfl
  | cons first _ ih => rw [List.map_cons, List.map_cons, first.redacted, ih]

theorem Crowd.Alike.redacted_ending? {ι σ : Type} {S : σ → σ → Prop}
    {g g' : Crowd ι σ (Except Error Token)} (h : g.Alike S AnswerAlike g') (id : Nat) :
    (g.ending? id).map Ending.redacted = (g'.ending? id).map Ending.redacted := by
  have callers := h.callers id
  rw [Crowd.ending?, Crowd.ending?]
  generalize g.callers id = c at callers
  generalize g'.callers id = c' at callers
  cases callers with
  | none => rfl
  | @some c c' alike =>
    obtain ⟨-, rest⟩ := alike
    dsimp only [Option.bind_some]
    generalize c.rest = t at rest
    generalize c'.rest = t' at rest
    cases rest with
    | done alike => exact congrArg some (Ending.Alike.value alike).redacted
    | crash | look | note | step | wait => rfl

theorem Token.redacted_description (t : Token) : t.redacted.description = t.description :=
  have alike : t.redacted.Alike t := rfl
  alike.description

theorem Ending.description_redacted (e : Ending (Except Error Token)) :
    e.redacted.token?.map Token.description = e.token?.map Token.description := by
  rcases e with (e | t) | - | -
  · rfl
  · exact congrArg some t.redacted_description
  · rfl
  · rfl

theorem Session.Report.descriptions_redacted (r : Report) :
    r.redacted.tokens.map Token.description = r.tokens.map Token.description := by
  have shown : ∀ result :
      Option CallResult, ((result.map CallResult.redacted).bind fun r => r.ending.token?).map
      Token.description = (result.bind fun r => r.ending.token?).map Token.description := by
    intro result
    cases result with
    | none => rfl
    | some r => exact r.ending.description_redacted
  cases r with
  | got result traffic =>
    simp only [redacted, tokens, ← Option.toList_map, shown]
  | gotMany results traffic time =>
    simp only [redacted, tokens, List.filterMap_map, List.map_filterMap, Function.comp_def, shown]
  | _ => rfl

/-! ### Sessions that are the same but for secrets -/

/-- **Two sessions that are the same but for secrets**: the tokens and client secrets that members
hold, the assertions in files, the tokens that are still to come, and what has been sent in
messages. -/
structure Session.Alike (s s' : Session) : Prop where
  members : Forall₂ Member.Alike s.members s'.members
  chainMembers : Forall₂ Member.Alike s.chainMembers s'.chainMembers
  world : s.world.Alike (Shared.Alike Surroundings.Alike) s'.world
  nextKey : s.nextKey = s'.nextKey

/-- Two steps that are the same, or put files in one place that are the same or both hold an
assertion. -/
inductive Session.Step.Alike : Step → Step → Prop
  | same (step : Step) : Alike step step
  | file (name : String) {node node' : Option FileNode}
      (nodes : Option.Rel FileNode.Alike node node') : Alike (.file name node) (.file name node')

namespace Session

open Schedule

variable {s s' : Session}

theorem Alike.withWorld (h : s.Alike s') {w w' : World (Shared Surroundings)}
    (worlds : w.Alike (Shared.Alike Surroundings.Alike) w') :
    Alike { s with world := w } { s' with world := w' } :=
  { h with world := worlds }

theorem Alike.sources (h : s.Alike s') :
    Forall₂ (Source.Alike Surroundings.Alike) s.chain.sources s'.chain.sources := by
  rw [chain, chain, List.forall₂_map_left_iff, List.forall₂_map_right_iff]
  exact h.chainMembers.imp fun _ _ alike => alike.source

/-! ### What is shown of sessions -/

theorem Alike.place (h : s.Alike s') : s.place = s'.place := by
  funext i
  have members := forall₂_getElem? h.chainMembers i
  rw [Session.place, Session.place]
  generalize s.chainMembers[i]? = m at members
  generalize s'.chainMembers[i]? = m' at members
  cases members with
  | none => rfl
  | some alike =>
    dsimp only
    rw [alike.name, alike.kind]

theorem Alike.probes (h : s.Alike s') : s.probes = s'.probes := by
  have gates : s.members.filterMap Member.gate? = s'.members.filterMap Member.gate? := by
    have members := h.members
    generalize s.members = l at members
    generalize s'.members = l' at members
    induction members with
    | nil => rfl
    | cons first _ ih => rw [List.filterMap_cons, List.filterMap_cons, first.gate?, ih]
  rw [Session.probes, Session.probes, gates, h.world.state.sources.gates]

theorem Alike.status (h : s.Alike s') : s.status = s'.status := by
  rw [Session.status, Session.status, selected, selected, h.place, h.world.state.chain,
    h.world.log, h.probes]

theorem Alike.describe (h : s.Alike s') (via : Option Nat) : s.describe via = s'.describe via := by
  have members :
      Option.Rel Member.Alike (via.bind fun i => s.members[i]?)
        (via.bind fun i => s'.members[i]?) := by
    cases via with
    | none => exact .none
    | some i => exact forall₂_getElem? h.members i
  rw [Session.describe, Session.describe, h.world.state.chain, h.world.state.sources.gates,
    Chain.description_eq h.sources]
  generalize (via.bind fun i => s.members[i]?) = m at members
  generalize (via.bind fun i => s'.members[i]?) = m' at members
  cases members with
  | none => rfl
  | @some m m' alike =>
    cases m with
    | environment e =>
      cases m' <;> try cases alike
      obtain ⟨secret, rfl⟩ := EnvironmentSource.exists_withSecret alike
      exact (e.description_withSecret secret).symm
    | managedIdentity e =>
      cases m' <;> cases alike
      rfl
    | _ => cases m' <;> first | rfl | cases alike

theorem Alike.inspect (h : s.Alike s') (via : Nat) : s.inspect via = s'.inspect via := by
  have members := forall₂_getElem? h.members via
  rw [Session.inspect, Session.inspect, h.world.state.sources.gates]
  generalize s.members[via]? = m at members
  generalize s'.members[via]? = m' at members
  cases members with
  | none => rfl
  | @some m m' alike =>
    cases m with
    | environment e =>
      cases m' <;> try cases alike
      obtain ⟨secret, rfl⟩ := EnvironmentSource.exists_withSecret alike
      exact congrArg Report.configured (e.isConfigured_withSecret secret).symm
    | explicit e =>
      cases m' <;> try cases alike
      exact congrArg₂ Report.named alike.name alike.kind
    | _ =>
      cases m' <;> cases alike
      rfl

/-! ### Calls -/

theorem Alike.patience (h : s.Alike s') : s.patience = s'.patience := by
  have same : ∀ {l l' : List Member}, Forall₂ Member.Alike l l' →
      l.map Member.patience = l'.map Member.patience := by
    intro l l' members
    induction members with
    | nil => rfl
    | cons first _ ih => rw [List.map_cons, List.map_cons, first.patience, ih]
  rw [Session.patience, Session.patience, List.map_append, List.map_append, same h.members,
    same h.chainMembers]

theorem Alike.begins (h : s.Alike s') (c : Call) : s.begins c = s'.begins c := by
  rw [Session.begins, Session.begins, h.world.now]

/-- What a request to the chain begins, or one to a member. -/
def request (s : Session) (order : Option Nat × Request) :
    Task (Shared Surroundings) (Except Error Token) :=
  match order.1 with
  | none => s.chain.getToken order.2
  | some i => match s.members[i]? with
    | some m => Shared.lift (m.source.getToken order.2)
    | none => .crash

/-- **Requests are served alike.** -/
theorem Alike.request (h : s.Alike s') (order : Option Nat × Request) :
    (s.request order).Alike (Shared.Alike Surroundings.Alike) AnswerAlike (s'.request order) := by
  obtain ⟨via, r⟩ := order
  cases via with
  | none => exact Chain.alike_getToken r h.sources
  | some i =>
    have members := forall₂_getElem? h.members i
    rw [Session.request, Session.request]
    dsimp only
    generalize s.members[i]? = m at members
    generalize s'.members[i]? = m' at members
    cases members with
    | none => exact .crash
    | some alike => exact Shared.alike_lift (alike.source.getToken r)

theorem work_eq (s : Session) (c : Call) (key : CancelKey) :
    s.work c key = match s.request? c key with
      | none => .crash
      | some r => s.request (c.via, r) := by
  rw [work]
  cases s.request? c key with
  | none => rfl
  | some r =>
    cases h : c.via with
    | none => rfl
    | some i => rfl

theorem Alike.work (h : s.Alike s') (c : Call) (key : CancelKey) :
    (s.work c key).Alike (Shared.Alike Surroundings.Alike) AnswerAlike (s'.work c key) := by
  rw [work_eq, work_eq, request?, request?, h.begins]
  cases Request.ofTimeout? c.scopes c.timeout (s'.begins c) key with
  | none => exact .crash
  | some r => exact h.request (c.via, r)

theorem Alike.job (h : s.Alike s') (c : Call) (key : CancelKey) :
    Job.Alike (Shared.Alike Surroundings.Alike) AnswerAlike (s.job c key) (s'.job c key) := by
  rw [Session.job, Session.job, h.begins]
  refine .ofTask ?_ ..
  split
  · exact h.work c key
  · exact .wait (.plain ..) fun _ => h.work c key

theorem Alike.arrange (h : s.Alike s') (c : Call) (key : CancelKey)
    {w w' : World (Shared Surroundings)} (worlds : w.Alike (Shared.Alike Surroundings.Alike) w') :
    (s.arrange c key w).Alike (Shared.Alike Surroundings.Alike) (s'.arrange c key w') := by
  rw [Session.arrange, Session.arrange, h.begins]
  split
  · exact ⟨by rw [World.cancel, World.cancel, worlds.cancelled,
      worlds.now], worlds.cancelAt, worlds.log, worlds.state⟩
  · split
    · exact ⟨worlds.moment, by rw [World.scheduleCancel, World.scheduleCancel,
        worlds.cancelAt], worlds.log, worlds.state⟩
    · exact worlds

theorem Alike.keyed (h : s.Alike s') (calls : List Call) : s.keyed calls = s'.keyed calls := by
  rw [Session.keyed, Session.keyed, h.nextKey]

/-- **Calls begin alike.** -/
theorem Alike.start (h : s.Alike s') (calls : List Call) :
    (s.start calls).Alike (Shared.Alike Surroundings.Alike) AnswerAlike (s'.start calls) where
  world := by
    rw [Session.start, Session.start, arranged, arranged, h.keyed]
    have worlds := h.world
    generalize s.world = w at worlds
    generalize s'.world = w' at worlds
    dsimp only
    induction s'.keyed calls generalizing w w' with
    | nil => exact worlds
    | cons p keyed ih => exact ih _ _ (h.arrange p.1 p.2 worlds)
  queue := by
    rw [Session.start, Session.start, h.keyed]
    dsimp only
    rw [List.forall₂_map_left_iff, List.forall₂_map_right_iff]
    exact List.forall₂_same.mpr fun p _ => h.job p.1 p.2
  blocked := .nil
  finished := .nil

theorem start_distinct (s : Session) (calls : List Call) : (s.start calls).Distinct := by
  rw [Distinct, jobs, start, List.append_nil, List.map_map]
  exact s.nodup_keys calls

theorem Alike.turns (h : s.Alike s') (calls : List Call) : s.turns calls = s'.turns calls := by
  rw [Session.turns, Session.turns, h.patience]

theorem redacted_find? (l : List (Finish (Except Error Token))) (key : CancelKey) :
    ((l.find? fun f => f.id == key).map fun f => (⟨f.ending, f.time⟩ : CallResult)).map
      CallResult.redacted = ((l.map Finish.redacted).find? fun f => f.id == key).map
        fun f => ⟨f.ending, f.time⟩ := by
  rw [List.find?_map, Option.map_map, Option.map_map]
  rfl

/-- **Calls end alike.** -/
theorem Alike.runCalls (h : s.Alike s') (calls : List Call) :
    (s.runCalls calls).1.Alike (s'.runCalls calls).1 ∧
      (s.runCalls calls).2.map (Option.map CallResult.redacted) =
        (s'.runCalls calls).2.map (Option.map CallResult.redacted) := by
  have stops := (h.start calls).runTo none (s.turns calls)
  rw [runCalls_eq, runCalls_eq, h.keyed, h.nextKey, List.map_map, List.map_map]
  rw [h.turns] at stops ⊢
  refine ⟨⟨h.members, h.chainMembers, stops.world, rfl⟩, List.map_congr_left fun p _ => ?_⟩
  rw [Function.comp_apply, Function.comp_apply, redacted_find?, redacted_find?,
    map_redacted_eq stops.finished]

theorem Alike.traffic {a a' b b' : Surroundings} (before : a.Alike a') (after : b.Alike b') :
    (Session.traffic a b).redacted = (Session.traffic a' b').redacted := by
  have length : a.wire.sent.length = a'.wire.sent.length := by
    rw [← List.length_map Message.redacted, before.wire.sent, List.length_map]
  simp only [Session.traffic, Traffic.redacted, List.map_drop, length, after.wire.sent,
    before.tools.listed, after.tools.listed]

/-! ### Steps -/

theorem Alike.perform (h : s.Alike s') {t t' : Task (Shared Surroundings) Unit}
    (tasks : t.Alike (Shared.Alike Surroundings.Alike) Eq t') :
    (s.perform t).Alike (s'.perform t') :=
  h.withWorld (tasks.run h.world).1

theorem Alike.putFile (h : s.Alike s') (name : String) {node node' : Option FileNode}
    (nodes : Option.Rel FileNode.Alike node node') :
    (s.step (.file name node)).1.Alike (s'.step (.file name node')).1 :=
  h.perform (Shared.alike_lift
    (.step (fun around => { around with files := around.files.set name nodes }) fun _ => .done rfl))

theorem redacted_get (s : Session) (call : Call) : (s.step (.get call)).2.redacted =
    .got ((s.runCalls [call]).2.map (Option.map CallResult.redacted)).head?.join
      (Session.traffic s.world.state.sources
        (s.runCalls [call]).1.world.state.sources).redacted := by
  have one : ∀ results : List (Option CallResult), results.head?.join.map CallResult.redacted =
      (results.map (Option.map CallResult.redacted)).head?.join := fun results => by
    cases results <;> rfl
  rw [← one]
  rfl

theorem redacted_many (s : Session) (calls : List Call) : (s.step (.many calls)).2.redacted =
    .gotMany ((s.runCalls calls).2.map (Option.map CallResult.redacted))
      (Session.traffic s.world.state.sources (s.runCalls calls).1.world.state.sources).redacted
      (s.runCalls calls).1.world.now := rfl

/-- **One step** of sessions that are alike. -/
theorem Alike.step (h : s.Alike s') {step step' : Step} (steps : step.Alike step') :
    (s.step step).1.Alike (s'.step step').1 ∧
      (s.step step).2.redacted = (s'.step step').2.redacted := by
  cases steps with
  | file name nodes => exact ⟨h.putFile name nodes, rfl⟩
  | same =>
    cases step with
    | get call =>
      obtain ⟨after, results⟩ := h.runCalls [call]
      refine ⟨after, ?_⟩
      rw [redacted_get, redacted_get, results,
        Alike.traffic h.world.state.sources after.world.state.sources]
    | many calls =>
      obtain ⟨after, results⟩ := h.runCalls calls
      refine ⟨after, ?_⟩
      rw [redacted_many, redacted_many, results,
        Alike.traffic h.world.state.sources after.world.state.sources, after.world.now]
    | reset => exact ⟨h.perform (Chain.alike_reset h.sources), rfl⟩
    | clearLog => exact ⟨h.withWorld { h.world with log := congrArg Log.clear h.world.log }, rfl⟩
    | wait time =>
      refine ⟨h.withWorld { h.world with moment := ?_ }, rfl⟩
      dsimp only
      rw [h.world.now, h.world.cancelled]
    | file name node =>
      refine ⟨h.putFile name ?_, rfl⟩
      cases node with
      | none => exact .none
      | some n => exact .some (.same n)
    | sources =>
      refine ⟨h, congrArg Report.sources ?_⟩
      rw [h.place, h.chainMembers.length_eq]
    | lastScan =>
      refine ⟨h, congrArg Report.scan ?_⟩
      rw [h.place, h.world.state.chain]
    | log =>
      refine ⟨h, ?_⟩
      show Report.log s.world.log.lines s.world.log.capacity =
        Report.log s'.world.log.lines s'.world.log.capacity
      rw [h.world.log]
    | debug via => exact ⟨h, congrArg Report.debug (h.describe via)⟩
    | inspect via => exact ⟨h, congrArg Report.redacted (h.inspect via)⟩

/-- **Any steps** of sessions that are alike. -/
theorem Alike.steps (h : s.Alike s') {steps steps' : List Step}
    (alike : Forall₂ Step.Alike steps steps') : (s.steps steps).1.Alike (s'.steps steps').1 ∧
      (s.steps steps).2.map (Prod.map Report.redacted id) =
        (s'.steps steps').2.map (Prod.map Report.redacted id) := by
  induction alike generalizing s s' with
  | nil => exact ⟨h, rfl⟩
  | cons first _ ih =>
    obtain ⟨after, report⟩ := h.step first
    obtain ⟨last, reports⟩ := ih after
    refine ⟨last, ?_⟩
    rw [Session.steps, Session.steps]
    dsimp only
    rw [List.map_cons, List.map_cons, reports, Prod.map, Prod.map, report, after.status]

/-! ### Nobody can tell -/

/-- **Nobody can tell two sessions apart** without the secrets of tokens and the bodies of
messages. -/
structure Discreet (s s' : Session) : Prop where
  /-- Asked the same, the sessions answer the same, but for the secrets of tokens and the bodies of
  messages; and what goes with the answers is the same. -/
  answers : ∀ {steps steps' : List Step}, Forall₂ Step.Alike steps steps' →
    (s.steps steps).2.map (Prod.map Report.redacted id) =
      (s'.steps steps').2.map (Prod.map Report.redacted id)
  /-- The tokens in the answers are shown in the same way. -/
  tokens : ∀ {steps steps' : List Step}, Forall₂ Step.Alike steps steps' →
    ((s.steps steps).2.map fun a => a.1.tokens.map Token.description) =
      (s'.steps steps').2.map fun a => a.1.tokens.map Token.description
  /-- The same is seen behind the steps. -/
  sight : ∀ {steps steps' : List Step}, Forall₂ Step.Alike steps steps' →
    (s.steps steps).1.world.sight = (s'.steps steps').1.world.sight
  /-- In whatever order calls go on behind the steps, they can go on in the same order in the other
  session. -/
  follows : ∀ {steps steps' : List Step} {calls : List Call} {who : List (Option Nat)}
    {t : Schedule (Shared Surroundings) (Except Error Token)}, Forall₂ Step.Alike steps steps' →
    Takes who ((s.steps steps).1.start calls) t →
    ∃ t', Takes who ((s'.steps steps').1.start calls) t'
  /-- When calls have gone on in the same order, the same is seen, and the same calls are over, at
  the same times and with the same endings, but for the secrets of tokens. -/
  interleaved : ∀ {steps steps' : List Step} {calls : List Call} {who : List (Option Nat)}
    {t t' : Schedule (Shared Surroundings) (Except Error Token)}, Forall₂ Step.Alike steps steps' →
    Takes who ((s.steps steps).1.start calls) t → Takes who ((s'.steps steps').1.start calls) t' →
    t.world.sight = t'.world.sight ∧ t.world.now = t'.world.now ∧
      t.finished.map Finish.redacted = t'.finished.map Finish.redacted ∧
      (t.finished.map fun f => f.ending.token?.map Token.description) =
        t'.finished.map fun f => f.ending.token?.map Token.description
  /-- However finely requests are interleaved, and whatever happens around them that is the same but
  for secrets: the same is seen, the same requests are over with the same endings, but for the
  secrets of tokens, and the same can be done next. -/
  amid : ∀ {steps steps' : List Step}
    {a a' : Crowd (Option Nat × Request) (Shared Surroundings) (Except Error Token)},
    Forall₂ Step.Alike steps steps' →
    Crowd.Lockstep (Shared.Alike Surroundings.Alike) (s.steps steps).1.request
      (s'.steps steps').1.request (.empty (s.steps steps).1.world)
        (.empty (s'.steps steps').1.world) a a' →
    a.world.sight = a'.world.sight ∧
      (∀ id, (a.ending? id).map Ending.redacted = (a'.ending? id).map Ending.redacted ∧
        (a.ending? id).map (fun e => e.token?.map Token.description) =
          (a'.ending? id).map fun e => e.token?.map Token.description) ∧
      ∀ m b, Crowd.Acts (s.steps steps).1.request m a b →
      ∃ b', Crowd.Acts (s'.steps steps').1.request m a' b'

/-- **Sessions that are the same but for secrets** cannot be told apart. -/
theorem discreet_of_alike (h : s.Alike s') : Discreet s s' where
  answers alike := (h.steps alike).2
  tokens {steps steps'} alike := by
    have shown : ∀ answers :
        List (Report × Status), (answers.map fun a => a.1.tokens.map Token.description) =
        (answers.map (Prod.map Report.redacted id)).map fun a =>
          a.1.tokens.map Token.description := by
      intro answers
      rw [List.map_map]
      exact List.map_congr_left fun a _ => a.1.descriptions_redacted.symm
    rw [shown, shown (s'.steps steps').2, (h.steps alike).2]
  sight alike := (h.steps alike).1.world.sight
  follows {steps steps' calls who t} alike takes := by
    obtain ⟨t', takes', -⟩ := ((h.steps alike).1.start calls).takes takes
    exact ⟨t', takes'⟩
  interleaved {steps steps' calls who t t'} alike takes takes' := by
    -- the order in which calls go on leaves no choice, so the two schedules are the ones that are
    -- alike
    have schedules := ((h.steps alike).1.start calls).takes_both (start_distinct ..) takes takes'
    have endings := map_redacted_eq schedules.finished
    refine ⟨schedules.world.sight, schedules.world.now, endings, ?_⟩
    have shown : ∀ l :
        List (Finish (Except Error Token)), (l.map fun f => f.ending.token?.map Token.description) =
        (l.map Finish.redacted).map fun f => f.ending.token?.map Token.description := by
      intro l
      rw [List.map_map]
      exact List.map_congr_left fun f _ => f.ending.description_redacted.symm
    rw [shown, shown t'.finished, endings]
  amid {steps steps' a a'} alike lockstep := by
    obtain ⟨after, -⟩ := h.steps alike
    have crowds := (Crowd.alike_empty after.world).lockstep after.request lockstep
    refine ⟨crowds.world.sight, fun id => ?_, fun m b act => ?_⟩
    · have endings := crowds.redacted_ending? id
      refine ⟨endings, ?_⟩
      have shown : ∀ e :
          Option (Ending (Except Error Token)), e.map (fun e => e.token?.map Token.description) =
          (e.map Ending.redacted).map fun e => e.token?.map Token.description := by
        intro e
        rw [Option.map_map]
        exact Option.map_congr fun e _ => e.description_redacted.symm
      rw [shown, shown (a'.ending? id), endings]
    · obtain ⟨b', act', -⟩ := crowds.acts after.request act
      exact ⟨b', act'⟩

/-- The body of a response that grants a token for an hour. -/
def grantBody (secret : String) : List UInt8 :=
  Text.Utf8.encode ("\x7b\"access_token\":\"" ++ secret ++ "\",\"expires_in\":3600\x7d")

/-- A session of a workload, a client and a token that was handed over, with one reply to come. -/
def guarded (secret handed : String) (body : List UInt8) : Session where
  members := []
  chainMembers :=
    let authority : Url := ⟨"https", "", "", some "login.example", none, .segments [""], none, none⟩
    [.workload ⟨.ok ⟨"tenant", "client", "assertion"⟩, authority, .noRetry, ""⟩,
      .environment ⟨.ok ⟨"tenant", "client", secret⟩, authority, .noRetry, ""⟩,
      .explicit ⟨"handed over", handed, ⟨3600, 0⟩, []⟩]
  world := .initial ⟨0⟩ (.ofCapacity 8) ⟨.initial,
    ⟨.fixed 0, ⟨[⟨⟨0⟩, some (.response 200 (.ok body))⟩], []⟩, .initial, ⟨[], [], [], []⟩,
      fun _ => .untested, fun _ => []⟩⟩
  nextKey := 0

theorem alike_guarded (secret secret' handed handed' : String) {body body' : List UInt8}
    (h : ContentAlike 200 (.ok body) (.ok body')) :
    (guarded secret handed body).Alike (guarded secret' handed' body') where
  members := .nil
  chainMembers := .cons rfl (.cons rfl (.cons rfl .nil))
  world := ⟨rfl, rfl, rfl, rfl, rfl, ⟨.cons ⟨rfl, .some (.response ⟨rfl, .some h⟩)⟩ .nil, rfl⟩,
    List.forall₂_same.mpr fun _ _ => ⟨rfl, .same _⟩, ⟨.nil, .nil, rfl, rfl⟩, rfl, fun _ => .nil⟩
  nextKey := rfl

/-- An assertion is put in its place, and one call is made. -/
def presenting (assertion : String) : List Step :=
  [.file "assertion" (some (.file (Text.Utf8.encode assertion))),
    .get ⟨["scope"], none, false, none, none, ⟨0⟩, none⟩, .log]

theorem discreet_of_alike_guarded :
    (guarded "a" "d" (grantBody "b")).Alike (guarded "e" "h" (grantBody "f")) ∧
      Forall₂ Step.Alike (presenting "c") (presenting "g") ∧
      Discreet (guarded "a" "d" (grantBody "b")) (guarded "e" "h" (grantBody "f")) := by
  have reads : Endpoint.grant? (grantBody "b") = some ⟨"b", some 3600, none⟩ := by decide +kernel
  have reads' : Endpoint.grant? (grantBody "f") = some ⟨"f", some 3600, none⟩ := by decide +kernel
  have alike := alike_guarded "a" "e" "d" "h" (.grants rfl reads reads' rfl)
  have text : Text.Utf8.decode? (Text.Utf8.encode "c") = some "c" := by decide +kernel
  have text' : Text.Utf8.decode? (Text.Utf8.encode "g") = some "g" := by decide +kernel
  have presented : Step.Alike (.file "assertion" (some (.file (Text.Utf8.encode "c"))))
      (.file "assertion" (some (.file (Text.Utf8.encode "g")))) :=
    .file _ (.some (.assertion text text' rfl rfl))
  exact ⟨alike, .cons presented (.cons (.same _) (.cons (.same _) .nil)), discreet_of_alike alike⟩

end Session

end TokenChain
