import Mathlib.Data.List.Basic
import TokenChain.Chain.Member
import TokenChain.Proofs.Task.Service

/-! # Sources at the service of requests

The sources of the library wait in the service of their requests, and nowhere else: for a response,
for a tool, for the probe of another caller, and between attempts. A rehearsed source is the
exception; it stands in for a source that may wait as it likes (`Member.IsOwn`).

What is quiet (`Surroundings.Still`) may touch gates, files and rehearsals; it sends no message and
starts no tool. To list a run that is over is quiet. So every `Task.Service` with this relation has
the calls of all own members in it (`Task.Service.member`): they wait no more than `Member.patience`
says, in time for the deadline of the request, and not at all once it has been cancelled. -/

namespace TokenChain

/-! ### What is quiet -/

namespace Tools

/-- How many runs have been begun so far. -/
def runs (t : Tools) : Nat := t.begun.length + t.listed.length

theorem runs_close (key : CancelKey) (timedOut : Bool) (t : Tools) :
    (close key timedOut t).runs = t.runs := by
  have split :
      t.begun.length = (t.begun.filter fun b => b.1 == key).length +
        (t.begun.filter fun b => b.1 != key).length :=
    List.length_eq_length_filter_add ..
  simp only [runs, close, List.length_append, List.length_map]
  omega

end Tools

/-- **No message is sent and no tool is started.** -/
structure Surroundings.Still (s s' : Surroundings) : Prop where
  wire : s'.wire = s.wire
  az : s'.tools.az = s.tools.az
  azd : s'.tools.azd = s.tools.azd
  runs : s'.tools.runs = s.tools.runs

namespace Surroundings

theorem Still.refl (s : Surroundings) : s.Still s := ⟨rfl, rfl, rfl, rfl⟩

theorem Still.trans {a b c : Surroundings} (h : a.Still b) (h' : b.Still c) : a.Still c :=
  ⟨h'.wire.trans h.wire, h'.az.trans h.az, h'.azd.trans h.azd, h'.runs.trans h.runs⟩

theorem still_setGate (i : Nat) (f : ProbeState → ProbeState) (s : Surroundings) :
    s.Still (s.setGate i f) :=
  ⟨rfl, rfl, rfl, rfl⟩

theorem still_close (key : CancelKey) (timedOut : Bool) (s : Surroundings) :
    s.Still { s with tools := s.tools.close key timedOut } :=
  ⟨rfl, rfl, rfl, s.tools.runs_close key timedOut⟩

end Surroundings

open TokenChain.Task Surroundings

/-! ### Single waits -/

theorem Delayed.waits_await {σ α : Type} (d : Delayed α) (start : Instant) :
    (d.await start : Task σ α).Waits (fun s s' => s' = s) 1 := by
  rcases d.await_cases (σ := σ) start with ⟨a, -, there⟩ | waits
  · rw [there]
    trivial
  · rw [waits]
    refine ⟨fun _ => rfl, 0, Nat.zero_lt_one, fun _ => ?_⟩
    cases d.value <;> trivial

theorem Wire.waits_exchange (m : Message) :
    (Wire.exchange m).Waits (fun w w' => w' = w) Wire.patience := by
  rw [exchange]
  split
  · exact fun w sent => (w.nextReply.waits_await sent.now).bind fun head => head.rest.waits_await _
  · trivial

theorem Tools.waits_run (tool : Tool) (key : CancelKey) (program : String) (args : List String) :
    (Tools.run tool key program args).Waits (fun t t' => t' = t) 1 := by
  intro t
  dsimp only
  split
  · exact ⟨fun _ => rfl, 0, Nat.zero_lt_one, fun _ => trivial⟩
  · trivial

theorem Surroundings.waits_onWire {α : Type} {t : Task Wire α} {n : Nat}
    (h : t.Waits (fun w w' => w' = w) n) : (onWire t).Waits Still n :=
  h.zoom _ _ fun same => by rw [same]; exact Still.refl _

theorem Surroundings.waits_onTools {α : Type} {t : Task Tools α} {n : Nat}
    (h : t.Waits (fun w w' => w' = w) n) : (onTools t).Waits Still n :=
  h.zoom _ _ fun same => by rw [same]; exact Still.refl _

namespace Endpoint

theorem waits_readToken (credential : String) (family : Family)
    (scopes : List String) (status : Nat) (body : Except String (List UInt8)) :
    (readToken credential family scopes status body : Task Surroundings _).Waits Still 0 := by
  cases body with
  | error e => trivial
  | ok bytes =>
    dsimp only [readToken]
    split
    · split
      · trivial
      · intro m
        dsimp only
        split <;> trivial
    · trivial

theorem waits_call (credential : String) (family : Family) (scopes : List String) (m : Message) :
    (call credential family scopes m).Waits Still Wire.patience := by
  refine (waits_onWire (Wire.waits_exchange m)).bind (k := 0) fun outcome => ?_
  cases outcome with
  | response status body => exact waits_readToken ..
  | unreachable text => trivial
  | timedOut text => trivial

theorem waits_authorityToken (credential agent : String) (authority : Url) (tenant : String)
    (proof : List (String × String)) (scopes : List String) :
    (authorityToken credential agent authority tenant proof scopes).Waits Still Wire.patience := by
  rw [authorityToken]
  split
  · trivial
  · exact waits_call ..

end Endpoint

theorem ToolSource.waits_run (m : ToolSource) (r : Request) (args : List String) :
    ((onTools (Tools.run m.tool r.cancel m.program args)).bind fun outcome =>
      .done (m.result outcome) : Task Surroundings (Except Error (List UInt8))).Waits Still 1 :=
  (waits_onTools (Tools.waits_run m.tool r.cancel m.program args)).bind (k := 0) fun _ => trivial

/-! ### Members -/

/-- A source of the library itself, which waits for nothing but its request. -/
def Member.IsOwn : Member → Prop
  | rehearsed _ => False
  | _ => True

namespace Task.Service

variable {r : Request} {C : ∀ α : Type, Task Surroundings α → Nat → Prop}

theorem reported (s : Service r Still C) {credential : String}
    {work : Task Surroundings (Except Error Token)} {n : Nat} (h : C _ work n) :
    C _ (Source.reported credential work) n :=
  s.look fun _ => s.bind (k := 0) h fun _ => s.look fun _ => s.note (s.done ..)

theorem environment (s : Service r Still C) (m : EnvironmentSource) :
    C _ (m.source.getToken r) (m.retry.patience Wire.patience) := by
  refine s.reported ?_
  rw [EnvironmentSource.fetch]
  split
  · exact s.done ..
  · exact s.execute m.retry _ fun _ => Endpoint.waits_authorityToken ..

theorem workload (s : Service r Still C) (m : WorkloadSource) :
    C _ (m.source.getToken r) (m.retry.patience Wire.patience) := by
  refine s.reported ?_
  rw [WorkloadSource.fetch]
  split
  · exact s.done ..
  · refine s.step Still.refl fun around => ?_
    split
    · exact s.done ..
    · exact s.execute m.retry _ fun _ => Endpoint.waits_authorityToken ..

theorem consult (s : Service r Still C) (gate : Nat) (credential : String) :
    C _ (onGate gate (ProbeState.consult r credential)) 1 := by
  refine s.step (still_setGate gate ProbeState.claim) fun around => ?_
  dsimp only
  split
  · exact s.done ..
  · rw [zoom_within]
    exact s.within _ _ ⟨still_setGate gate id, 0, Nat.zero_lt_one, fun _ _ => trivial⟩

theorem probe (s : Service r Still C) (m : ManagedIdentitySource) (resource : String) :
    C _ (m.probe resource r) Wire.patience := by
  have asked := s.within ManagedIdentitySource.credential (some m.probeTimeout)
    (Endpoint.waits_call ManagedIdentitySource.credential .managedIdentity r.scopes
      (m.message resource))
  exact s.bind (k := 0) (s.onLoss (still_setGate _ _) asked) fun _ =>
    s.step (still_setGate _ _) fun _ => s.done ..

theorem askWith (s : Service r Still C) (m : ManagedIdentitySource) (policy : RetryPolicy)
    (resource : String) : C _ (m.askWith policy resource r) (policy.patience Wire.patience) :=
  s.execute policy _ fun _ => Endpoint.waits_call ..

theorem fetchImds (s : Service r Still C) (m : ManagedIdentitySource) (resource : String) :
    C _ (m.fetchImds resource r) (1 + m.retry.patience Wire.patience) := by
  refine s.bind (s.consult ..) fun admission => ?_
  cases admission with
  | error e => exact s.done ..
  | ok admission =>
    cases admission with
    | closed reason => exact s.done ..
    | probe => exact s.mono (s.probe m resource) (Nat.le_add_left ..)
    | opened => exact s.askWith m m.retry resource

theorem managedIdentity (s : Service r Still C) (m : ManagedIdentitySource) :
    C _ (m.source.getToken r) (m.retry.patience Wire.patience + 2) := by
  refine s.reported ?_
  rw [ManagedIdentitySource.fetch]
  split
  · exact s.done ..
  · split
    · exact s.mono (s.fetchImds ..) (by omega)
    · exact s.mono (s.askWith ..) (Nat.le_add_right ..)

theorem tool (s : Service r Still C) (m : ToolSource) : C _ (m.source.getToken r) 1 := by
  refine s.bind (n := 1) (k := 0) (s.reported ?_) fun result => ?_
  · rw [ToolSource.fetch]
    split
    · exact s.done ..
    · refine s.bind (n := 1) (k := 0) (s.within _ _ (m.waits_run r _)) fun output => ?_
      cases output with
      | error e => exact s.done ..
      | ok stdout =>
        refine s.step Still.refl fun around => ?_
        split <;> exact s.done ..
  · exact s.step (still_close r.cancel _) fun _ => s.done ..

theorem explicit (s : Service r Still C) (e : ExplicitToken) :
    C _ ((e.source : Source Surroundings).getToken r) 0 :=
  s.look fun _ => s.note (s.done ..)

/-- **The members of the library** serve their requests. -/
theorem member (s : Service r Still C) {m : Member} (own : m.IsOwn) :
    C _ (m.source.getToken r) m.patience := by
  cases m with
  | environment m => exact s.environment m
  | workload m => exact s.workload m
  | managedIdentity m => exact s.managedIdentity m
  | tool m => exact s.tool m
  | explicit e => exact s.explicit e
  | rehearsed m => exact own.elim

end Task.Service

theorem RehearsedSource.waits_getToken (s : RehearsedSource) (r : Request) :
    (s.source.getToken r).Waits Still 1 := by
  have cued : ∀ delay cue, (s.play r delay cue).Waits Still 1 := by
    intro delay cue
    have answers : ((perform r cue).bind fun result =>
        .note ⟨.info, s.name, remark result⟩ (.done result) : Task Surroundings
            (Except Error Token)).Waits Still 0 := by
      refine Waits.bind (k := 0) ?_ fun _ => trivial
      cases cue with
      | crash => trivial
      | error e => trivial
      | token secret lifetime =>
        intro m
        dsimp only
        split <;> trivial
    rw [play]
    split
    · exact answers.mono (Nat.zero_le 1)
    · exact fun _ => ⟨Still.refl, 0, Nat.zero_lt_one, fun _ => answers⟩
  refine Waits.bind (n := 0) (k := 1) (fun _ => trivial) fun cues => ?_
  cases cues.head? with
  | none => exact cued ..
  | some entry => exact cued ..

/-- **How often a call of a member waits** at most. -/
theorem Member.waits_getToken (m : Member) (r : Request) :
    (m.source.getToken r).Waits Still m.patience := by
  cases m with
  | rehearsed s => exact s.waits_getToken r
  | environment _ | workload _ | managedIdentity _ | tool _ | explicit _ =>
    exact (service_waits r Still.refl Still.trans).member trivial

end TokenChain
