import Mathlib.Algebra.GroupWithZero.Nat
import Mathlib.Algebra.Order.BigOperators.Group.List
import Mathlib.Algebra.Order.Group.Nat
import TokenChain.Proofs.Source.Service

/-! # Chains at the service of requests

A chain waits once for its turn, and otherwise only where its sources wait. So a call of a chain has
what the calls of its sources have, if these are kept by all that is built on behalf of a request
(`Task.Service.getToken`): a call waits no more than so often (`waits_chain`), and a chain of own
members waits for nothing beyond the end of the request (`heeds_chain`) and listens to its
cancellation (`serves_chain`). -/

namespace TokenChain

open TokenChain.Task

variable {ρ μ : Type} {r : Request}

/-- What happens to the sources of a chain, whatever happens to its own state. -/
def Shared.Outside (Quiet : ρ → ρ → Prop) (s s' : Shared ρ) : Prop := Quiet s.sources s'.sources

theorem Task.Waits.lift {α : Type} {Quiet : ρ → ρ → Prop} {t : Task ρ α} {n : Nat}
    (h : t.Waits Quiet n) : (Shared.lift t).Waits (Shared.Outside Quiet) n :=
  h.zoom Shared.sources (fun sources s => { s with sources }) fun quiet => quiet

theorem Task.Serves.lift {α : Type} {key : CancelKey} {Quiet : ρ → ρ → Prop} {t : Task ρ α}
    (h : t.Serves key Quiet) : (Shared.lift t).Serves key (Shared.Outside Quiet) :=
  h.zoom Shared.sources (fun sources s => { s with sources }) fun quiet => quiet

namespace Task.Service

variable {Quiet : ρ → ρ → Prop} {C : ∀ α : Type, Task (Shared ρ) α → Nat → Prop}
  {source : μ → Source ρ}

theorem ask (s : Service r (Shared.Outside Quiet) C) {patience : μ → Nat} {members : List μ}
    (serves : ∀ m ∈ members, C _ (Shared.lift ((source m).getToken r)) (patience m)) (i : Nat) :
    C _ ((⟨members.map source⟩ : Chain ρ).ask r i) (members.map patience).sum := by
  rw [Chain.ask, List.getElem?_map]
  cases at_i : members[i]? with
  | none => exact s.crash _
  | some m =>
    have mem := List.mem_of_getElem? at_i
    exact s.mono (serves m mem) (List.single_le_sum (fun _ _ => Nat.zero_le _) _
      (List.mem_map_of_mem mem))

theorem scanFrom (s : Service r (Shared.Outside Quiet) C) {patience : μ → Nat}
    (refl : ∀ a, Quiet a a) {members : List μ}
    (serves : ∀ m ∈ members, C _ (Shared.lift ((source m).getToken r)) (patience m)) (i : Nat)
    (found : Chain.Findings) :
    C _ (Chain.scanFrom r (members.map source) i found) (members.map patience).sum := by
  induction members generalizing i found with
  | nil => exact s.step (fun a => refl a.sources) fun _ => s.done ..
  | cons m rest ih =>
    obtain ⟨first, serves⟩ := List.forall_mem_cons.mp serves
    refine s.step (fun a => refl a.sources) fun state => ?_
    rw [List.map_cons, List.sum_cons]
    split
    · exact s.note (s.mono (ih serves ..) (Nat.le_add_left ..))
    · refine s.bind first fun result => ?_
      cases result with
      | ok token => exact s.step (fun a => refl a.sources) fun _ => s.done ..
      | error e => exact s.step (fun a => refl a.sources) fun _ => ih serves ..

theorem takeTurn (s : Service r (Shared.Outside Quiet) C) {patience : μ → Nat}
    (refl : ∀ a, Quiet a a) {members : List μ}
    (serves : ∀ m ∈ members, C _ (Shared.lift ((source m).getToken r)) (patience m))
    (ticket : Nat) :
    C _ ((⟨members.map source⟩ : Chain ρ).takeTurn r ticket) (members.map patience).sum := by
  refine s.step (fun a => refl a.sources) fun state => ?_
  split
  · exact s.step (fun a => refl a.sources) fun _ => s.ask serves _
  · exact s.bind (k := 0)
      (s.onLoss (fun a => refl a.sources) (s.scanFrom refl serves 0 .empty)) fun _ =>
        s.step (fun a => refl a.sources) fun _ => s.done ..

/-- **A call of a chain** is built from the calls of its sources on behalf of the request. -/
theorem getToken (s : Service r (Shared.Outside Quiet) C) (patience : μ → Nat)
    (refl : ∀ a, Quiet a a) {members : List μ}
    (serves : ∀ m ∈ members, C _ (Shared.lift ((source m).getToken r)) (patience m)) :
    C _ ((⟨members.map source⟩ : Chain ρ).getToken r) (1 + (members.map patience).sum) := by
  refine s.step (fun a => refl a.sources) fun state => ?_
  split
  · exact s.mono (s.ask serves _) (Nat.le_add_left ..)
  · refine s.bind (s.within _ _ fun before => ?_) fun ticket => ?_
    · exact ⟨fun a => refl a.sources, 0, Nat.zero_lt_one, fun _ => trivial⟩
    · cases ticket with
      | error e => exact s.done ..
      | ok ticket => exact s.takeTurn refl serves ticket

end Task.Service

/-! ### Chains of members -/

namespace Member

/-- How often a call of a chain waits at most. -/
def chainPatience (members : List Member) : Nat := 1 + (members.map patience).sum

/-- **A call of a chain** waits no more than so often. -/
theorem waits_chain (members : List Member) (r : Request) :
    ((⟨members.map source⟩ : Chain Surroundings).getToken r).Waits
      (Shared.Outside Surroundings.Still) (chainPatience members) :=
  (service_waits r (fun s => .refl s.sources) .trans).getToken patience .refl fun m _ =>
    (m.waits_getToken r).lift

/-- **A call of a chain of own members** waits for nothing beyond the end of its request. -/
theorem heeds_chain {members : List Member} (own : ∀ m ∈ members, m.IsOwn) {r : Request}
    {cancelAt : CancelKey → Option Instant} {late : Instant} (ends : r.EndsBy cancelAt late) :
    ((⟨members.map source⟩ : Chain Surroundings).getToken r).Heeds cancelAt late :=
  (service_heeds ends (Shared.Outside Surroundings.Still)).getToken (fun _ => 0) .refl fun m hm =>
    ((service_heeds ends Surroundings.Still).member (own m hm)).zoom

/-- **A call of a chain of own members** listens to the cancellation of its request. -/
theorem serves_chain {members : List Member} (own : ∀ m ∈ members, m.IsOwn) (r : Request) :
    ((⟨members.map source⟩ : Chain Surroundings).getToken r).Serves r.cancel
      (Shared.Outside Surroundings.Still) :=
  (service_serves r (fun s => .refl s.sources) .trans).getToken (fun _ => 0) .refl fun m hm =>
    ((service_serves r Surroundings.Still.refl .trans).member (own m hm)).lift

end Member

end TokenChain
