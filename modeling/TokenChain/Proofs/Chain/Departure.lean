import TokenChain.Proofs.Chain.Exhaustion
import TokenChain.Proofs.Chain.Renewal
import TokenChain.Proofs.Task.Course

/-! # Calls that are cut off

A call may be cut off at two places: where it waits for its turn (its request is cancelled, its
deadline comes, it is dropped), and in the middle of its scan (it is dropped, or the source at work
breaks down).

As long as a call has not had its turn, it touches nothing but the tickets (`Turnless`,
`untouched_of_turnless`). A scan puts its record down and selects a source with its last step only;
until then it has ruled out what it has heard not to apply, and nothing else has changed since it
began (`Modest`, `modestPact_kept`). The step with which a call is cut off (`CutsOff`) gives its
ticket back and does no more to the chain (`release_of_cutsOff`). -/

namespace TokenChain.Chain

open TokenChain.Task TokenChain.Shared

variable {ρ : Type} {c : Chain ρ}

/-! ### The steps of a call -/

theorem task_of_leads {r : Request} {h : History (Shared ρ)}
    {u : Task (Shared ρ) (Except Error Token)} (leads : (c.getToken r).Leads h u) :
    u = (Position.of c r h).task c r := by
  induction h using List.reverseRecOn generalizing u with
  | nil =>
    cases leads
    rfl
  | append_singleton h step ih =>
    obtain ⟨v, before, last⟩ := leads.split
    cases last with
    | step next rest =>
      cases rest
      rw [ih before] at next
      rw [Position.of_snoc]
      exact (next?_task next).1

theorem next?_of_leads {r : Request} {h₁ h₂ : History (Shared ρ)} {w w' : World (Shared ρ)}
    {u : Task (Shared ρ) (Except Error Token)}
    (leads : (c.getToken r).Leads (h₁ ++ (w, w') :: h₂) u) :
    ∃ t, ((Position.of c r h₁).task c r).next? w = some (w', t) := by
  obtain ⟨v, before, after⟩ := leads.split
  cases after with
  | step next rest =>
    rw [task_of_leads before] at next
    exact ⟨_, next⟩

/-! ### Before its turn -/

/-- Whether a call waits for its turn or has gone without it. -/
def Position.isTurnless : Position ρ → Bool
  | arriving | knocking | entering | queued _ | quitting .. | ended none _ => true
  | _ => false

/-- A call has not had its turn at any time. -/
def Turnless (c : Chain ρ) (r : Request) (h : History (Shared ρ)) : Prop :=
  ∀ h₁ h₂, h = h₁ ++ h₂ → (Position.of c r h₁).isTurnless = true

theorem Turnless.prefix {r : Request} {h₁ h₂ : History (Shared ρ)} (h : Turnless c r (h₁ ++ h₂)) :
    Turnless c r h₁ :=
  fun a b he => h a (b ++ h₂) (by rw [he, List.append_assoc])

theorem Turnless.last {r : Request} {h : History (Shared ρ)} (turnless : Turnless c r h) :
    (Position.of c r h).isTurnless = true :=
  turnless h [] (List.append_nil h).symm

/-- Whether a call has not come to its turn, and does not have a source either. -/
def Position.isPending : Position ρ → Bool
  | arriving | knocking | entering | queued _ | quitting .. => true
  | _ => false

theorem isPending_of_next {r : Request} {w : World (Shared ρ)} {p q : Position ρ}
    (next : p.Next c r w q) (pending : q.isPending = true) : p.isPending = true := by
  cases next <;> first | rfl | cases pending

theorem Turnless.snoc {r : Request} {h : History (Shared ρ)}
    {step : World (Shared ρ) × World (Shared ρ)} (turnless : Turnless c r h)
    (last : (Position.of c r (h ++ [step])).isTurnless = true) : Turnless c r (h ++ [step]) := by
  intro h₁ h₂ he
  rcases List.eq_nil_or_concat h₂ with rfl | ⟨h₃, final, rfl⟩
  · rw [List.append_nil] at he
    rwa [← he]
  · rw [List.concat_eq_append, ← List.append_assoc] at he
    obtain ⟨rfl, -⟩ := List.append_inj' he rfl
    exact turnless h₁ h₃ rfl

/-- **A call that waits** has not had its turn. -/
theorem turnless_of_isPending {r : Request} {h : History (Shared ρ)}
    (pending : (Position.of c r h).isPending = true) : Turnless c r h := by
  have turnless : ∀ {p : Position ρ}, p.isPending = true → p.isTurnless = true := by
    intro p hp
    cases p <;> first | rfl | cases hp
  induction h using List.reverseRecOn with
  | nil =>
    intro h₁ h₂ he
    rw [(List.append_eq_nil_iff.mp he.symm).1]
    rfl
  | append_singleton h step ih =>
    refine Turnless.snoc (ih ?_) (turnless pending)
    obtain ⟨w, w'⟩ := step
    rw [Position.of_snoc] at pending
    exact isPending_of_next (next_follow _) pending

/-- A step leaves the log, the sources and all that the chain remembers as they are; it may take or
give back a ticket. -/
structure Untouched (w w' : World (Shared ρ)) : Prop where
  log : w'.log = w.log
  sources : w'.state.sources = w.state.sources
  selected : w'.state.chain.selected = w.state.chain.selected
  ruledOut : w'.state.chain.ruledOut = w.state.chain.ruledOut
  lastScan : w'.state.chain.lastScan = w.state.chain.lastScan

/-- **A step of a call** that has not had its turn touches nothing. -/
theorem untouched_of_isTurnless {r : Request} {p : Position ρ} {w w' : World (Shared ρ)}
    {t : Task (Shared ρ) (Except Error Token)} (turnless : p.isTurnless = true)
    (next : (p.task c r).next? w = some (w', t)) : Untouched w w' := by
  cases p with
  | arriving | knocking | entering | quitting =>
    cases next
    exact ⟨rfl, rfl, rfl, rfl, rfl⟩
  | queued ticket =>
    obtain ⟨x, -, he⟩ := Option.map_eq_some_iff.mp next
    cases he
    exact ⟨rfl, rfl, rfl, rfl, rfl⟩
  | ended => cases next
  | admitted | yielding | scanning | skipping | trying | closing | asking | lost => cases turnless

theorem untouched_of_turnless {r : Request} {h : History (Shared ρ)}
    {u : Task (Shared ρ) (Except Error Token)} (leads : (c.getToken r).Leads h u)
    (turnless : Turnless c r h) {w w' : World (Shared ρ)} (mem : (w, w') ∈ h) : Untouched w w' := by
  obtain ⟨h₁, h₂, rfl⟩ := List.append_of_mem mem
  obtain ⟨t, next⟩ := next?_of_leads leads
  exact untouched_of_isTurnless (turnless h₁ _ rfl) next

theorem Turnless.not_called {r : Request} {h : History (Shared ρ)}
    (turnless : Turnless c r h) (i : Nat) : ¬ Called c r h i := by
  rintro ⟨h₁, h₂, u, rfl, hu⟩
  have := turnless h₁ h₂ rfl
  generalize Position.of c r h₁ = p at *
  cases p with
  | trying | asking => cases this
  | _ => cases hu

theorem excused_of_leads {r : Request} {h : History (Shared ρ)}
    {u : Task (Shared ρ) (Except Error Token)} (leads : (c.getToken r).Leads h u) :
    Excused (CutShort c r h) (Position.of c r h) := by
  induction h using List.reverseRecOn generalizing u with
  | nil => trivial
  | append_singleton h step ih =>
    obtain ⟨w, w'⟩ := step
    obtain ⟨v, before, -⟩ := leads.split
    obtain ⟨t, next⟩ := next?_of_leads leads
    have excused := excused_next (ih before) next (next_follow _)
    rwa [← Position.of_snoc c r h w w'] at excused

/-- **A call that has ended without its turn** was cut short, and says so. -/
theorem cutShort_of_turnless {r : Request} {h : History (Shared ρ)} {x : Except Error Token}
    (leads : (c.getToken r).Leads h (.done x)) (turnless : Turnless c r h) :
    CutShort c r h ∧ ∃ message, x = .error (.timeout credential message) := by
  rcases of_task_eq_done (task_of_leads leads).symm with ⟨i, hp⟩ | ⟨source?, hp⟩
  · have := turnless.last
    rw [hp] at this
    cases this
  · rcases List.eq_nil_or_concat h with rfl | ⟨h, ⟨w, w'⟩, rfl⟩
    · cases hp
    · rw [List.concat_eq_append] at *
      obtain ⟨v, before, -⟩ := leads.split
      obtain ⟨t, next⟩ := next?_of_leads leads
      have leads' := next_follow (c := c) (r := r) (w := w) (Position.of c r h)
      rw [← Position.of_snoc c r h w w', hp] at leads'
      have excused := excused_of_leads before
      have refused :
          (Position.of c r h).isWaiting = true → w.cancelled r.cancel = true →
          CutShort c r (h ++ [(w, w')]) :=
        fun waiting cancelled => cutShort_snoc w' waiting (.inl cancelled)
      have last := turnless.prefix.last
      generalize Position.of c r h = p at *
      cases leads' with
      | refuse cancelled => exact ⟨refused rfl cancelled, _, rfl⟩
      | quit =>
        obtain ⟨short, message, rfl⟩ := excused
        exact ⟨short.append _, message, rfl⟩
      | close => cases last
      | stay => cases next

/-! ### In the middle of a scan -/

/-- In the course of some steps of a call, a scan heard from the source at place `k` that it does
not apply. -/
def Heard (c : Chain ρ) (r : Request) (h : History (Shared ρ)) (k : Nat) (reason : String) : Prop :=
  ∃ h₁ h₂ t f credential, h = h₁ ++ h₂ ∧
    Position.of c r h₁ = .trying t k f (.done (.error (.unavailable credential reason)))

theorem Heard.append {r : Request} {h : History (Shared ρ)} {k : Nat} {reason : String}
    (hh : Heard c r h k reason) (h' : History (Shared ρ)) : Heard c r (h ++ h') k reason := by
  obtain ⟨h₁, h₂, t, f, credential, rfl, hp⟩ := hh
  exact ⟨h₁, h₂ ++ h', t, f, credential, List.append_assoc .., hp⟩

/-- What has changed since a scan began: sources are ruled out that it has heard not to apply, and
nothing else. -/
structure Modest (c : Chain ρ) (x : Call ρ) (began s : ChainState) : Prop where
  selected : s.selected = began.selected
  lastScan : s.lastScan = began.lastScan
  ruledOut : ∀ k reason, s.reason? k = some reason →
    began.reason? k = some reason ∨ Heard c x.order x.history k reason

/-- The state of the chain with which a call began its scan. -/
def ScansSince (c : Chain ρ) (x : Call ρ) (began : ChainState) : Prop :=
  ∃ h₁ w w' h₂ t, x.history = h₁ ++ (w, w') :: h₂ ∧ Position.of c x.order h₁ = .admitted t ∧
    Position.of c x.order (h₁ ++ [(w, w')]) = .scanning t 0 .empty ∧ w.state.chain = began

theorem ScansSince.after {x : Call ρ} {began : ChainState} (h : ScansSince c x began)
    (w w' : World (Shared ρ)) (t : Task (Shared ρ) (Except Error Token)) :
    ScansSince c (x.after w w' t) began := by
  obtain ⟨h₁, v, v', h₂, ticket, he, hp, hq, hs⟩ := h
  refine ⟨h₁, v, v', h₂ ++ [(w, w')], ticket, ?_, hp, hq, hs⟩
  show x.history ++ [(w, w')] = _
  rw [he, List.append_assoc, List.cons_append]

/-- What the calls of a chain have changed that go through its sources. -/
def modestPact (c : Chain ρ) : Pact Request (Shared ρ) (Except Error Token) :=
  c.pact.also fun w x => (c.position x).inLoop = true → ∃ began, ScansSince c x began ∧
    Modest c x began w.state.chain

theorem effect_of_not_hasTurn {p : Position ρ} (s : ChainState) (turn : p.hasTurn = false) :
    (p.effect c s).selected = s.selected ∧ (p.effect c s).lastScan = s.lastScan ∧
      ∀ k, (p.effect c s).reason? k = s.reason? k := by
  cases p with
  | admitted | yielding | scanning | skipping | trying | closing => cases turn
  | arriving | knocking | entering | queued | quitting | asking | ended | lost =>
    exact ⟨rfl, rfl, fun _ => rfl⟩

/-- **A step of a scan** that goes on: it may rule out a source that it has heard not to apply. -/
theorem effect_of_inLoop {r : Request} {w : World (Shared ρ)} {p q : Position ρ}
    (next : p.Next c r w q) (loop : q.inLoop = true) :
    (p.effect c w.state.chain).selected = w.state.chain.selected ∧
      (p.effect c w.state.chain).lastScan = w.state.chain.lastScan ∧
      ∀ k reason, (p.effect c w.state.chain).reason? k = some reason →
      w.state.chain.reason? k = some reason ∨
        ∃ t f credential, p = .trying t k f (.done (.error (.unavailable credential reason))) := by
  refine ⟨?_, ?_, fun k reason => of_reason?_effect⟩
  all_goals
    cases next with
    | scan | goOn => rfl
    | skip valid | attempt valid => rw [Position.effect, if_pos valid]; rfl
    | @fail t i f e =>
      obtain ⟨selected, lastScan, -, -⟩ := noteFailure_eq i e w.state.chain
      first | exact selected | exact lastScan
    | work unfinished unbroken => rw [effect_work unfinished unbroken]
    | ask | miss | knock | refuse | enter | queue | cancel | advance | expire | quit | yield
    | askAfter | missAfter | exhaust | win | breakDown | close | answer | stay | gone => cases loop

theorem modestPact_kept (c : Chain ρ) : c.modestPact.Kept c.getToken c.Around := by
  refine c.pact_kept.also (fun r _ => nofun) ?_ ?_ ?_ ?_
  · -- A step of the scan itself.
    intro w w' x t sound hx modest next loop
    obtain ⟨hrest, fits⟩ := hx
    rw [hrest] at next
    rw [position_after] at loop
    have follows := next_follow (c := c) (r := x.order) (w := w) (c.position x)
    obtain ⟨selected, lastScan, reasons⟩ := effect_of_inLoop follows loop
    rw [(next?_task next).2]
    rcases of_next_inLoop follows loop with before | ⟨ticket, hp, hq⟩
    · obtain ⟨began, since, same⟩ := modest before
      refine ⟨began, since.after .., selected.trans same.selected, lastScan.trans same.lastScan,
        fun k reason hk => ?_⟩
      rcases reasons k reason hk with hk | ⟨ticket, f, credential, hp⟩
      · exact (same.ruledOut k reason hk).imp id fun heard => heard.append _
      · exact .inr ⟨x.history, [(w, w')], ticket, f, credential, rfl, hp⟩
    · refine ⟨w.state.chain, ⟨x.history, w, w', [], ticket, rfl, hp, ?_, rfl⟩, selected, lastScan,
        fun k reason hk => ?_⟩
      · rw [Position.of_snoc]
        exact hq
      · rcases reasons k reason hk with hk | ⟨ticket', f, credential, he⟩
        · exact .inl hk
        · rw [hp] at he
          cases he
  · -- While a call scans, no other one has its turn.
    intro w w' x y t sound hx hy apart next modest loop
    have turn := hy.2.not_hasTurn hx.2 apart.symm (Position.hasTurn_of_inLoop loop)
    rw [hx.1] at next
    obtain ⟨selected, lastScan, reasons⟩ := effect_of_not_hasTurn (c := c) w.state.chain turn
    obtain ⟨began, since, same⟩ := modest loop
    rw [(next?_task next).2]
    exact ⟨began, since, selected.trans same.selected, lastScan.trans same.lastScan,
      fun k reason hk => same.ruledOut k reason ((reasons k).symm.trans hk)⟩
  · intro w w' x y sound hx dropped modest loop
    rw [hx.1] at dropped
    obtain ⟨selected, lastScan⟩ := selected_release w.state.chain (c.position x)
    obtain ⟨began, since, same⟩ := modest loop
    rw [drop?_task dropped]
    exact ⟨began, since, selected.trans same.selected, lastScan.trans same.lastScan,
      fun k reason hk => same.ruledOut k reason ((reason?_release ..).symm.trans hk)⟩
  · intro w w' y sound hy around modest loop
    obtain ⟨began, since, same⟩ := modest loop
    cases around with
    | beside beside =>
      rw [show w'.state.chain = w.state.chain from beside]
      exact ⟨began, since, same⟩
    | reset =>
      -- Nothing is selected during a scan, so a reset only forgets what was ruled out.
      rw [run_reset]
      exact ⟨began, since, (hy.2.selected loop).symm.trans same.selected, same.lastScan, nofun⟩

/-! ### Where a call is cut off -/

/-- With a move a call that holds the ticket `t` is cut off: it gives up, it is dropped, or its
source has broken down. -/
def CutsOff (c : Chain ρ) (m : Crowd.Move Request) (s : Calls ρ) (id t : Nat) : Prop :=
  ∃ x, s.callers id = some x ∧
    ((m = .go id ∧ ∃ e, c.position x = .quitting t e) ∨
      (m = .drop id ∧ (c.position x).ticket? = some t) ∨
      (m = .go id ∧ ∃ i f, c.position x = .trying t i f .crash))

/-- **What is left by a call** that is cut off: its ticket is given back and the chain is as it
was. -/
structure Releases (s s' : Calls ρ) (id t : Nat) : Prop where
  chain : s'.world.state.chain = s.world.state.chain.leave t
  log : s'.world.log = s.world.log
  gone : t ∉ s'.world.state.chain.turns.waiting
  isOver : ∀ x, s'.callers id = some x → x.IsOver
  others : ∀ j, j ≠ id → s'.callers j = s.callers j

theorem log_drop? {σ α : Type} {t : Task σ α} {w w' : World σ} (h : t.drop? w = some w') :
    w'.log = w.log := by
  cases t with
  | wait v k =>
    cases h
    rfl
  | done | crash | look | note | step => cases h

theorem release_of_cutsOff {m : Crowd.Move Request} {s s' : Calls ρ} {id t : Nat}
    (h : c.pact.Holds s) (cut : c.CutsOff m s id t) (step : Crowd.Step c.getToken c.Around m s s') :
    Releases s s' id t := by
  have gone : ∀ s : ChainState, t ∉ (s.leave t).turns.waiting := fun s ht => (mem_leave.mp ht).2 rfl
  obtain ⟨x, hx, ⟨rfl, e, hp⟩ | ⟨rfl, hp⟩ | ⟨rfl, i, f, hp⟩⟩ := cut
  · cases step with
    | @go _ _ y w u hy next =>
      rw [hx] at hy
      cases hy
      rw [(h.caller hx).1, hp] at next
      cases next
      refine ⟨rfl, rfl, gone _, fun z hz => ?_, fun j hne => Crowd.callers_put_of_ne hne ..⟩
      rw [Crowd.callers_put_self] at hz
      cases hz
      exact .inr ⟨_, rfl⟩
  · cases step with
    | @drop _ _ y w hy dropped =>
      rw [hx] at hy
      cases hy
      have log := log_drop? dropped
      rw [(h.caller hx).1] at dropped
      have chain : w.state.chain = s.world.state.chain.leave t := by
        rw [drop?_task dropped, Position.release, hp]
      refine ⟨chain, log, by rw [Crowd.put_world, chain]; exact gone _, fun z hz => ?_,
        fun j hne => Crowd.callers_put_of_ne hne ..⟩
      rw [Crowd.callers_put_self] at hz
      cases hz
  · cases step with
    | @go _ _ y w u hy next =>
      rw [hx] at hy
      cases hy
      rw [(h.caller hx).1, hp] at next
      cases next
      refine ⟨rfl, rfl, gone _, fun z hz => ?_, fun j hne => Crowd.callers_put_of_ne hne ..⟩
      rw [Crowd.callers_put_self] at hz
      cases hz
      exact .inl rfl

end TokenChain.Chain
