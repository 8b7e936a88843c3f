import TokenChain.Proofs.Log.Retention
import TokenChain.Proofs.Task.Stepwise

/-! # What tasks write

A task that is led through some steps has written the entries of `Task.Writes` on the way, each at
the time of its step. If nobody else writes meanwhile (`History.Alone`), these are the entries that
have come to the log, in this order (`Writes.log`); and a log with room for them still holds all the
others (`Log.entries_foldl_append`).

Two ways to find out what has been written: a task that was built from others has written what they
have (`Writes.of_bind`, `Writes.of_onLoss`, `Writes.of_zoom`), and `Task.Yields` says of a task that
whatever happens, what it has written when it ends and what it ends with go together
(`Writes.of_yields`). -/

namespace TokenChain

/-- Nobody else writes to the log while some steps are taken: each of them finds it as the one
before has left it. -/
def History.Alone {σ : Type} (before : Log) : History σ → Log → Prop
  | [], after => after = before
  | (w, w') :: h, after => w.log = before ∧ History.Alone w'.log h after

namespace Task

variable {σ τ α β : Type}

/-! ### Entries on the way -/

/-- What a task is about to write. -/
def entries (now : Instant) : Task σ α → List Entry
  | note n _ => [⟨n, now⟩]
  | _ => []

theorem log_of_next? {t u : Task σ α} {w w' : World σ} (next : t.next? w = some (w', u)) :
    w'.log = (t.entries w.now).foldl Log.append w.log := by
  cases t with
  | done | crash => cases next
  | look | note | step =>
    cases next
    rfl
  | wait v k =>
    obtain ⟨x, -, he⟩ := Option.map_eq_some_iff.mp next
    cases he
    rfl

/-- A task leads through some steps to what is left of it, and has written some entries on the
way. -/
inductive Writes : Task σ α → History σ → List Entry → Task σ α → Prop
  | refl (t : Task σ α) : Writes t [] [] t
  | step {t u v : Task σ α} {w w' : World σ} {h : History σ} {es : List Entry}
      (next : t.next? w = some (w', u)) (rest : Writes u h es v) : Writes t ((w, w') :: h)
        (t.entries w.now ++ es) v

theorem exists_writes {t u : Task σ α} {h : History σ} (leads : t.Leads h u) :
    ∃ es, t.Writes h es u := by
  induction leads with
  | refl t => exact ⟨[], .refl t⟩
  | step next _ ih =>
    obtain ⟨es, rest⟩ := ih
    exact ⟨_, .step next rest⟩

theorem Writes.leads {t u : Task σ α} {h : History σ} {es : List Entry} (writes : t.Writes h es u) :
    t.Leads h u := by
  induction writes with
  | refl t => exact .refl t
  | step next _ ih => exact .step next ih

/-- **What comes to the log** if nobody else writes to it. -/
theorem Writes.log {t u : Task σ α} {h : History σ} {es : List Entry} (writes : t.Writes h es u)
    {before after : Log} (alone : h.Alone before after) : after = es.foldl Log.append before := by
  induction writes generalizing before with
  | refl => exact alone
  | step next _ ih =>
    obtain ⟨rfl, alone⟩ := alone
    rw [List.foldl_append, ← log_of_next? next]
    exact ih alone

/-! ### Tasks built from others -/

theorem entries_bind {t u : Task σ β} {g : β → Task σ α} {w w' : World σ}
    (next : t.next? w = some (w', u)) : (t.bind g).entries w.now = t.entries w.now := by
  cases t with
  | done => cases next
  | crash | look | note | step | wait => rfl

theorem entries_onLoss (t : Task σ α) (release : σ → σ) (now : Instant) :
    (t.onLoss release).entries now = t.entries now := by
  cases t <;> rfl

theorem entries_zoom (t : Task σ α) (part : τ → σ) (put : σ → τ → τ) (now : Instant) :
    (t.zoom part put).entries now = t.entries now := by
  cases t <;> rfl

theorem Writes.of_done {a b : α} {h : History σ} {es : List Entry}
    (writes : (done a : Task σ α).Writes h es (done b)) : h = [] ∧ es = [] ∧ a = b := by
  cases writes with
  | refl => exact ⟨rfl, rfl, rfl⟩
  | step next => cases next

theorem not_writes_crash {a : α} {h : History σ} {es : List Entry} :
    ¬ (crash : Task σ α).Writes h es (done a) := by
  intro writes
  cases writes with
  | step next => cases next

theorem Writes.of_step {f : σ → σ} {k : σ → Task σ α} {a : α} {h : History σ} {es : List Entry}
    (writes : (Task.step f k).Writes h es (done a)) :
    ∃ w w' h', h = (w, w') :: h' ∧ (k w.state).Writes h' es (done a) := by
  cases writes with
  | step next rest =>
    cases next
    exact ⟨_, _, _, rfl, rest⟩

theorem Writes.of_note {n : Note} {k : Task σ α} {a : α} {h : History σ} {es : List Entry}
    (writes : (Task.note n k).Writes h es (done a)) :
    ∃ w w' h' es', h = (w, w') :: h' ∧ es = ⟨n, w.now⟩ :: es' ∧ k.Writes h' es' (done a) := by
  cases writes with
  | step next rest =>
    cases next
    exact ⟨_, _, _, _, rfl, rfl, rest⟩

/-- **A sequence** has written what its first task has, and then what follows has. -/
theorem Writes.of_bind {t : Task σ β} {g : β → Task σ α} {a : α} {h : History σ} {es : List Entry}
    (writes : (t.bind g).Writes h es (done a)) :
    ∃ b h₁ h₂ es₁ es₂, h = h₁ ++ h₂ ∧ es = es₁ ++ es₂ ∧ t.Writes h₁ es₁ (done b) ∧
      (g b).Writes h₂ es₂ (done a) := by
  generalize hs : t.bind g = s, hv : done a = v at writes
  induction writes generalizing t with
  | refl =>
    subst hv
    cases t with
    | done b => exact ⟨b, [], [], [], [], rfl, rfl, .refl _, hs ▸ .refl _⟩
    | crash | look | note | step | wait => cases hs
  | @step _ u _ w w' h es next rest ih =>
    subst hs hv
    rcases next?_bind next with ⟨b, rfl, hg⟩ | ⟨v, hv, rfl⟩
    · exact ⟨b, [], _, [], _, rfl, rfl, .refl _, .step hg rest⟩
    · obtain ⟨b, h₁, h₂, es₁, es₂, rfl, rfl, first, second⟩ := ih rfl rfl
      refine ⟨b, (w, w') :: h₁, h₂, t.entries w.now ++ es₁, es₂, rfl, ?_, .step hv first, second⟩
      rw [entries_bind hv, List.append_assoc]

theorem Writes.of_onLoss {t : Task σ α} {release : σ → σ} {a : α} {h : History σ} {es : List Entry}
    (writes : (t.onLoss release).Writes h es (done a)) : t.Writes h es (done a) := by
  generalize hs : t.onLoss release = s, hv : done a = v at writes
  induction writes generalizing t with
  | refl =>
    subst hv
    cases t with
    | done b =>
      cases hs
      exact .refl _
    | crash | look | note | step | wait => cases hs
  | @step _ u _ w w' h es next rest ih =>
    subst hs hv
    rw [entries_onLoss]
    rcases next?_onLoss next with ⟨rfl, rfl, rfl⟩ | ⟨v, hv, rfl⟩
    · exact absurd rest not_writes_crash
    · exact .step hv (ih rfl rfl)

theorem Writes.of_zoom {part : τ → σ} {put : σ → τ → τ} (same : ∀ s, put (part s) s = s)
    {t : Task σ α} {a : α} {h : History τ} {es : List Entry}
    (writes : (t.zoom part put).Writes h es (done a)) : ∃ h', t.Writes h' es (done a) := by
  generalize hs : t.zoom part put = s, hv : done a = v at writes
  induction writes generalizing t with
  | refl =>
    subst hv
    cases t with
    | done b =>
      cases hs
      exact ⟨[], .refl _⟩
    | crash | look | note | step | wait => cases hs
  | @step _ u _ w w' h es next rest ih =>
    subst hs hv
    obtain ⟨v, t', hv, rfl, -⟩ := next?_zoom same next
    obtain ⟨h', rest'⟩ := ih rfl rfl
    rw [entries_zoom]
    exact ⟨_, .step hv rest'⟩

/-! ### Whatever happens -/

/-- What a task has written when it ends, and what it ends with, go together as the given relation
says. -/
def Yields (P : List Note → α → Prop) : Task σ α → Prop
  | done a => P [] a
  | crash => True
  | look k => ∀ m, Yields P (k m)
  | note n k => Yields (fun ns => P (n :: ns)) k
  | step _ k => ∀ s, Yields P (k s)
  | wait _ k => ∀ x, Yields P (k x)

/-- **What a task has written** is what it yields. -/
theorem Writes.of_yields {t : Task σ α} {a : α} {h : History σ} {es : List Entry}
    (writes : t.Writes h es (done a)) {P : List Note → α → Prop} (yields : t.Yields P) :
    P (es.map Entry.toNote) a := by
  generalize hv : done a = v at writes
  induction writes generalizing P with
  | refl =>
    subst hv
    exact yields
  | @step t u _ w w' h es next rest ih =>
    cases t with
    | done | crash => cases next
    | look | step =>
      cases next
      exact ih (yields _) hv
    | note n k =>
      cases next
      exact ih yields hv
    | wait q k =>
      obtain ⟨x, -, he⟩ := Option.map_eq_some_iff.mp next
      cases he
      exact ih (yields x) hv

theorem Yields.mono {P Q : List Note → α → Prop} (le : ∀ {ns a}, P ns a → Q ns a)
    {t : Task σ α} (h : t.Yields P) : t.Yields Q := by
  induction t generalizing P Q with
  | done a => exact le h
  | crash => trivial
  | look k ih => exact fun m => ih m le (h m)
  | note n k ih => exact ih le h
  | step f k ih => exact fun s => ih s le (h s)
  | wait v k ih => exact fun x => ih x le (h x)

/-- What a sequence yields, given what the rest of it yields behind the entries of its first
task. -/
theorem Yields.bind {P : List Note → β → Prop} {t : Task σ α} {g : α → Task σ β}
    (h : t.Yields fun ns a => (g a).Yields fun ns' => P (ns ++ ns')) : (t.bind g).Yields P := by
  induction t generalizing P with
  | done a => exact h
  | crash => trivial
  | look k ih => exact fun m => ih m (h m)
  | note n k ih => exact ih h
  | step f k ih => exact fun s => ih s (h s)
  | wait v k ih => exact fun x => ih x (h x)

/-! ### Tasks that write nothing -/

/-- A task writes nothing, not even on ways that do not come to an end. -/
def Silent : Task σ α → Prop
  | done _ | crash => True
  | look k => ∀ m, Silent (k m)
  | note _ _ => False
  | step _ k => ∀ s, Silent (k s)
  | wait _ k => ∀ x, Silent (k x)

theorem Silent.yields {P : List Note → β → Prop} {t : Task σ α} {g : α → Task σ β} (h : t.Silent)
    (hg : ∀ a, (g a).Yields P) : (t.bind g).Yields P := by
  induction t with
  | done a => exact hg a
  | crash => trivial
  | look k ih => exact fun m => ih m (h m)
  | note n k => exact h.elim
  | step f k ih => exact fun s => ih s (h s)
  | wait v k ih => exact fun x => ih x (h x)

/-- A task that writes nothing yields what goes together with nothing. -/
theorem Silent.yields_of {P : List Note → α → Prop} {t : Task σ α} (h : t.Silent)
    (nothing : ∀ a, P [] a) : t.Yields P := by
  rw [← bind_done t]
  exact h.yields nothing

theorem Writes.of_silent {t : Task σ α} {a : α} {h : History σ} {es : List Entry}
    (writes : t.Writes h es (done a)) (silent : t.Silent) : es = [] := by
  have nothing : t.Yields fun ns _ => ns = [] := silent.yields_of fun _ => rfl
  exact List.map_eq_nil_iff.mp (writes.of_yields nothing)

theorem Silent.bind {t : Task σ α} {g : α → Task σ β} (h : t.Silent) (hg : ∀ a, (g a).Silent) :
    (t.bind g).Silent := by
  induction t with
  | done a => exact hg a
  | crash => trivial
  | look k ih => exact fun m => ih m (h m)
  | note n k => exact h.elim
  | step f k ih => exact fun s => ih s (h s)
  | wait v k ih => exact fun x => ih x (h x)

theorem Silent.onLoss {t : Task σ α} (release : σ → σ) (h : t.Silent) :
    (t.onLoss release).Silent := by
  induction t with
  | done a => trivial
  | crash => exact fun _ => trivial
  | look k ih => exact fun m => ih m (h m)
  | note n k => exact h.elim
  | step f k ih => exact fun s => ih s (h s)
  | wait v k ih => exact fun x => ih x (h x)

theorem Silent.zoom {part : τ → σ} {put : σ → τ → τ} {t : Task σ α} (h : t.Silent) :
    (t.zoom part put).Silent := by
  induction t with
  | done a => trivial
  | crash => trivial
  | look k ih => exact fun m => ih m (h m)
  | note n k => exact h.elim
  | step f k ih => exact fun s => ih _ (h _)
  | wait v k ih => exact fun x => ih x (h x)

theorem Silent.giveUp {t : Task σ α} (h : t.Silent) (key : CancelKey)
    (deadline : Option Instant) (a b : α) : (t.giveUp key deadline a b).Silent := by
  induction t with
  | done a => trivial
  | crash => trivial
  | look k ih => exact fun m => ih m (h m)
  | note n k => exact h.elim
  | step f k ih => exact fun s => ih s (h s)
  | wait v k ih =>
    intro x
    cases x with
    | ready => exact ih .ready (h .ready)
    | cancelled | expired => exact fun _ => trivial

end Task

end TokenChain
