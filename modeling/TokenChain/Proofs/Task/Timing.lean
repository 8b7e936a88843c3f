import TokenChain.Proofs.Schedule.Punctuality
import TokenChain.Proofs.Task.Stepwise

/-! # Tasks and the clock

A step takes no time. The clock moves only while a task waits, and not beyond the whole millisecond
at which the alarm of the wait rings. `Task.Lives t b h u e` says that a task which began at the
instant `b` leads in this way through the steps `h` to what is left of it at the instant `e`.

What tasks built from others live through is what these live through, one after another
(`Lives.of_bind`, `Lives.of_onLoss`, `Lives.of_zoom`). A task that heeds an instant (`Task.Heeds`)
does not live to see a later one (`Lives.le_of_heeds`). -/

namespace TokenChain

/-- Some steps of a task, as they are seen on a part of the state. -/
def History.focus {σ τ : Type} (part : τ → σ) (h : History τ) : History σ :=
  h.map fun p => (p.1.focus part, p.2.focus part)

namespace Task

variable {σ τ α β : Type}

/-- **A task lives** from one instant to another, through some steps, to what is left of it. -/
inductive Lives : Task σ α → Instant → History σ → Task σ α → Instant → Prop
  | begin (t : Task σ α) (b : Instant) : Lives t b [] t b
  | go {t u v : Task σ α} {b : Instant} {h : History σ} {w w' : World σ}
      (lives : Lives t b h u w.now) (next : u.next? w = some (w', v)) : Lives t b
        (h ++ [(w, w')]) v w.now
  | stay {t : Task σ α} {b e e' : Instant} {h : History σ} {q : Wait σ} {k : Wake → Task σ α}
      (lives : Lives t b h (wait q k) e) (later : e ≤ e')
      (rings : ∀ d, q.due = some d ∨ q.deadline = some d → e' = e ∨ e' ≤ d.ceilMilli) :
      Lives t b h (wait q k) e'

namespace Lives

variable {b e : Instant} {h : History σ} {t u : Task σ α}

theorem leads (lives : t.Lives b h u e) : t.Leads h u := by
  induction lives with
  | begin => exact .refl _
  | go _ next ih => exact ih.snoc next
  | stay _ _ _ ih => exact ih

/-! ### The first step -/

/-- What a task lives through begins with its first step, if it takes any; and a task that does not
wait takes it at once. -/
theorem cases_next (lives : t.Lives b h u e) : (h = [] ∧ u = t ∧ ((∀ q k, t ≠ wait q k) → e = b)) ∨
    ∃ w w' t' h', h = (w, w') :: h' ∧ ((∀ q k, t ≠ wait q k) → w.now = b) ∧
    t.next? w = some (w', t') ∧
      t'.Lives w.now h' u e := by
  induction lives with
  | begin => exact .inl ⟨rfl, rfl, fun _ => rfl⟩
  | @go u v b h w w' _ next ih =>
    rcases ih with ⟨rfl, rfl, now⟩ | ⟨w₀, w₁, t', h', rfl, now, first, rest⟩
    · exact .inr ⟨w, w', v, [], rfl, now, next, .begin ..⟩
    · exact .inr ⟨w₀, w₁, t', _, rfl, now, first, .go rest next⟩
  | @stay b e e' h q k _ later rings ih =>
    rcases ih with ⟨rfl, rfl, -⟩ | ⟨w₀, w₁, t', h', rfl, now, first, rest⟩
    · exact .inl ⟨rfl, rfl, fun active => absurd rfl (active q k)⟩
    · exact .inr ⟨w₀, w₁, t', h', rfl, now, first, .stay rest later rings⟩

theorem of_look {k : Moment → Task σ α} (lives : (look k).Lives b h u e) :
    (h = [] ∧ u = look k ∧ e = b) ∨
    ∃ w h', h = (w, w) :: h' ∧ w.now = b ∧ (k w.toMoment).Lives b h' u e := by
  rcases lives.cases_next with ⟨none, same, now⟩ | ⟨w, w', t', h', rfl, now, next, rest⟩
  · exact .inl ⟨none, same, now nofun⟩
  · cases next
    exact .inr ⟨w, h', rfl, now nofun, now nofun ▸ rest⟩

theorem of_step {f : σ → σ} {k : σ → Task σ α} (lives : (step f k).Lives b h u e) :
    (h = [] ∧ u = step f k ∧ e = b) ∨
    ∃ w h', h = (w, { w with state := f w.state }) :: h' ∧ w.now = b ∧
    (k w.state).Lives b h' u e := by
  rcases lives.cases_next with ⟨none, same, now⟩ | ⟨w, w', t', h', rfl, now, next, rest⟩
  · exact .inl ⟨none, same, now nofun⟩
  · cases next
    exact .inr ⟨w, h', rfl, now nofun, now nofun ▸ rest⟩

theorem of_wait {q : Wait σ} {k : Wake → Task σ α} (lives : (wait q k).Lives b h u e) :
    (h = [] ∧ u = wait q k) ∨
    ∃ w x h', h = (w, w) :: h' ∧ (k x).Lives w.now h' u e := by
  rcases lives.cases_next with ⟨none, same, -⟩ | ⟨w, w', t', h', rfl, -, next, rest⟩
  · exact .inl ⟨none, same⟩
  · obtain ⟨x, -, he⟩ := Option.map_eq_some_iff.mp next
    cases he
    exact .inr ⟨w, x, h', rfl, rest⟩

theorem of_done {a : α} (lives : (done a).Lives b h u e) : h = [] ∧ u = done a ∧ e = b := by
  rcases lives.cases_next with ⟨none, same, now⟩ | ⟨w, w', t', h', -, -, next, -⟩
  · exact ⟨none, same, now nofun⟩
  · cases next

theorem of_crash (lives : (crash : Task σ α).Lives b h u e) : h = [] ∧ u = crash ∧ e = b := by
  rcases lives.cases_next with ⟨none, same, now⟩ | ⟨w, w', t', h', -, -, next, -⟩
  · exact ⟨none, same, now nofun⟩
  · cases next

/-! ### Tasks built from others -/

/-- **What a sequence lives through**: its first task is still alive, or is over and what follows
has begun. -/
theorem of_bind {t : Task σ β} {g : β → Task σ α} (lives : (t.bind g).Lives b h u e) :
    (∃ v, t.Lives b h v e ∧ u = v.bind g) ∨
      ∃ a h₁ h₂ c, h = h₁ ++ h₂ ∧ t.Lives b h₁ (done a) c ∧ (g a).Lives c h₂ u e := by
  induction lives with
  | begin => exact .inl ⟨t, .begin .., rfl⟩
  | @go u v b h w w' _ next ih =>
    rcases ih with ⟨u, first, rfl⟩ | ⟨a, h₁, h₂, c, rfl, first, second⟩
    · rcases next?_bind next with ⟨a, rfl, hg⟩ | ⟨v, hv, rfl⟩
      · exact .inr ⟨a, h, [(w, w')], w.now, rfl, first, .go (.begin ..) hg⟩
      · exact .inl ⟨v, .go first hv, rfl⟩
    · exact .inr ⟨a, h₁, h₂ ++ [(w, w')], c, List.append_assoc .., first, .go second next⟩
  | @stay b e e' h q k _ later rings ih =>
    rcases ih with ⟨u, first, hu⟩ | ⟨a, h₁, h₂, c, rfl, first, second⟩
    · cases u with
      | done a =>
        exact .inr
          ⟨a, h, [], e, (List.append_nil h).symm, first, .stay (hu ▸ .begin ..) later rings⟩
      | wait q' k' =>
        cases hu
        exact .inl ⟨_, .stay first later rings, rfl⟩
      | crash | look | note | step => cases hu
    · exact .inr ⟨a, h₁, h₂, c, rfl, first, .stay second later rings⟩

theorem of_onLoss {release : σ → σ} (lives : (t.onLoss release).Lives b h u e) :
    (∃ v, t.Lives b h v e ∧ u = v.onLoss release) ∨
      ∃ h' w, h = h' ++ [(w, { w with state := release w.state })] ∧
      t.Lives b h' crash e ∧ u = crash := by
  induction lives with
  | begin => exact .inl ⟨t, .begin .., rfl⟩
  | @go u v b h w w' _ next ih =>
    rcases ih with ⟨u, first, rfl⟩ | ⟨h', w₀, rfl, first, rfl⟩
    · rcases next?_onLoss next with ⟨rfl, rfl, rfl⟩ | ⟨v, hv, rfl⟩
      · exact .inr ⟨h, w, rfl, first, rfl⟩
      · exact .inl ⟨v, .go first hv, rfl⟩
    · cases next
  | @stay b e e' h q k _ later rings ih =>
    rcases ih with ⟨u, first, hu⟩ | ⟨h', w₀, rfl, first, hu⟩
    · cases u with
      | wait q' k' =>
        cases hu
        exact .inl ⟨_, .stay first later rings, rfl⟩
      | done | crash | look | note | step => cases hu
    · cases hu

theorem of_zoom {part : τ → σ} {put : σ → τ → τ} (same : ∀ s, put (part s) s = s)
    (seen : ∀ s t, part (put s t) = s) {t : Task σ α} {h : History τ} {u : Task τ α}
    (lives : (t.zoom part put).Lives b h u e) :
    ∃ v, t.Lives b (h.focus part) v e ∧ u = v.zoom part put := by
  induction lives with
  | begin => exact ⟨t, .begin .., rfl⟩
  | @go u v b h w w' _ next ih =>
    obtain ⟨u, first, rfl⟩ := ih
    obtain ⟨w₁, v, hv, rfl, rfl⟩ := next?_zoom same next
    refine ⟨v, ?_, rfl⟩
    have after : (w₁.widen (put w₁.state w.state)).focus part = w₁ := by
      simp [World.focus, World.widen, seen]
    rw [History.focus, List.map_append, List.map_singleton, after]
    exact .go first hv
  | @stay b e e' h q k _ later rings ih =>
    obtain ⟨u, first, hu⟩ := ih
    cases u with
    | wait q' k' =>
      cases hu
      exact ⟨_, .stay first later rings, rfl⟩
    | done | crash | look | note | step => cases hu

/-! ### Instants that are heeded -/

/-- **A task that heeds an instant** lives no longer. -/
theorem le_of_heeds {late : Instant} (whole : late.IsWhole)
    (heeds : t.Heeds (fun _ => none) late) (begins : b ≤ late) (lives : t.Lives b h u e) :
    e ≤ late ∧ u.Heeds (fun _ => none) late := by
  induction lives with
  | begin => exact ⟨begins, heeds⟩
  | @go u v b h w w' _ next ih =>
    obtain ⟨now, heeds⟩ := ih begins
    refine ⟨now, ?_⟩
    cases u with
    | done | crash => cases next
    | look k =>
      cases next
      exact heeds _ now
    | note n k =>
      cases next
      exact heeds
    | step f k =>
      cases next
      exact heeds _
    | wait q k =>
      obtain ⟨x, -, he⟩ := Option.map_eq_some_iff.mp next
      cases he
      exact heeds.2 x
  | @stay b e e' h q k _ later rings ih =>
    obtain ⟨now, heeds⟩ := ih begins
    refine ⟨?_, heeds⟩
    obtain ⟨⟨d, hd, alarm⟩, -⟩ := heeds
    have set : q.due = some d ∨ q.deadline = some d := by
      rcases alarm with due | deadline | cancelled
      · exact .inl due
      · exact .inr deadline
      · obtain ⟨key, -, none⟩ := Option.bind_eq_some_iff.mp cancelled
        cases none
    rcases rings d set with rfl | le
    · exact now
    · rw [← whole]
      exact Int.le_trans le (Instant.ceilMilli_mono hd)

end Lives

end Task

end TokenChain
