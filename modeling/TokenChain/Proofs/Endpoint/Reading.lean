import Mathlib.Tactic.SplitIfs
import TokenChain.Endpoint.Grant

/-! # What a response says

A response is read at once, at the instant at which it has arrived. `reading?` tells what it says
then: a token, an error, or nothing, which breaks down who reads it (`run_readToken`).

Only a granted token can say nothing, and only if its lifetime has to be counted from now and leads
beyond the calendar (`Grant.LeavesCalendar`): an expiry that is given as an instant outside the
calendar does not count, but a lifetime does. A token that has been read knows at any instant
whether it has expired. Whether it is stale it does not know if five minutes before its expiry the
calendar has not begun (`Token.Told`). `ends_of_readToken` puts this together. -/

namespace TokenChain

open TokenChain.Endpoint

/-! ### The calendar -/

namespace Timestamp

theorem inCalendar_eq_true {s : Int} : inCalendar s = true ↔ firstSecond ≤ s ∧ s ≤ lastSecond := by
  simp [inCalendar]

theorem inCalendar_eq_false {s : Int} :
    inCalendar s = false ↔ s < firstSecond ∨ lastSecond < s := by
  have inside := inCalendar_eq_true (s := s)
  cases within : inCalendar s with
  | true =>
    rw [within] at inside
    simp only [true_iff] at inside
    simp only [Bool.true_eq_false, false_iff]
    omega
  | false =>
    rw [within] at inside
    simp only [Bool.false_eq_true, false_iff] at inside
    simp only [true_iff]
    omega

theorem ofSeconds?_eq_none {s : Int} : ofSeconds? s = none ↔ inCalendar s = false := by
  unfold ofSeconds?
  split_ifs with inside <;> simp [inside]

theorem shifted?_eq_none {t : Instant} {offset : Int} :
    shifted? t offset = none ↔ inCalendar ((t.nanos + offset) / 1000000000) = false := by
  unfold shifted?
  split_ifs with inside <;> simp [inside]

theorem ofSeconds?_eq_some {s : Int} {expiry : Timestamp} (h : ofSeconds? s = some expiry) :
    expiry = ofInstant ⟨s * 1000000000⟩ ∧ inCalendar s = true := by
  unfold ofSeconds? at h
  split_ifs at h with inside
  refine ⟨?_, inside⟩
  cases h
  simp [ofInstant]

theorem shifted?_eq_some {t : Instant} {offset : Int} {expiry : Timestamp}
    (h : shifted? t offset = some expiry) :
    expiry = ofInstant ⟨t.nanos + offset⟩ ∧
      inCalendar ((t.nanos + offset) / 1000000000) = true := by
  unfold shifted? at h
  split_ifs at h with inside
  cases h
  exact ⟨rfl, inside⟩

end Timestamp

/-! ### Tokens -/

/-- **What a token that expires at an instant tells at any other**: whether it has expired, and
whether it is stale, unless the calendar begins less than five minutes before the expiry. -/
structure Token.Told (token : Token) (expiry now : Instant) : Prop where
  expired : token.isExpired now = decide (expiry ≤ now)
  stale : Timestamp.firstSecond * 1000000000 + staleNanos ≤ expiry.nanos →
    token.needsRefresh? now = some (decide (expiry.nanos - staleNanos ≤ now.nanos))
  unknown : expiry.nanos < Timestamp.firstSecond * 1000000000 + staleNanos →
    token.needsRefresh? now = none

theorem Token.told_of_ofInstant {token : Token} {expiry : Instant}
    (expires : token.expiresAt = .ofInstant expiry)
    (inside : Timestamp.inCalendar (expiry.nanos / 1000000000) = true) (now : Instant) :
    token.Told expiry now := by
  have whole := Timestamp.inCalendar_eq_true.mp inside
  have back : (Timestamp.ofInstant expiry).toInstant = expiry :=
    Timestamp.toInstant_ofInstant expiry
  have shift : (expiry.nanos + -staleNanos) / 1000000000 = expiry.nanos / 1000000000 - 300 := by
    unfold staleNanos
    omega
  refine ⟨?_, fun late => ?_, fun early => ?_⟩
  · rw [isExpired, expires, Timestamp.reachedAt_ofInstant]
  · have kept : Timestamp.inCalendar ((expiry.nanos + -staleNanos) / 1000000000) = true := by
      rw [shift, Timestamp.inCalendar_eq_true]
      unfold staleNanos at late
      omega
    rw [needsRefresh?, expires, back, Timestamp.shifted?, if_pos kept, Option.map_some,
      Timestamp.reachedAt_ofInstant]
    simp only [Instant.le_iff, Int.sub_eq_add_neg]
  · have lost : Timestamp.inCalendar ((expiry.nanos + -staleNanos) / 1000000000) = false := by
      rw [shift, Timestamp.inCalendar_eq_false]
      unfold staleNanos at early
      omega
    rw [needsRefresh?, expires, back, Timestamp.shifted?_eq_none.mpr lost, Option.map_none]

namespace Endpoint

/-! ### Grants -/

/-- The grant that a body holds, if it holds one. -/
def grant? (bytes : List UInt8) : Option Grant :=
  (Json.Document.read? (Text.Utf8.encode (Text.Utf8.decodeLossy bytes))).bind Grant.ofDocument?

/-- **A grant leads beyond the calendar**: no instant of the calendar is given for the expiry, and
the lifetime, counted from now, ends outside it. -/
structure Grant.LeavesCalendar (g : Grant) (now : Instant) : Prop where
  noInstant : ∀ s, g.expiry = some s → s < Timestamp.firstSecond ∨ Timestamp.lastSecond < s
  tooLong : now.nanos / 1000000000 + g.lifetime.getD 3600 < Timestamp.firstSecond ∨
    Timestamp.lastSecond < now.nanos / 1000000000 + g.lifetime.getD 3600

theorem Grant.expiresAt?_eq_none {g : Grant} {now : Instant} :
    g.expiresAt? now = none ↔ g.LeavesCalendar now := by
  have seconds : (now.nanos + g.lifetime.getD 3600 * 1000000000) / 1000000000 =
      now.nanos / 1000000000 + g.lifetime.getD 3600 := by omega
  have instant : g.expiry.bind Timestamp.ofSeconds? = none ↔
      ∀ s, g.expiry = some s → s < Timestamp.firstSecond ∨ Timestamp.lastSecond < s := by
    cases g.expiry with
    | none => simp
    | some s => simp [Timestamp.ofSeconds?_eq_none, Timestamp.inCalendar_eq_false]
  unfold expiresAt?
  rw [Option.or_eq_none_iff, instant, Timestamp.shifted?_eq_none, seconds,
    Timestamp.inCalendar_eq_false]
  exact ⟨fun ⟨noInstant, tooLong⟩ => ⟨noInstant, tooLong⟩,
    fun leaves => ⟨leaves.noInstant, leaves.tooLong⟩⟩

theorem Grant.exists_of_expiresAt? {g : Grant} {now : Instant} {expiry : Timestamp}
    (h : g.expiresAt? now = some expiry) :
    ∃ t, expiry = .ofInstant t ∧ Timestamp.inCalendar (t.nanos / 1000000000) = true := by
  unfold expiresAt? at h
  rcases Option.or_eq_some_iff.mp h with given | ⟨-, counted⟩
  · obtain ⟨s, -, whole⟩ := Option.bind_eq_some_iff.mp given
    obtain ⟨same, inside⟩ := Timestamp.ofSeconds?_eq_some whole
    refine ⟨⟨s * 1000000000⟩, same, ?_⟩
    have second : s * 1000000000 / 1000000000 = s := by omega
    rwa [second]
  · exact ⟨_, Timestamp.shifted?_eq_some counted⟩

/-! ### Responses -/

section
variable {σ : Type} (credential : String) (family : Family) (scopes : List String) (status : Nat)
  (body : Except String (List UInt8))

/-- **What a response says** to who reads it at an instant. -/
def reading? (now : Instant) : Option (Except Error Token) :=
  match body with
  | .error e => some (.error (.network credential ("Failed to read response: " ++ e)))
  | .ok bytes =>
    if isSuccess status then
      match grant? bytes with
      | none => some (.error .json)
      | some grant =>
        (grant.expiresAt? now).map fun expiry => .ok ⟨grant.accessToken, expiry, scopes⟩
    else some (.error (classify credential family status (Text.Utf8.decodeLossy bytes)))

variable (σ) in
/-- Who reads a response goes on with what it says, or breaks down. -/
theorem readToken_cases :
    (∃ x, (readToken credential family scopes status body : Task σ (Except Error Token)) = .done x ∧
      ∀ now, reading? credential family scopes status body now = some x) ∨
    (readToken credential family scopes status body : Task σ (Except Error Token)) =
      .look fun m => (reading? credential family scopes status body m.now).elim .crash .done := by
  cases body with
  | error e => exact .inl ⟨_, rfl, fun _ => rfl⟩
  | ok bytes =>
    have same : (Json.Document.read? (Text.Utf8.encode (Text.Utf8.decodeLossy bytes))).bind
        Grant.ofDocument? = grant? bytes := rfl
    unfold readToken reading?
    simp only [same]
    by_cases success : isSuccess status = true
    · simp only [success, if_true]
      cases grant? bytes with
      | none => exact .inl ⟨_, rfl, fun _ => rfl⟩
      | some grant =>
        refine .inr (congrArg Task.look (funext fun m => ?_))
        dsimp only
        cases grant.expiresAt? m.now <;> rfl
    · simp only [success]
      exact .inl ⟨_, rfl, fun _ => rfl⟩

/-- **Reading a response** takes no time and leaves the world as it is. -/
theorem run_readToken (w : World σ) : (readToken credential family scopes status body).run w =
    (w, (reading? credential family scopes status body w.now).elim .crashed .done) := by
  rcases readToken_cases σ credential family scopes status body with ⟨x, reads, same⟩ | reads
  · rw [reads, same]
    rfl
  · rw [reads, Task.run]
    cases reading? credential family scopes status body w.now <;> rfl

/-- A response says nothing if it grants a token whose expiry lies beyond the calendar. -/
theorem reading?_eq_none (now : Instant) :
    reading? credential family scopes status body now = none ↔
    ∃ bytes grant, body = .ok bytes ∧ isSuccess status = true ∧ grant? bytes = some grant ∧
    grant.LeavesCalendar now := by
  unfold reading?
  cases body with
  | error e => simp
  | ok bytes =>
    by_cases success : isSuccess status = true
    · cases granted : grant? bytes with
      | none => simp [success, granted]
      | some grant => simp [success, granted, Grant.expiresAt?_eq_none]
    · simp [success]

/-- A token that a response grants expires at an instant of the calendar. -/
theorem told_of_reading? {now : Instant} {token : Token}
    (reads : reading? credential family scopes status body now = some (.ok token)) :
    ∃ expiry, token.expiresAt = .ofInstant expiry ∧ ∀ later, token.Told expiry later := by
  unfold reading? at reads
  cases body with
  | error e => simp at reads
  | ok bytes =>
    by_cases success : isSuccess status = true
    · cases granted : grant? bytes with
      | none => simp [success, granted] at reads
      | some grant =>
        simp only [success, granted, if_true, Option.map_eq_some_iff, Except.ok.injEq] at reads
        obtain ⟨expiry, expires, rfl⟩ := reads
        obtain ⟨t, rfl, inside⟩ := grant.exists_of_expiresAt? expires
        exact ⟨t, rfl, Token.told_of_ofInstant rfl inside⟩
    · simp [success] at reads

/-- **Reading a response** comes to a token or an error, or breaks down, and the latter only if a
token is granted that expires beyond the calendar. A token that has been read can always be asked
whether it has expired, and whether it is stale if its last five minutes lie within the calendar. -/
theorem ends_of_readToken (w : World σ) :
    ((readToken credential family scopes status body).run w = (w, .crashed) ∨
      ∃ x, (readToken credential family scopes status body).run w = (w, .done x)) ∧
    ((readToken credential family scopes status body).run w = (w, .crashed) ↔
      ∃ bytes grant, body = .ok bytes ∧ isSuccess status = true ∧ grant? bytes = some grant ∧
      grant.LeavesCalendar w.now) ∧
    ∀ token, (readToken credential family scopes status body).run w = (w, .done (.ok token)) →
      ∃ expiry, token.expiresAt = .ofInstant expiry ∧ ∀ now, token.Told expiry now := by
  rw [run_readToken, ← reading?_eq_none credential family scopes status body w.now]
  cases reads : reading? credential family scopes status body w.now with
  | none => simp
  | some x =>
    refine ⟨.inr ⟨x, rfl⟩, by simp, fun token done => ?_⟩
    cases done
    exact told_of_reading? credential family scopes status body reads

end

/-- A grant with the longest lifetime of 64 bits. -/
def endlessGrant : List UInt8 :=
  Text.Utf8.encode "\x7b\"access_token\":\"t\",\"expires_in\":9223372036854775807\x7d"

/-- A grant that expires in the first second of the calendar. -/
def ancientGrant : List UInt8 :=
  Text.Utf8.encode "\x7b\"access_token\":\"t\",\"expires_on\":-8334601228800\x7d"

theorem grant?_endlessGrant : grant? endlessGrant = some ⟨"t", some 9223372036854775807, none⟩ := by
  decide +kernel

theorem grant?_ancientGrant : grant? ancientGrant = some ⟨"t", none, some (-8334601228800)⟩ := by
  decide +kernel

/-- A lifetime that no calendar holds breaks down who reads it, and a token that expires as the
calendar begins does not know whether it is stale. -/
theorem ends_of_readToken_edges :
    (readToken "mi" .managedIdentity [] 200 (.ok endlessGrant)).run
      (.initial ⟨0⟩ (.ofCapacity 8) ()) =
        (.initial ⟨0⟩ (.ofCapacity 8) (), .crashed) ∧
      ∃ token, (readToken "mi" .managedIdentity [] 200 (.ok ancientGrant)).run
        (.initial ⟨0⟩ (.ofCapacity 8) ()) =
          (.initial ⟨0⟩ (.ofCapacity 8) (), .done (.ok token)) ∧
          token.needsRefresh? ⟨0⟩ = none := by
  constructor
  · refine (ends_of_readToken "mi" .managedIdentity [] 200 (.ok endlessGrant) _).2.1.mpr ?_
    refine ⟨_, _, rfl, rfl, grant?_endlessGrant, nofun, .inr ?_⟩
    decide
  · have reads :
        (readToken "mi" .managedIdentity [] 200 (.ok ancientGrant)).run
          (.initial ⟨0⟩ (.ofCapacity 8) ()) =
        (.initial ⟨0⟩ (.ofCapacity 8) (), .done (.ok ⟨"t", ⟨-8334601228800, 0⟩, []⟩)) := by
      rw [run_readToken, reading?, grant?_ancientGrant]
      rfl
    obtain ⟨expiry, expires, told⟩ :=
      (ends_of_readToken "mi" .managedIdentity [] 200 (.ok ancientGrant) _).2.2 _ reads
    have back := Timestamp.toInstant_ofInstant expiry
    rw [← expires] at back
    refine ⟨_, reads, (told ⟨0⟩).unknown ?_⟩
    rw [← back]
    decide

end Endpoint

end TokenChain
