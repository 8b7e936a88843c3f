import TokenChain.Proofs.Endpoint.Reading
import TokenChain.Proofs.Json.Record

/-! # Spellings of the expiry

Endpoints write seconds as JSON numbers or as texts (`Endpoint.Spells`). What a response says
depends on the numbers and not on how they are written: two bodies whose documents differ in the
spelling of a lifetime or an expiry are read alike, an expiry within the calendar makes any readable
lifetime void, and an expiry that names no instant of the calendar is as good as none
(`Endpoint.readToken_of_spelling`).

A lifetime is readable (`Endpoint.Readable`) if it is a text or an integer of 64 bits in its decimal
text. Minus zero is not: it is no integer to the reader, and refuses the whole body. Half a
character is no text, and a refusal is quoted as it is spelled (`Endpoint.readToken_misspelled`). -/

namespace TokenChain.Endpoint

open TokenChain.Json TokenChain.Text

/-- The integers of 64 bits. -/
def IsInt64 (n : Int) : Prop := -2 ^ 63 ≤ n ∧ n < 2 ^ 63

instance (n : Int) : Decidable (IsInt64 n) := inferInstanceAs (Decidable (_ ∧ _))

theorem isInt64_of_inCalendar {n : Int} (inside : Timestamp.inCalendar n = true) : IsInt64 n := by
  rw [Timestamp.inCalendar_eq_true, Timestamp.firstSecond, Timestamp.lastSecond] at inside
  exact ⟨by omega, by omega⟩

/-! ### Seconds -/

/-- **How seconds are written**: as a number, or as a text with a numeral in it and white space
around it. -/
inductive Spells (n : Int) : Document → Prop where
  | number : Spells n (.number (toString n).toList)
  | text {s : String} {cs : List Char} (numeral : SignedNumeral n cs)
      (padded : Padded cs s.toList) : Spells n (.string (some s))

/-- **A lifetime that can be read**, whatever it says. -/
inductive Readable : Option Document → Prop where
  | absent : Readable none
  | null : Readable (some .null)
  | integer {n : Int} (fits : IsInt64 n) : Readable (some (.number (toString n).toList))
  | text (s : String) : Readable (some (.string (some s)))

/-- **An expiry that names no instant**: null, a text that is no integer of 64 bits, or an integer
outside the calendar. -/
inductive Nameless : Document → Prop where
  | null : Nameless .null
  | text {s : String} (foreign : ∀ n, IsInt64 n → ¬ Spells n (.string (some s))) :
      Nameless (.string (some s))
  | outside {n : Int} {v : Document} (fits : IsInt64 n) (spells : Spells n v)
      (beyond : Timestamp.inCalendar n = false) : Nameless v

/-- What a field says about seconds; the outer option is for what cannot be read. -/
def meaning (x : Option Document) : Option (Option Int) := (optional seconds? x).map Option.join

theorem meaning_text (s : String) :
    meaning (some (.string (some s))) = some (Integer.signed? (trim s)) := by
  simp only [meaning, Json.optional, seconds?, Option.map_some, Option.join_some]

theorem signed?_trim_eq_some_iff {s : String} {n : Int} :
    Integer.signed? (trim s) = some n ↔ IsInt64 n ∧ Spells n (.string (some s)) := by
  rw [trim, Integer.signed?_eq_some_iff]
  constructor
  · rintro ⟨numeral, fits⟩
    exact ⟨fits, .text numeral (padded_trimChars _)⟩
  · rintro ⟨fits, spells⟩
    cases spells with
    | text numeral padded =>
      rw [padded.trimChars_eq numeral.bare]
      exact ⟨numeral, fits⟩

/-- **Seconds mean the same** in all spellings. -/
theorem Spells.meaning_eq {n : Int} {v : Document} (spells : Spells n v) (fits : IsInt64 n) :
    meaning (some v) = some (some n) := by
  cases spells with
  | number =>
    have read : seconds? (.number (toString n).toList) = some (some n) := by
      rw [seconds?, Document.int64?_decimal fits.1 fits.2, Option.map_some]
    simp only [meaning, Json.optional, read, Option.map_some, Option.join_some]
  | text numeral padded =>
    rw [meaning_text, signed?_trim_eq_some_iff.mpr ⟨fits, .text numeral padded⟩]

theorem Readable.exists_meaning {x : Option Document} (readable : Readable x) :
    ∃ lifetime, meaning x = some lifetime := by
  cases readable with
  | absent => exact ⟨none, rfl⟩
  | null => exact ⟨none, rfl⟩
  | integer fits => exact ⟨_, Spells.number.meaning_eq fits⟩
  | text s => exact ⟨_, meaning_text s⟩

theorem Nameless.exists_meaning {v : Document} (nameless : Nameless v) :
    ∃ expiry, meaning (some v) = some expiry ∧ expiry.bind Timestamp.ofSeconds? = none := by
  cases nameless with
  | null => exact ⟨none, rfl, rfl⟩
  | @text s foreign =>
    refine ⟨none, ?_, rfl⟩
    rw [meaning_text, Option.some.injEq, Option.eq_none_iff_forall_ne_some]
    intro n read
    obtain ⟨fits, spells⟩ := signed?_trim_eq_some_iff.mp read
    exact foreign n fits spells
  | outside fits spells beyond =>
    exact ⟨_, spells.meaning_eq fits, Timestamp.ofSeconds?_eq_none.mpr beyond⟩

/-! ### Grants in bodies -/

/-- The fields of a grant. -/
def grantNames : List String := ["access_token", "expires_in", "expires_on"]

theorem nodup_grantNames : grantNames.Nodup := by decide

/-- The grant that three fields make. -/
def granted (token lifetime expiry : Option Document) : Option Grant :=
  (required Document.text? token).bind fun secret => (meaning lifetime).bind fun lifetime =>
    (meaning expiry).map fun expiry => ⟨secret, lifetime, expiry⟩

theorem ofDocument?_of_fields {d : Document} {token lifetime expiry : Option Document}
    (h : d.fields? grantNames = some [token, lifetime, expiry]) :
    Grant.ofDocument? d = granted token lifetime expiry := by
  rw [grantNames] at h
  rw [Grant.ofDocument?, h, granted, meaning, meaning]
  simp only [Option.bind_eq_bind, Option.bind_some]
  cases required Document.text? token <;> cases optional seconds? lifetime <;>
    cases optional seconds? expiry <;> rfl

theorem ofDocument?_of_no_fields {d : Document} (h : d.fields? grantNames = none) :
    Grant.ofDocument? d = none := by
  rw [grantNames] at h
  rw [Grant.ofDocument?, h]
  rfl

/-- **A body with a field** at the place of a frame, or without it. -/
def Carries (frame : Frame) (name : String) (x : Option Document) (bytes : List UInt8) : Prop :=
  ∃ d, Document.read? (Utf8.encode (Utf8.decodeLossy bytes)) = some d ∧
    frame.Holds grantNames name x d

theorem length_eq_three {α : Type} {as : List α} (h : as.length = 3) : ∃ a b c, as = [a, b, c] := by
  match as with
  | [a, b, c] => exact ⟨a, b, c, rfl⟩

theorem exists_granted_expiry (frame : Frame) : ∃ base :
    Option (Option Document × Option Document), ∀ x bytes,
    Carries frame "expires_on" x bytes → grant? bytes = base.bind fun b => granted b.1 b.2 x := by
  obtain ⟨fields, three, gives⟩ :=
    frame.separates nodup_grantNames (rfl : grantNames[2]? = some "expires_on")
  cases fields with
  | none =>
    refine ⟨none, fun x bytes ⟨d, read, holds⟩ => ?_⟩
    rw [grant?, read, Option.bind_some, ofDocument?_of_no_fields (gives x d holds)]
    rfl
  | some fields =>
    obtain ⟨token, lifetime, expiry, rfl⟩ := length_eq_three (three fields rfl)
    refine ⟨some (token, lifetime), fun x bytes ⟨d, read, holds⟩ => ?_⟩
    rw [grant?, read, Option.bind_some, ofDocument?_of_fields (gives x d holds)]
    rfl

theorem exists_granted_lifetime (frame : Frame) : ∃ base :
    Option (Option Document × Option Document), ∀ x bytes,
    Carries frame "expires_in" x bytes → (grant? bytes = base.bind fun b => granted b.1 x b.2) ∧
      ∀ other v, Carries other "expires_on" (some v) bytes → ∀ b ∈ base, b.2 = some v := by
  obtain ⟨fields, three, gives⟩ :=
    frame.separates nodup_grantNames (rfl : grantNames[1]? = some "expires_in")
  cases fields with
  | none =>
    refine ⟨none, fun x bytes ⟨d, read, holds⟩ => ⟨?_, nofun⟩⟩
    rw [grant?, read, Option.bind_some, ofDocument?_of_no_fields (gives x d holds)]
    rfl
  | some fields =>
    obtain ⟨token, lifetime, expiry, rfl⟩ := length_eq_three (three fields rfl)
    refine ⟨some (token, expiry), fun x bytes ⟨d, read, holds⟩ => ⟨?_, ?_⟩⟩
    · rw [grant?, read, Option.bind_some, ofDocument?_of_fields (gives x d holds)]
      rfl
    · rintro other v ⟨d', read', holds'⟩ b ⟨⟩
      obtain rfl : d = d' := Option.some.inj (read.symm.trans read')
      obtain ⟨fields', three', gives'⟩ :=
        other.separates nodup_grantNames (rfl : grantNames[2]? = some "expires_on")
      have same := (gives x d holds).symm.trans (gives' (some v) d holds')
      cases fields' with
      | none => cases same
      | some fields' =>
        obtain ⟨token', lifetime', expiry', rfl⟩ := length_eq_three (three' fields' rfl)
        cases same
        rfl

/-! ### Who reads a grant -/

/-- **What matters of a grant**: the secret, and when it expires if it is read at an instant. -/
def Grant.outcome (g : Grant) : String × (Instant → Option Timestamp) :=
  (g.accessToken, g.expiresAt?)

/-- An expiry within the calendar makes the lifetime void, if it can be read. -/
theorem outcome_of_named {token l l' e : Option Document} {n : Int}
    (named : meaning e = some (some n)) (inside : Timestamp.inCalendar n = true)
    (readable : Readable l) (readable' : Readable l') :
    (granted token l e).map Grant.outcome = (granted token l' e).map Grant.outcome := by
  obtain ⟨lifetime, tells⟩ := readable.exists_meaning
  obtain ⟨lifetime', tells'⟩ := readable'.exists_meaning
  have same : ∀ secret, Grant.outcome ⟨secret, lifetime, some n⟩ =
      Grant.outcome ⟨secret, lifetime', some n⟩ := by
    intro secret
    refine Prod.ext rfl (funext fun now => ?_)
    simp only [Grant.outcome, Grant.expiresAt?, Option.bind_some, Timestamp.ofSeconds?, inside,
      if_true, Option.some_or]
  rw [granted, granted, named, tells, tells']
  cases required Document.text? token with
  | none => rfl
  | some secret => exact congrArg some (same secret)

/-- An expiry that names no instant is as good as another one. -/
theorem outcome_of_nameless {token l e e' : Option Document} {expiry expiry' : Option Int}
    (tells : meaning e = some expiry) (tells' : meaning e' = some expiry')
    (nameless : expiry.bind Timestamp.ofSeconds? = none)
    (nameless' : expiry'.bind Timestamp.ofSeconds? = none) :
    (granted token l e).map Grant.outcome = (granted token l e').map Grant.outcome := by
  have same : ∀ secret lifetime, Grant.outcome ⟨secret, lifetime, expiry⟩ =
      Grant.outcome ⟨secret, lifetime, expiry'⟩ := by
    intro secret lifetime
    refine Prod.ext rfl (funext fun now => ?_)
    simp only [Grant.outcome, Grant.expiresAt?, nameless, nameless']
  rw [granted, granted, tells, tells']
  cases required Document.text? token with
  | none => rfl
  | some secret =>
    cases meaning l with
    | none => rfl
    | some lifetime => exact congrArg some (same secret lifetime)

section
variable {σ : Type} (credential : String) (family : Family) (scopes : List String) {status : Nat}
  (success : isSuccess status = true)
include success

theorem readToken_congr {bytes bytes' : List UInt8}
    (same : (grant? bytes).map Grant.outcome = (grant? bytes').map Grant.outcome) :
    (readToken credential family scopes status (.ok bytes) : Task σ (Except Error Token)) =
      readToken credential family scopes status (.ok bytes') := by
  have opens :
      ∀ bytes, (readToken credential family scopes status (.ok bytes) :
          Task σ (Except Error Token)) =
        ((grant? bytes).map Grant.outcome).elim (.done (.error .json)) fun outcome => .look fun m =>
          (outcome.2 m.now).elim .crash fun expiry => .done (.ok ⟨outcome.1, expiry, scopes⟩) := by
    intro bytes
    rw [readToken, grant?, if_pos success]
    cases (Document.read? (Utf8.encode (Utf8.decodeLossy bytes))).bind Grant.ofDocument? with
    | none => rfl
    | some grant =>
      refine congrArg Task.look (funext fun m => ?_)
      dsimp only [Grant.outcome]
      cases grant.expiresAt? m.now <;> rfl
  rw [opens, opens, same]

/-- **Seconds are read alike in all spellings.** -/
theorem readToken_of_spelling :
    (∀ name ∈ ["expires_in", "expires_on"], ∀ n v v', IsInt64 n → Spells n v → Spells n v' →
      ∀ frame bytes bytes', Carries frame name (some v) bytes →
      Carries frame name (some v') bytes' →
        (readToken credential family scopes status (.ok bytes) : Task σ (Except Error Token)) =
          readToken credential family scopes status (.ok bytes')) ∧
    (∀ n v, Spells n v → Timestamp.inCalendar n = true → ∀ x x', Readable x → Readable x' →
      ∀ frame other bytes bytes', Carries frame "expires_in" x bytes →
      Carries frame "expires_in" x' bytes' →
        Carries other "expires_on" (some v) bytes →
          (readToken credential family scopes status (.ok bytes) : Task σ (Except Error Token)) =
            readToken credential family scopes status (.ok bytes')) ∧
    (∀ v, Nameless v → ∀ frame bytes bytes', Carries frame "expires_on" (some v) bytes →
      Carries frame "expires_on" none bytes' →
      (readToken credential family scopes status (.ok bytes) : Task σ (Except Error Token)) =
        readToken credential family scopes status (.ok bytes')) := by
  refine ⟨?_, ?_, ?_⟩
  · intro name field n v v' fits spells spells' frame bytes bytes' carries carries'
    refine readToken_congr credential family scopes success (congrArg (Option.map Grant.outcome) ?_)
    have same : meaning (some v) = meaning (some v') :=
      (spells.meaning_eq fits).trans (spells'.meaning_eq fits).symm
    obtain rfl | rfl : name = "expires_in" ∨ name = "expires_on" := by simpa using field
    · obtain ⟨base, tells⟩ := exists_granted_lifetime frame
      rw [(tells _ _ carries).1, (tells _ _ carries').1]
      simp only [granted, same]
    · obtain ⟨base, tells⟩ := exists_granted_expiry frame
      rw [tells _ _ carries, tells _ _ carries']
      simp only [granted, same]
  · intro n v spells inside x x' readable readable' frame other bytes bytes' carries carries' named
    refine readToken_congr credential family scopes success ?_
    obtain ⟨base, tells⟩ := exists_granted_lifetime frame
    obtain ⟨grant, expiry⟩ := tells _ _ carries
    rw [grant, (tells _ _ carries').1]
    cases base with
    | none => rfl
    | some base =>
      have given : meaning base.2 = some (some n) := by
        rw [expiry other v named base rfl]
        exact spells.meaning_eq (isInt64_of_inCalendar inside)
      exact outcome_of_named given inside readable readable'
  · intro v nameless frame bytes bytes' carries carries'
    refine readToken_congr credential family scopes success ?_
    obtain ⟨base, tells⟩ := exists_granted_expiry frame
    rw [tells _ _ carries, tells _ _ carries']
    cases base with
    | none => rfl
    | some base =>
      obtain ⟨expiry, meant, silent⟩ := nameless.exists_meaning
      exact outcome_of_nameless meant rfl silent rfl

end

/-! ### Plain bodies -/

/-- A member that is a number or a text. -/
def plainMember : String × (List Char ⊕ String) → Option String × Document
  | (name, .inl digits) => (some name, .number digits)
  | (name, .inr text) => (some name, .string (some text))

/-- The number or the text that a member is. -/
def plain? : Option String × Document → Option (String × (List Char ⊕ String))
  | (some name, .number digits) => some (name, .inl digits)
  | (some name, .string (some text)) => some (name, .inr text)
  | _ => none

/-- The members of an object of numbers and texts. -/
def plainMembers? : Document → Option (List (String × (List Char ⊕ String)))
  | .object members => members.mapM plain?
  | _ => none

theorem eq_plainMember {m : Option String × Document} {a : String × (List Char ⊕ String)}
    (h : plain? m = some a) : m = plainMember a := by
  unfold plain? at h
  split at h <;> cases h <;> rfl

theorem eq_object_of_plainMembers? {d : Document} {plain : List (String × (List Char ⊕ String))}
    (h : plainMembers? d = some plain) : d = .object (plain.map plainMember) := by
  cases d with
  | object members =>
    rw [plainMembers?] at h
    induction members generalizing plain with
    | nil =>
      cases h
      rfl
    | cons m members ih =>
      rw [List.mapM_cons] at h
      simp only [Option.bind_eq_bind, Option.bind_eq_some_iff, Option.pure_def,
        Option.some.injEq] at h
      obtain ⟨a, first, rest, others, rfl⟩ := h
      cases ih others
      rw [List.map_cons, ← eq_plainMember first]
  | _ => cases h

theorem read?_of_plain {bytes : List UInt8} {plain : List (String × (List Char ⊕ String))}
    (h : (Document.read? (Utf8.encode (Utf8.decodeLossy bytes))).bind plainMembers? = some plain) :
    Document.read? (Utf8.encode (Utf8.decodeLossy bytes)) =
      some (.object (plain.map plainMember)) := by
  obtain ⟨d, read, members⟩ := Option.bind_eq_some_iff.mp h
  rw [read, eq_object_of_plainMembers? members]

/-- A document with an expiry as a number. -/
def expiryNumber : Document := .number (toString (1900000000 : Int)).toList

/-- The same expiry as a text. -/
def expiryText : Document := .string (some "\u2003+001900000000 ")

theorem spells_expiryText : Spells 1900000000 expiryText := by
  have numeral : SignedNumeral 1900000000 ('+' :: "001900000000".toList) :=
    .plus ⟨2, by decide +kernel⟩
  exact .text numeral ⟨['\u2003'],
    [' '], by decide +kernel, List.forall_mem_singleton.mpr rfl, List.forall_mem_singleton.mpr rfl⟩

/-- A body with an expiry as a number and a lifetime that is no number. -/
def numberBody : List UInt8 :=
  Utf8.encode "\x7b\"access_token\":\"t\",\"expires_in\":\"soon\",\"expires_on\":1900000000\x7d"

/-- The same body with the expiry as a text. -/
def textBody : List UInt8 :=
  Utf8.encode "\x7b\"access_token\":\"t\",\"expires_in\":\"soon\",\"expires_on\":\"\\u2003+001900000000 \"\x7d"

/-- The same body without the lifetime. -/
def bareBody : List UInt8 := Utf8.encode "\x7b\"access_token\":\"t\",\"expires_on\":1900000000\x7d"

/-- The same body with minus zero for the lifetime. -/
def minusZeroBody : List UInt8 :=
  Utf8.encode "\x7b\"access_token\":\"t\",\"expires_in\":-0,\"expires_on\":1900000000\x7d"

/-- The same body with half a character for the lifetime. -/
def halfBody : List UInt8 :=
  Utf8.encode "\x7b\"access_token\":\"t\",\"expires_in\":\"\\ud800\",\"expires_on\":1900000000\x7d"

theorem read?_numberBody :
    Document.read? (Utf8.encode (Utf8.decodeLossy numberBody)) = some (.object
    [(some "access_token", .string (some "t")), (some "expires_in", .string (some "soon")),
      (some "expires_on", expiryNumber)]) := by
  have plain :
      (Document.read? (Utf8.encode (Utf8.decodeLossy numberBody))).bind plainMembers? = some
      [("access_token", .inr "t"), ("expires_in", .inr "soon"),
          ("expires_on", .inl (toString (1900000000 : Int)).toList)] := by
    decide +kernel
  exact read?_of_plain plain

theorem read?_textBody : Document.read? (Utf8.encode (Utf8.decodeLossy textBody)) = some (.object
    [(some "access_token", .string (some "t")), (some "expires_in", .string (some "soon")),
      (some "expires_on", expiryText)]) := by
  have plain : (Document.read? (Utf8.encode (Utf8.decodeLossy textBody))).bind plainMembers? = some
      [("access_token", .inr "t"), ("expires_in", .inr "soon"),
        ("expires_on", .inr "\u2003+001900000000 ")] := by
    decide +kernel
  exact read?_of_plain plain

theorem read?_bareBody : Document.read? (Utf8.encode (Utf8.decodeLossy bareBody)) = some (.object
    [(some "access_token", .string (some "t")), (some "expires_on", expiryNumber)]) := by
  have plain : (Document.read? (Utf8.encode (Utf8.decodeLossy bareBody))).bind plainMembers? = some
      [("access_token", .inr "t"), ("expires_on", .inl (toString (1900000000 : Int)).toList)] := by
    decide +kernel
  exact read?_of_plain plain

theorem read?_minusZeroBody :
    Document.read? (Utf8.encode (Utf8.decodeLossy minusZeroBody)) = some (.object
    [(some "access_token", .string (some "t")), (some "expires_in", .number ['-', '0']),
      (some "expires_on", expiryNumber)]) := by
  have plain :
      (Document.read? (Utf8.encode (Utf8.decodeLossy minusZeroBody))).bind plainMembers? = some
      [("access_token", .inr "t"), ("expires_in", .inl ['-', '0']),
          ("expires_on", .inl (toString (1900000000 : Int)).toList)] := by
    decide +kernel
  exact read?_of_plain plain

/-- A frame for the expiry of the body. -/
def expiryFrame : Frame :=
  .object [(some "access_token", .string (some "t")), (some "expires_in", .string (some "soon"))] []

/-- A frame for the lifetime of the body. -/
def lifetimeFrame : Frame :=
  .object [(some "access_token", .string (some "t"))] [(some "expires_on", expiryNumber)]

/-- Bodies with an expiry as a number and as a text, with a lifetime that says nothing and without
one, are read alike. -/
theorem readToken_of_spelling_bodies :
    (readToken "mi" .managedIdentity [] 200 (.ok numberBody) : Task Unit (Except Error Token)) =
        readToken "mi" .managedIdentity [] 200 (.ok textBody) ∧
      (readToken "mi" .managedIdentity [] 200 (.ok numberBody) : Task Unit (Except Error Token)) =
        readToken "mi" .managedIdentity [] 200 (.ok bareBody) := by
  have success : isSuccess 200 = true := rfl
  have number : Carries expiryFrame "expires_on" (some expiryNumber) numberBody :=
    ⟨_, read?_numberBody, .member _⟩
  have text : Carries expiryFrame "expires_on" (some expiryText) textBody :=
    ⟨_, read?_textBody, .member _⟩
  have soon : Carries lifetimeFrame "expires_in" (some (.string (some "soon"))) numberBody :=
    ⟨_, read?_numberBody, .member _⟩
  have bare : Carries lifetimeFrame "expires_in" none bareBody :=
    ⟨_, read?_bareBody, .noMember (by simp)⟩
  constructor
  · exact (readToken_of_spelling "mi" .managedIdentity [] success).1 "expires_on"
      (by simp) 1900000000 expiryNumber expiryText
        (by decide) .number spells_expiryText expiryFrame _ _ number text
  · exact (readToken_of_spelling "mi" .managedIdentity [] success).2.1 1900000000 expiryNumber
      .number (by decide) _ _ (.text _) .absent lifetimeFrame expiryFrame _ _ soon bare number

/-! ### What is not read alike -/

theorem int64?_minusZero : (Document.number ['-', '0']).int64? = none := by
  have double : Number.ofText? ['-', '0'] = (Number.toDouble? true 0 0).map .double := rfl
  rw [Document.int64?, double]
  cases Number.toDouble? true 0 0 <;> rfl

theorem grant?_minusZeroBody : grant? minusZeroBody = none := by
  have unread : meaning (some (.number ['-', '0'])) = none := by
    simp only [meaning, Json.optional, seconds?, int64?_minusZero, Option.map_none]
  rw [grant?, read?_minusZeroBody, Option.bind_some, ofDocument?_of_fields rfl, granted, unread]
  rfl

theorem grant?_halfBody : grant? halfBody = none := by decide +kernel

theorem grant?_bareBody : grant? bareBody = some ⟨"t", none, some 1900000000⟩ := by decide +kernel

/-- A refusal quotes its body. -/
theorem reading?_of_401 (bytes : List UInt8) (now : Instant) :
    reading? "mi" .managedIdentity [] 401 (.ok bytes) now =
    some (.error (.unauthorized "mi" (some 401) (errorMessage (Utf8.decodeLossy bytes)))) := rfl

/-- **What matters besides the seconds**: minus zero or half a character for the lifetime refuses a
body that grants a token without it, and a response that is a refusal quotes its body as it is
spelled. -/
theorem readToken_misspelled :
    (readToken "mi" .managedIdentity [] 200 (.ok bareBody)).run (.initial ⟨0⟩ (.ofCapacity 8) ()) =
        (.initial ⟨0⟩ (.ofCapacity 8) (), .done (.ok ⟨"t", ⟨1900000000, 0⟩, []⟩)) ∧
      (readToken "mi" .managedIdentity [] 200 (.ok minusZeroBody)).run
        (.initial ⟨0⟩ (.ofCapacity 8) ()) =
          (.initial ⟨0⟩ (.ofCapacity 8) (), .done (.error .json)) ∧
      (readToken "mi" .managedIdentity [] 200 (.ok halfBody)).run
        (.initial ⟨0⟩ (.ofCapacity 8) ()) =
          (.initial ⟨0⟩ (.ofCapacity 8) (), .done (.error .json)) ∧
      (readToken "mi" .managedIdentity [] 401 (.ok (Utf8.encode "[\"t\",1,2]"))).run
        (.initial ⟨0⟩ (.ofCapacity 8) ()) =
          (.initial ⟨0⟩ (.ofCapacity 8) (),
            .done (.error (.unauthorized "mi" (some 401) "[\"t\",1,2]"))) ∧
      (readToken "mi" .managedIdentity [] 401 (.ok (Utf8.encode "[\"t\",1,\"2\"]"))).run
        (.initial ⟨0⟩ (.ofCapacity 8) ()) =
          (.initial ⟨0⟩ (.ofCapacity 8) (),
            .done (.error (.unauthorized "mi" (some 401) "[\"t\",1,\"2\"]"))) := by
  have quoted : errorMessage (Utf8.decodeLossy (Utf8.encode "[\"t\",1,2]")) = "[\"t\",1,2]" := by
    decide +kernel
  have quoted' :
      errorMessage (Utf8.decodeLossy (Utf8.encode "[\"t\",1,\"2\"]")) = "[\"t\",1,\"2\"]" := by
    decide +kernel
  refine ⟨?_, ?_, ?_, ?_, ?_⟩
  · rw [run_readToken, reading?, grant?_bareBody]
    rfl
  · rw [run_readToken, reading?, grant?_minusZeroBody]
    rfl
  · rw [run_readToken, reading?, grant?_halfBody]
    rfl
  · rw [run_readToken, reading?_of_401, quoted]
    rfl
  · rw [run_readToken, reading?_of_401, quoted']
    rfl

end TokenChain.Endpoint
