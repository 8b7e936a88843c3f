/-! # Punycode

Labels of domain names in ASCII: the plain characters of a label come first, and behind the last
hyphen follow the others in the order of their code points, each as the distance from the one before
it. A distance is a number of digits to the base 36, least first, whose last digit is known by its
being small; how small depends on the distances that have been written before. -/

namespace TokenChain.Url.Punycode

/-- A digit: a letter up to 25, then the decimal digits. -/
def digit (n : Nat) : Char := if n < 26 then Char.ofNat (97 + n) else Char.ofNat (22 + n)

/-- The value of a digit. -/
def digitValue? (c : Char) : Option Nat :=
  if 'a' ≤ c && c ≤ 'z' then some (c.toNat - 97)
  else if '0' ≤ c && c ≤ '9' then some (c.toNat - 22)
  else none

/-- The bound below which the digit at position `k` is the last of its number. -/
def threshold (bias k : Nat) : Nat := if k ≤ bias then 1 else if k ≥ bias + 26 then 26 else k - bias

theorem threshold_pos (bias k : Nat) : 1 ≤ threshold bias k := by
  unfold threshold; split <;> (try split) <;> omega

/-- Counts the positions by which numbers of the size of `delta` are longer. -/
def settle (delta k : Nat) : Nat :=
  if 455 < delta then settle (delta / 35) (k + 36) else k + 36 * delta / (delta + 38)
termination_by delta
decreasing_by exact Nat.div_lt_self (by omega) (by omega)

/-- The bias after a distance, with `points` characters placed; the first distance counts for much
less. -/
def adapt (delta points : Nat) (first : Bool) : Nat :=
  let delta := if first then delta / 700 else delta / 2
  settle (delta + delta / points) 0

/-! ### Writing -/

/-- The digits of a number from position `k` on. -/
def number (bias q k : Nat) : List Char :=
  let t := threshold bias k
  if q < t then [digit q]
  else digit (t + (q - t) % (36 - t)) :: number bias ((q - t) / (36 - t)) (k + 36)
termination_by q
decreasing_by
  have h₁ := threshold_pos bias k
  have h₂ := Nat.div_le_self (q - threshold bias k) (36 - threshold bias k)
  omega

/-- What is kept while the code points are written in order. -/
structure Writing where
  delta : Nat
  bias : Nat
  written : Nat
  out : List Char

/-- One pass over a label for the code point `n`: writes a number at each place where it stands. -/
def Writing.pass (basic n : Nat) (label : List Nat) (s : Writing) : Writing :=
  label.foldl (fun s c =>
    if c < n then { s with delta := s.delta + 1 }
    else if c = n then
      { delta := 0
        bias := adapt s.delta (s.written + 1) (s.written == basic)
        written := s.written + 1
        out := s.out ++ number s.bias s.delta 36 }
    else s) s

/-- The ASCII form of a label. -/
def encode (label : List Char) : List Char :=
  let points := label.map Char.toNat
  let basic := label.filter fun c => c.toNat < 128
  let others := ((points.filter (128 ≤ ·)).mergeSort (· ≤ ·)).eraseDups
  let start : Writing := ⟨0, 72, basic.length, if basic.isEmpty then [] else basic ++ ['-']⟩
  let step (acc : Nat × Writing) (n : Nat) : Nat × Writing :=
    let s := { acc.2 with delta := acc.2.delta + (n - acc.1) * (acc.2.written + 1) }
    let s := s.pass basic.length n points
    (n + 1, { s with delta := s.delta + 1 })
  (others.foldl step (128, start)).2.out

/-! ### Reading -/

/-- A number in front of a text, `weight` times over and added to `sum`, and what follows it. -/
def number? (bias : Nat) : List Char → Nat → Nat → Nat → Option (Nat × List Char)
  | [], _, _, _ => none
  | c :: cs, k, weight, sum => do
    let d ← digitValue? c
    let sum := sum + d * weight
    let t := threshold bias k
    if d < t then some (sum, cs) else number? bias cs (k + 36) (weight * (36 - t)) sum

theorem length_of_number? {bias : Nat} {cs rest : List Char} {k weight sum n : Nat}
    (h : number? bias cs k weight sum = some (n, rest)) : rest.length < cs.length := by
  induction cs generalizing k weight sum with
  | nil => simp [number?] at h
  | cons c cs ih =>
    simp only [number?, Option.bind_eq_bind, Option.bind_eq_some_iff] at h
    obtain ⟨d, _, h⟩ := h
    split at h
    · simp only [Option.some.injEq, Prod.mk.injEq] at h
      simp [h.2]
    · exact Nat.lt_succ_of_lt (ih h)

/-- Puts the characters that the numbers of a text write among those in `out`. `code` is the code
point that was put last, and `place` the place behind it. -/
def insertAll (bias code place : Nat) (out : List Char) (cs : List Char) : Option (List Char) :=
  match cs with
  | [] => some out
  | c :: cs =>
    match _h : number? bias (c :: cs) 36 1 place with
    | none => none
    | some (n, rest) =>
      let points := out.length + 1
      let code := code + n / points
      if code < 0xD800 || (0xDFFF < code && code < 0x110000) then
        insertAll (adapt (n - place) points (place = 0)) code (n % points + 1)
          (out.insertIdx (n % points) (Char.ofNat code)) rest
      else none
termination_by cs.length
decreasing_by exact length_of_number? _h

/-- The label that an ASCII form writes. -/
def decode? (cs : List Char) : Option (List Char) :=
  let tail := (cs.reverse.takeWhile (· ≠ '-')).reverse
  let basic := (cs.take (cs.length - tail.length)).dropLast
  if basic.all fun c => c.toNat < 128 then insertAll 72 128 0 basic tail else none

end TokenChain.Url.Punycode
