import Mathlib
import Paymaster.Crypto.Edwards

/-!
# The field of the curve

The curve test computes with naturals.  This file says what it computes in the field of the residues
modulo `2 ^ 255 - 19`.

**The field.**  That number is prime, so the residues are a field (`prime_prime`).  The proof is a
chain of certificates, each of a base whose powers show that its order is `p - 1`, and of the prime
factors of `p - 1`, which are small or certified before (`prime_of_chained`).

**Residues.**  Sums, differences, products and powers of residues are those of the field, and
`isSquare` finds the squares (`isSquare_iff`): that is Euler's criterion.
-/

namespace Paymaster.Crypto.Field

/-! ## Powers by halves -/

section Halves

variable {M : Type*} [Monoid M] (x : M) {e : ℕ}

lemma sq_pow_half_of_even (h : e % 2 = 0) : (x * x) ^ (e / 2) = x ^ e := by
  rw [← sq, ← pow_mul, Nat.mul_div_cancel' (Nat.dvd_of_mod_eq_zero h)]

lemma sq_pow_half_of_odd (h : e % 2 ≠ 0) : x * (x * x) ^ (e / 2) = x ^ e := by
  have hodd : 2 * (e / 2) + 1 = e := by omega
  rw [← sq, ← pow_mul, ← pow_succ', hodd]

end Halves

/-! ## The field -/

/-- A power modulo a number; the exponent has so many bits. -/
def modPow (m : ℕ) : (bits a e : ℕ) → ℕ
  | 0, _, _ => 1 % m
  | bits + 1, a, e =>
    let root := modPow m bits (a * a % m) (e / 2)
    if e % 2 = 0 then root else a * root % m

lemma modPow_lt {m : ℕ} (hm : 0 < m) (bits a e : ℕ) : modPow m bits a e < m := by
  induction bits generalizing a e with
  | zero => exact Nat.mod_lt _ hm
  | succ bits ih =>
      simp only [modPow]
      split_ifs
      · exact ih _ _
      · exact Nat.mod_lt _ hm

lemma cast_modPow (m : ℕ) {bits e : ℕ} (h : e < 2 ^ bits) (a : ℕ) :
    (modPow m bits a e : ZMod m) = (a : ZMod m) ^ e := by
  induction bits generalizing a e with
  | zero =>
      obtain rfl : e = 0 := by simpa using h
      simp [modPow]
  | succ bits ih =>
      have hhalf : e / 2 < 2 ^ bits := by rw [pow_succ] at h; omega
      have hroot := ih hhalf (a * a % m)
      rw [ZMod.natCast_mod, Nat.cast_mul] at hroot
      simp only [modPow]
      split_ifs with heven
      · rw [hroot, sq_pow_half_of_even _ heven]
      · rw [ZMod.natCast_mod, Nat.cast_mul, hroot, sq_pow_half_of_odd _ heven]

/-- Residues are told apart in the ring of residues. -/
lemma cast_inj_of_lt {m a b : ℕ} (ha : a < m) (hb : b < m) :
    (a : ZMod m) = b ↔ a = b := by
  rw [ZMod.natCast_eq_natCast_iff', Nat.mod_eq_of_lt ha, Nat.mod_eq_of_lt hb]

/-- A certificate of a prime: a base, and the primes that make up the predecessor. -/
structure Certificate where
  number : ℕ
  base : ℕ
  factors : List ℕ

/-- The base's power with the predecessor as exponent is one, and no power with a part of it is. -/
def Certificate.holds (c : Certificate) : Bool :=
  let power (e : ℕ) : ℕ := modPow c.number (c.number.log2 + 1) c.base e
  1 < c.number && c.factors.prod = c.number - 1 && power (c.number - 1) = 1 &&
    c.factors.all fun q => power ((c.number - 1) / q) ≠ 1

/-- **A number that is certified by primes is prime.** -/
lemma Certificate.prime_of_holds {c : Certificate} (hprime : ∀ q ∈ c.factors, q.Prime)
    (h : c.holds = true) : c.number.Prime := by
  obtain ⟨p, a, factors⟩ := c
  simp only [holds, Bool.and_eq_true, decide_eq_true_eq, List.all_eq_true] at h hprime ⊢
  obtain ⟨⟨⟨hp, hprod⟩, hone⟩, hparts⟩ := h
  have hcast : ∀ e ≤ p - 1, ((a : ZMod p) ^ e = 1 ↔ modPow p (p.log2 + 1) a e = 1) := by
    intro e he
    have hbits : e < 2 ^ (p.log2 + 1) := by
      have := Nat.lt_log2_self (n := p)
      omega
    rw [← cast_modPow p hbits, ← cast_inj_of_lt (modPow_lt (by omega) _ _ _) hp, Nat.cast_one]
  refine lucas_primality p a ((hcast _ le_rfl).mpr hone) fun q hq hdvd => ?_
  obtain ⟨q', hmem, hq'⟩ := hq.prime.dvd_prod_iff.mp (hprod ▸ hdvd)
  obtain rfl := (Nat.prime_dvd_prime_iff_eq hq (hprime q' hmem)).mp hq'
  rw [ne_eq, hcast _ (Nat.div_le_self _ _)]
  exact hparts q hmem

/-- Certificates in a row, each of which uses known primes and the numbers before it. -/
def chained : (known : List ℕ) → List Certificate → Bool
  | _, [] => true
  | known, c :: rest =>
    c.factors.all (known.contains ·) && c.holds && chained (c.number :: known) rest

lemma prime_of_chained {known : List ℕ} {chain : List Certificate}
    (hknown : ∀ q ∈ known, q.Prime) (h : chained known chain = true) :
    ∀ c ∈ chain, c.number.Prime := by
  induction chain generalizing known with
  | nil => simp
  | cons c rest ih =>
      simp only [chained, Bool.and_eq_true, List.all_eq_true, List.contains_iff_mem] at h
      obtain ⟨⟨hfactors, hholds⟩, hrest⟩ := h
      have hc : c.number.Prime :=
        Certificate.prime_of_holds (fun q hq => hknown q (hfactors q hq)) hholds
      have hknown' : ∀ q ∈ c.number :: known, q.Prime := List.forall_mem_cons.mpr ⟨hc, hknown⟩
      exact List.forall_mem_cons.mpr ⟨hc, ih hknown' hrest⟩

/-- The primes of at most seven digits that the certificates use. -/
def smallPrimes : List ℕ :=
  [2, 3, 5, 7, 13, 19, 31, 47, 107, 127, 223, 353, 2437, 4153, 57467, 65147, 75707, 132049, 430751,
    569003, 1923133, 8574133]

lemma prime_of_mem_smallPrimes : ∀ q ∈ smallPrimes, q.Prime := by
  norm_num [smallPrimes]

/-- The certificates that lead up to the prime of the field, with the great factors of the
predecessors before the numbers they are factors of. -/
def certificates : List Certificate :=
  let p10 := 2773320623
  let p11 := 72106336199
  let p16 := 1919519569386763
  let p17 := 31757755568855353
  let p35 := 75445702479781427272750846543864801
  let p71 := 74058212732561358302231226437062788676166966415465897661863160754340907
  [⟨p10, 5, [2, 2437, 569003]⟩,
    ⟨p11, 7, [2, 13, p10]⟩,
    ⟨p16, 2, [2, 3, 7, 19, 47, 47, 127, 8574133]⟩,
    ⟨p17, 10, [2, 2, 2, 3, 31, 107, 223, 4153, 430751]⟩,
    ⟨p35, 7, [2, 2, 2, 2, 2, 3, 3, 5, 5, 75707, p11, p16]⟩,
    ⟨p71, 2, [2, 3, 353, 57467, 132049, 1923133, p17, p35]⟩,
    ⟨prime, 2, [2, 2, 3, 65147, p71]⟩]

/-- **The residues are those of a prime**, so they are a field. -/
lemma prime_prime : prime.Prime := by
  have hchained : chained smallPrimes certificates = true := by decide +kernel
  have hlast : certificates.getLast?.map Certificate.number = some prime := rfl
  obtain ⟨c, hc, hnumber⟩ := Option.map_eq_some_iff.mp hlast
  exact hnumber ▸ prime_of_chained prime_of_mem_smallPrimes hchained c (List.mem_of_getLast? hc)

instance : Fact prime.Prime := ⟨prime_prime⟩

/-! ## Residues -/

lemma cast_add (a b : ℕ) : (add a b : ZMod prime) = a + b := by
  rw [add, ZMod.natCast_mod, Nat.cast_add]

lemma cast_mul (a b : ℕ) : (mul a b : ZMod prime) = a * b := by
  rw [mul, ZMod.natCast_mod, Nat.cast_mul]

lemma cast_sub (a b : ℕ) : (sub a b : ZMod prime) = a - b := by
  have hle : b % prime ≤ prime := (Nat.mod_lt b prime_prime.pos).le
  rw [sub, ZMod.natCast_mod, Nat.cast_add, Nat.cast_sub hle, ZMod.natCast_self, ZMod.natCast_mod,
    zero_sub, ← sub_eq_add_neg]

lemma pow_lt (a e : ℕ) : pow a e < prime := by
  induction a, e using pow.induct with
  | case1 a =>
      rw [pow]
      exact prime_prime.one_lt
  | case2 a e he heven ih =>
      rw [pow, if_neg he, if_pos heven]
      exact ih
  | case3 a e he hodd ih =>
      rw [pow, if_neg he, if_neg hodd]
      exact Nat.mod_lt _ prime_prime.pos

lemma cast_pow (a e : ℕ) : (pow a e : ZMod prime) = (a : ZMod prime) ^ e := by
  induction a, e using pow.induct with
  | case1 a => simp [pow]
  | case2 a e he heven ih =>
      rw [pow, if_neg he, if_pos heven]
      rw [ih, cast_mul, sq_pow_half_of_even _ heven]
  | case3 a e he hodd ih =>
      rw [pow, if_neg he, if_neg hodd]
      rw [cast_mul, ih, cast_mul, sq_pow_half_of_odd _ hodd]

/-- **The squares are found**: the middle power of a square is one, or zero if it is zero, and that of
any other residue is neither. -/
lemma isSquare_iff (a : ℕ) : isSquare a = true ↔ IsSquare (a : ZMod prime) := by
  have hhalf : (prime - 1) / 2 = prime / 2 := by decide
  have hpower := cast_pow a (prime / 2)
  have hzero := cast_inj_of_lt (pow_lt a (prime / 2)) prime_prime.pos
  have hone := cast_inj_of_lt (pow_lt a (prime / 2)) prime_prime.one_lt
  rw [hpower, Nat.cast_zero] at hzero
  rw [hpower, Nat.cast_one] at hone
  rw [isSquare, hhalf, decide_eq_true_eq, Nat.le_one_iff_eq_zero_or_eq_one, ← hzero, ← hone]
  by_cases ha : (a : ZMod prime) = 0
  · have hpos : prime / 2 ≠ 0 := by decide
    simp [ha, hpos]
  · simp [ZMod.euler_criterion prime ha, ha]

end Paymaster.Crypto.Field
