import Mathlib
import Paymaster.Proofs.CurveField
import Paymaster.Text.Encoding
import Paymaster.Token.Account

/-!
# Associated accounts have no key

An associated account is found by a search for a digest that is no curve point.

**Points.**  `Edwards.OnCurve` is the equation of the curve, and the test decides it
(`isPoint_iff`): the coefficient of the curve is no square and minus one is, so the quotient that has
to be a square never has a zero below.

**The search.**  `searchAddress` gives the digest of the first counting byte, from the top, that is no
point (`searchAddress_eq_some_iff`).

**The bytes.**  What is hashed for an account says whose it is (`addressSeed_injective`), so two
searches that come to the same address have hashed the same bytes, or found two texts with one digest.

The main statement is `associatedAccount_keyless`.
-/

namespace Paymaster

namespace Crypto.Edwards

open Paymaster.Crypto.Field

/-! ## Points -/

/-- 32 bytes stand for a point of the curve `-x² + y² = 1 - (121665 / 121666)·x²·y²`: their low 255
bits, least significant byte first, are the `y` of one. -/
def OnCurve (bytes : Block 32) : Prop :=
  ∃ x y : ZMod prime, y = (Bytes.ofLittleEndian bytes.bytes % 2 ^ 255 : ℕ)
    ∧ -x ^ 2 + y ^ 2 = 1 + -121665 / 121666 * x ^ 2 * y ^ 2

/-- The coefficient of the curve is the fraction that it is known by. -/
lemma cast_curveD : (curveD : ZMod prime) = -121665 / 121666 := by
  have hden : ((121666 : ℕ) : ZMod prime) ≠ 0 := by
    rw [ne_eq, ← Nat.cast_zero, cast_inj_of_lt (by decide) (by decide)]
    decide
  have hsum : ((curveD * 121666 + 121665 : ℕ) : ZMod prime) = ((0 : ℕ) : ZMod prime) := by
    rw [ZMod.natCast_eq_natCast_iff']
    decide
  push_cast at hden hsum
  rw [eq_div_iff hden]
  linear_combination hsum

lemma isSquare_neg_one : IsSquare (-1 : ZMod prime) :=
  ZMod.exists_sq_eq_neg_one_iff.mpr (by decide)

lemma not_isSquare_curveD : ¬ IsSquare (curveD : ZMod prime) := by
  have hsymbol : jacobiSym (curveD : ℕ) prime = -1 := by
    norm_num [curveD, prime]
  have hnonsquare := ZMod.nonsquare_of_jacobiSym_eq_neg_one hsymbol
  rwa [Int.cast_natCast] at hnonsquare

/-- Nothing is divided by zero: the coefficient would be a square. -/
lemma denominator_ne_zero (y : ZMod prime) : (curveD : ZMod prime) * y ^ 2 + 1 ≠ 0 := by
  intro h
  have hy : y ≠ 0 := by
    rintro rfl
    simp at h
  have hd : (curveD : ZMod prime) = -1 * (y⁻¹ * y⁻¹) := by
    field_simp
    linear_combination h
  refine not_isSquare_curveD ?_
  rw [hd]
  exact isSquare_neg_one.mul (IsSquare.mul_self _)

/-- A quotient is a square just when the product is. -/
lemma isSquare_mul_iff {F : Type*} [Field F] {u v : F} (hv : v ≠ 0) :
    IsSquare (u * v) ↔ ∃ x, x ^ 2 * v = u := by
  constructor
  · rintro ⟨r, hr⟩
    refine ⟨r / v, ?_⟩
    field_simp
    linear_combination -hr
  · rintro ⟨x, rfl⟩
    exact ⟨x * v, by ring⟩

/-- **The test decides the equation of the curve.** -/
theorem isPoint_iff (bytes : Block 32) : isPoint bytes = true ↔ OnCurve bytes := by
  have hpower : Nat.pow 2 255 = 2 ^ 255 := rfl
  simp only [isPoint, isSquare_iff, cast_mul, cast_sub, cast_add, hpower, Nat.cast_one, OnCurve]
  generalize Bytes.ofLittleEndian bytes.bytes % 2 ^ 255 = n
  rw [← sq, isSquare_mul_iff (denominator_ne_zero _)]
  constructor
  · rintro ⟨x, hx⟩
    refine ⟨x, n, rfl, ?_⟩
    rw [← cast_curveD]
    linear_combination -hx
  · rintro ⟨x, y, rfl, hx⟩
    rw [← cast_curveD] at hx
    refine ⟨x, ?_⟩
    linear_combination -hx

end Crypto.Edwards

open Crypto Crypto.Edwards

namespace Token

variable {owner mint program account : PublicKey}

/-! ## The search -/

/-- **The search gives the first digest from the top that is no point**, and does not come down to
zero. -/
lemma searchAddress_eq_some_iff {count : ℕ} :
    searchAddress owner program mint count = some account ↔
      ∃ n, 0 < n ∧ n ≤ count ∧ candidate owner program mint (UInt8.ofNat n) = account
        ∧ ¬ OnCurve account
        ∧ ∀ k ≤ count, n < k → OnCurve (candidate owner program mint (UInt8.ofNat k)) := by
  induction count with
  | zero =>
      rw [searchAddress]
      constructor
      · intro h
        cases h
      · rintro ⟨n, hpos, hn, -⟩
        omega
  | succ count ih =>
      rw [searchAddress]
      split_ifs with hpoint
      · -- the digest of the top byte is a point, and the search goes on below
        rw [isPoint_iff] at hpoint
        rw [ih]
        constructor
        · rintro ⟨n, hpos, hn, hdigest, hkeyless, hfirst⟩
          refine ⟨n, hpos, by omega, hdigest, hkeyless, fun k hk hlt => ?_⟩
          rcases Nat.le_succ_iff.mp hk with hk | rfl
          · exact hfirst k hk hlt
          · exact hpoint
        · rintro ⟨n, hpos, hn, rfl, hkeyless, hfirst⟩
          have hne : n ≠ count + 1 := by
            rintro rfl
            exact hkeyless hpoint
          exact ⟨n, hpos, by omega, rfl, hkeyless, fun k hk hlt => hfirst k (by omega) hlt⟩
      · rw [isPoint_iff] at hpoint
        rw [Option.some.injEq]
        constructor
        · rintro rfl
          exact ⟨count + 1, by omega, le_rfl, rfl, hpoint, fun k hk hlt => by omega⟩
        · rintro ⟨n, hpos, hn, rfl, hkeyless, hfirst⟩
          obtain rfl : n = count + 1 := by
            by_contra hne
            exact hpoint (hfirst (count + 1) le_rfl (by omega))
          rfl

/-- A counting byte is tried for an account: every larger one gives a point. -/
def Tries (owner program mint : PublicKey) (bump : UInt8) : Prop :=
  ∀ larger, bump < larger → OnCurve (candidate owner program mint larger)

/-- **An associated account** is the digest of the first counting byte from the top that gives no
point. -/
lemma exists_bump_of_associatedAccount (h : associatedAccount owner mint program = .ok account) :
    ∃ bump, account = candidate owner program mint bump ∧ ¬ OnCurve account
      ∧ Tries owner program mint bump := by
  unfold associatedAccount at h
  split_ifs at h
  cases hsearch : searchAddress owner program mint 255 with
  | none =>
      rw [hsearch] at h
      cases h
  | some address =>
      rw [hsearch] at h
      obtain rfl : address = account := Except.ok.inj h
      obtain ⟨n, -, hn, hdigest, hkeyless, hfirst⟩ := searchAddress_eq_some_iff.mp hsearch
      refine ⟨UInt8.ofNat n, hdigest.symm, hkeyless, ?_⟩
      intro larger hlt
      have hlarger := larger.toNat_lt
      rw [UInt8.lt_iff_toNat_lt, UInt8.toNat_ofNat_of_lt' (Nat.lt_succ_of_le hn)] at hlt
      rw [← UInt8.ofNat_toNat (x := larger)]
      exact hfirst larger.toNat (by omega) hlt

/-! ## The bytes -/

/-- **What is hashed says whose account it is for**: all its parts have a fixed width. -/
lemma addressSeed_injective {owner' mint' program' : PublicKey} {bump bump' : UInt8}
    (h : addressSeed owner program mint bump = addressSeed owner' program' mint' bump') :
    owner = owner' ∧ mint = mint' ∧ program = program' ∧ bump = bump' := by
  simp only [addressSeed, List.append_cancel_right_eq] at h
  obtain ⟨h, hbump⟩ := List.append_inj' h rfl
  obtain ⟨h, hmint⟩ := List.append_inj' h (mint.length_bytes.trans mint'.length_bytes.symm)
  obtain ⟨howner, hprogram⟩ :=
    List.append_inj' h (program.length_bytes.trans program'.length_bytes.symm)
  exact ⟨Block.ext howner, Block.ext hmint, Block.ext hprogram, List.cons.inj hbump |>.1⟩

/-- The searches for two accounts hash different bytes with the same digest. -/
def Collide (owner mint program owner' mint' program' : PublicKey) : Prop :=
  ∃ bump bump', Tries owner program mint bump ∧ Tries owner' program' mint' bump'
    ∧ addressSeed owner program mint bump ≠ addressSeed owner' program' mint' bump'
    ∧ Crypto.sha256 (addressSeed owner program mint bump)
      = Crypto.sha256 (addressSeed owner' program' mint' bump')

lemma addressMarker_eq :
    addressMarker = Text.Encoding.encodeUtf8 "ProgramDerivedAddress".toList := by
  decide

/-- **Associated accounts are keyless, and collide only if the digest does.**

Take any wallet, token and program for which there is an account.

* It is no curve point.
* It is the digest of the wallet, the program, the token, one counting byte, the program that owns
  such accounts, and the marker; and every larger counting byte gives a curve point there.
* Whatever has the same account is the same wallet, token and program, or else the two searches have
  hashed different bytes with the same digest. -/
theorem associatedAccount_keyless (h : associatedAccount owner mint program = .ok account) :
    ¬ OnCurve account
      ∧ (∃ bump : UInt8,
        account = Crypto.sha256 (owner.bytes ++ program.bytes ++ mint.bytes ++ [bump]
          ++ Program.associatedToken.bytes
          ++ Text.Encoding.encodeUtf8 "ProgramDerivedAddress".toList)
        ∧ ∀ larger, bump < larger →
          OnCurve (Crypto.sha256 (owner.bytes ++ program.bytes ++ mint.bytes ++ [larger]
            ++ Program.associatedToken.bytes
            ++ Text.Encoding.encodeUtf8 "ProgramDerivedAddress".toList)))
      ∧ ∀ owner' mint' program', associatedAccount owner' mint' program' = .ok account →
        (owner' = owner ∧ mint' = mint ∧ program' = program)
          ∨ Collide owner mint program owner' mint' program' := by
  obtain ⟨bump, hdigest, hkeyless, htries⟩ := exists_bump_of_associatedAccount h
  rw [← addressMarker_eq]
  refine ⟨hkeyless, ⟨bump, hdigest, htries⟩, ?_⟩
  intro owner' mint' program' h'
  obtain ⟨bump', hdigest', -, htries'⟩ := exists_bump_of_associatedAccount h'
  by_cases hsame : addressSeed owner program mint bump = addressSeed owner' program' mint' bump'
  · obtain ⟨rfl, rfl, rfl, -⟩ := addressSeed_injective hsame
    exact Or.inl ⟨rfl, rfl, rfl⟩
  · exact Or.inr ⟨bump, bump', htries, htries', hsame, hdigest.symm.trans hdigest'⟩

/-- A wallet whose account takes two tries: the first counting byte gives a curve point, and the second
an address for which nobody can have a key. -/
theorem associatedAccount_keyless_of_two_tries :
    let owner : PublicKey := Block.ofNat 32 1
    let mint : PublicKey := Block.ofNat 32 5
    associatedAccount owner mint Program.token2022 = .ok (candidate owner Program.token2022 mint 254)
      ∧ OnCurve (candidate owner Program.token2022 mint 255)
      ∧ ¬ OnCurve (candidate owner Program.token2022 mint 254) := by
  intro owner mint
  have hpoint : OnCurve (candidate owner Program.token2022 mint 255) := by
    rw [← isPoint_iff]
    decide +kernel
  have hkeyless : ¬ OnCurve (candidate owner Program.token2022 mint 254) := by
    rw [← isPoint_iff]
    decide +kernel
  have haccount : associatedAccount owner mint Program.token2022
      = .ok (candidate owner Program.token2022 mint 254) := by
    have hprogram : isTokenProgram Program.token2022 = true := by decide
    have hsearch : searchAddress owner Program.token2022 mint 255
        = some (candidate owner Program.token2022 mint 254) := by
      refine searchAddress_eq_some_iff.mpr ⟨254, by decide, by decide, rfl, hkeyless, ?_⟩
      intro k hk hlt
      obtain rfl : k = 255 := by omega
      exact hpoint
    rw [associatedAccount, hprogram, hsearch]
    rfl
  exact ⟨haccount, hpoint, (associatedAccount_keyless haccount).1⟩

end Token

end Paymaster
