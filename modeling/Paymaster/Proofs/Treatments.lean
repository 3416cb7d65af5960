import Mathlib
import Paymaster.Proofs.Payment

/-!
# What a quoted fee asks for

A fee can be any value that a server sends.  This file says what a client should do with it, and
follows it through the two orders in which a client can go about it.

**Treatments.**  `Treatment.ofFee` says for every value what it asks for: a zero of any kind leaves
the transaction as it is, a positive number of 64 bits is paid, and everything else is refused.

**Routes.**  A `Route` is what a payment for a transaction goes through.  `ComesTo` says that a result
on it is a certain treatment, which is one only as long as payments can be told apart
(`ComesTo.unique`).

**The order.**  A route that tests for zero before it makes up the payment does what the fee asks for
(`comesTo_testThenPay`).  One that makes up the payment first does the same, but for the zeros of
double precision, which cannot be paid (`payThenTest_eq`, `comesTo_payThenTest`).
-/

namespace Paymaster

open Rpc

/-! ## What a fee asks for -/

/-- A failure, no matter for which token. -/
def Error.forAnyToken : Error → Error
  | .feeMissing _ => .feeMissing .null
  | e => e

/-- A value is a zero of double precision, of either sign. -/
def Json.isDoubleZero : Json → Bool
  | .double x => x.isZero
  | _ => false

lemma Json.isZero_of_isDoubleZero {v : Json} (h : v.isDoubleZero = true) : v.isZero = true := by
  cases v with
  | double => exact h
  | _ => cases h

lemma Json.isDoubleZero_eq_false {v : Json} (h : v.isZero = false) : v.isDoubleZero = false :=
  Bool.eq_false_iff.mpr fun hdouble => Bool.noConfusion (h.symm.trans (isZero_of_isDoubleZero hdouble))

/-- No zero is below zero. -/
lemma Double.isNegative_of_isZero {x : Double} (h : x.isZero = true) : x.isNegative = false := by
  cases x with
  | finite negative significand exponent =>
      have hnone : significand = 0 := of_decide_eq_true h
      simp [Double.isNegative, hnone]
  | _ => cases h

namespace Payment

/-- What becomes of a transaction. -/
inductive Treatment where
  /-- It stays as it is. -/
  | unchanged
  /-- It gets a transfer of an amount. -/
  | pays (amount : ℕ)
  /-- It is given up. -/
  | fails (e : Error)

/-- What a quoted fee asks for. -/
def Treatment.ofFee : Json → Treatment
  | .null => .fails (.feeMissing .null)
  | .bool b => if b then .pays 1 else .unchanged
  | .int n =>
    if n < 0 then .fails (.feeNegative (.int n))
    else if n = 0 then .unchanged
    else if n < 2 ^ 64 then .pays n.toNat
    else .fails .amount
  | .double x =>
    if x.isNegative then .fails (.feeNegative (.double x))
    else if x.isZero then .unchanged
    else .fails .amount
  | v => .fails (.notComparable v.kind)

lemma Treatment.ofFee_of_isDoubleZero {fee : Json} (h : fee.isDoubleZero = true) :
    ofFee fee = .unchanged := by
  cases fee with
  | double x =>
      have hzero : x.isZero = true := h
      simp [ofFee, hzero, Double.isNegative_of_isZero hzero]
  | _ => cases h

/-- A positive fee of 64 bits asks for a payment of just that. -/
lemma Treatment.ofFee_of_toInt? {fee : Json} {n : ℕ} (h : fee.toInt? = some (n : ℤ)) (hpos : 0 < n)
    (hlt : n < 2 ^ 64) : ofFee fee = .pays n := by
  cases fee with
  | int k =>
      obtain rfl := Option.some.inj h
      have hneg : ¬ (n : ℤ) < 0 := by omega
      have hzero : (n : ℤ) ≠ 0 := by omega
      have hfits : (n : ℤ) < 2 ^ 64 := by omega
      rw [ofFee, if_neg hneg, if_neg hzero, if_pos hfits, Int.toNat_natCast]
  | bool b =>
      have hone : (if b then (1 : ℤ) else 0) = n := Option.some.inj h
      cases b with
      | false =>
          have hnone : n = 0 := by simpa using hone.symm
          omega
      | true =>
          obtain rfl : n = 1 := by simpa using hone.symm
          rfl
  | _ => cases h

/-- A transaction, whom a payment for it goes to, and what it becomes with one. -/
structure Route (α : Type) where
  wallet : PublicKey
  destination : PublicKey
  mint : PublicKey
  program : PublicKey
  unpaid : α
  paid : Instruction → Except Error α

namespace Route

variable {α : Type} {r : Route α} {fee : Json} {ix ix' : Instruction} {amount : ℕ} {a : α}

/-- An instruction pays an amount on a route. -/
def Pays (r : Route α) (ix : Instruction) (amount : ℕ) : Prop :=
  Token.Pays ix r.wallet r.destination r.mint r.program amount

/-- The payment of a fee. -/
def payment (r : Route α) (fee : Json) : Except Error Instruction :=
  Token.payment r.wallet r.destination r.mint fee r.program

/-- A result is what a treatment says; the failure may name any token. -/
def ComesTo (r : Route α) (result : Except Error α) : Treatment → Prop
  | .unchanged => result = .ok r.unpaid
  | .pays amount => ∃ ix a, r.Pays ix amount ∧ r.paid ix = .ok a ∧ result = .ok a
  | .fails e => ∃ err, result = .error err ∧ err.forAnyToken = e

/-- Some payment can be made. -/
def IsOpen (r : Route α) : Prop :=
  ∃ ix amount a, r.Pays ix amount ∧ r.paid ix = .ok a

/-- Payments are taken whatever they amount to, and what comes of them can be told apart. -/
structure IsFaithful (r : Route α) : Prop where
  takes_any : ∀ {ix ix' amount amount' a}, r.Pays ix amount → r.Pays ix' amount' →
    r.paid ix = .ok a → ∃ b, r.paid ix' = .ok b
  ne_unpaid : ∀ {ix a}, r.paid ix = .ok a → a ≠ r.unpaid
  data_eq : ∀ {ix ix' a}, r.paid ix = .ok a → r.paid ix' = .ok a → ix.data = ix'.data

/-- Tests for zero first, and makes up the payment then. -/
def testThenPay (r : Route α) (fee : Json) : Except Error α :=
  if fee.isZero then .ok r.unpaid else r.payment fee >>= r.paid

/-- Makes up the payment first, and tests for zero then. -/
def payThenTest (r : Route α) (fee : Json) : Except Error α := do
  let ix ← r.payment fee
  if fee.isZero then .ok r.unpaid else r.paid ix

/-- A payment moves one amount only. -/
lemma amount_eq_of_data_eq {amount' : ℕ} (h : r.Pays ix amount) (h' : r.Pays ix' amount')
    (hdata : ix.data = ix'.data) : amount = amount' := by
  obtain ⟨_, _, -, -, hmoves⟩ := h
  obtain ⟨_, _, -, -, hmoves'⟩ := h'
  obtain ⟨number, hnumber, -, rfl⟩ := hmoves.data
  obtain ⟨number', hnumber', -, rfl⟩ := hmoves'.data
  rw [hnumber, hnumber', List.cons.injEq] at hdata
  rw [hdata.2]

/-- **A result comes to one treatment.** -/
lemma ComesTo.unique (hr : r.IsFaithful) {result : Except Error α} {σ τ : Treatment}
    (h : r.ComesTo result σ) (h' : r.ComesTo result τ) : σ = τ := by
  cases σ with
  | unchanged =>
      cases τ with
      | unchanged => rfl
      | pays =>
          obtain ⟨ix, a, -, hpaid, hresult⟩ := h'
          exact absurd (Except.ok.inj (hresult.symm.trans h)) (hr.ne_unpaid hpaid)
      | fails =>
          obtain ⟨err, hresult, -⟩ := h'
          cases hresult.symm.trans h
  | pays amount =>
      obtain ⟨ix, a, hpays, hpaid, hresult⟩ := h
      cases τ with
      | unchanged => exact absurd (Except.ok.inj (hresult.symm.trans h')) (hr.ne_unpaid hpaid)
      | pays amount' =>
          obtain ⟨ix', a', hpays', hpaid', hresult'⟩ := h'
          obtain rfl := Except.ok.inj (hresult.symm.trans hresult')
          rw [amount_eq_of_data_eq hpays hpays' (hr.data_eq hpaid hpaid')]
      | fails =>
          obtain ⟨err, hresult', -⟩ := h'
          cases hresult'.symm.trans hresult
  | fails =>
      obtain ⟨err, hresult, rfl⟩ := h
      cases τ with
      | unchanged => cases hresult.symm.trans h'
      | pays =>
          obtain ⟨_, _, -, -, hresult'⟩ := h'
          cases hresult.symm.trans hresult'
      | fails =>
          obtain ⟨err', hresult', rfl⟩ := h'
          obtain rfl := Except.error.inj (hresult.symm.trans hresult')
          rfl

/-! ## Paying a fee -/

/-- On an open route a fee that is an amount can be paid. -/
lemma payment_of_amount (hopen : r.IsOpen) (hamount : Token.amountOf fee = .ok amount) :
    ∃ ix, r.payment fee = .ok ix ∧ r.Pays ix amount := by
  obtain ⟨_, _, _, ⟨source, target, hsource, htarget, -⟩, -⟩ := hopen
  obtain ⟨-, hlt⟩ := Token.amountOf_eq_ok_iff.mp hamount
  refine ⟨_, ?_, source, target, hsource, htarget,
    Token.transfer_moves r.program source target r.wallet hlt⟩
  rw [payment, Token.payment, hsource, htarget, hamount]
  rfl

/-- Any other fee cannot. -/
lemma payment_of_no_amount (hopen : r.IsOpen) (hamount : Token.amountOf fee = .error .amount) :
    r.payment fee = .error .amount := by
  obtain ⟨_, _, _, ⟨source, target, hsource, htarget, -⟩, -⟩ := hopen
  rw [payment, Token.payment, hsource, htarget, hamount]
  rfl

/-- With nothing to pay, a transaction stays as it is. -/
lemma comesTo_unchanged (hzero : fee.isZero = true) : r.ComesTo (r.testThenPay fee) .unchanged :=
  if_pos hzero

/-- An amount is paid. -/
lemma comesTo_pays (hr : r.IsFaithful) (hopen : r.IsOpen) (hzero : fee.isZero = false)
    (hamount : Token.amountOf fee = .ok amount) :
    r.ComesTo (r.testThenPay fee) (.pays amount) := by
  obtain ⟨ix, hpayment, hpays⟩ := payment_of_amount hopen hamount
  obtain ⟨_, _, _, hsome, hpaid⟩ := hopen
  obtain ⟨a, ha⟩ := hr.takes_any hsome hpays hpaid
  refine ⟨ix, a, hpays, ha, ?_⟩
  rw [testThenPay, hzero, hpayment]
  exact ha

/-- What is no amount is refused. -/
lemma comesTo_fails_amount (hopen : r.IsOpen) (hzero : fee.isZero = false)
    (hamount : Token.amountOf fee = .error .amount) :
    r.ComesTo (r.testThenPay fee) (.fails .amount) := by
  refine ⟨.amount, ?_, rfl⟩
  rw [testThenPay, hzero, payment_of_no_amount hopen hamount]
  rfl

/-- **Testing first**, a route does what the fee asks for. -/
lemma comesTo_testThenPay (hr : r.IsFaithful) (hopen : r.IsOpen) (e : Reply.FeeEstimate)
    (token : Json) : r.ComesTo (e.fee token >>= r.testThenPay) (.ofFee e.inToken) := by
  unfold Reply.FeeEstimate.fee
  cases e.inToken with
  | null => exact ⟨_, rfl, rfl⟩
  | bool b =>
      show r.ComesTo (r.testThenPay (.bool b)) _
      cases b with
      | false => exact comesTo_unchanged rfl
      | true => exact comesTo_pays hr hopen rfl (by rfl)
  | int n =>
      simp only [Treatment.ofFee]
      split_ifs with hneg hzero hlt
      · exact ⟨_, rfl, rfl⟩
      · show r.ComesTo (r.testThenPay (.int n)) _
        exact comesTo_unchanged (decide_eq_true hzero)
      · show r.ComesTo (r.testThenPay (.int n)) _
        exact comesTo_pays hr hopen (decide_eq_false hzero) (if_pos ⟨not_lt.mp hneg, hlt⟩)
      · show r.ComesTo (r.testThenPay (.int n)) _
        exact comesTo_fails_amount hopen (decide_eq_false hzero) (if_neg fun h => hlt h.2)
  | double x =>
      simp only [Treatment.ofFee]
      split_ifs with hneg hzero
      · exact ⟨_, rfl, rfl⟩
      · show r.ComesTo (r.testThenPay (.double x)) _
        exact comesTo_unchanged hzero
      · show r.ComesTo (r.testThenPay (.double x)) _
        exact comesTo_fails_amount hopen (Bool.eq_false_iff.mpr hzero) rfl
  | _ => exact ⟨_, rfl, rfl⟩

/-- A fee that is zero is an amount, unless it is one of double precision. -/
lemma amountOf_of_isZero (h : fee.isZero = true) :
    Token.amountOf fee = if fee.isDoubleZero then .error .amount else .ok 0 := by
  cases fee with
  | int n =>
      obtain rfl : n = 0 := of_decide_eq_true h
      rfl
  | double x =>
      have hx : x.isZero = true := h
      simp [Json.isDoubleZero, hx, Token.amountOf, Json.toInt?]
  | bool b =>
      cases b with
      | false => rfl
      | true => cases h
  | _ => cases h

/-- **The order of the two steps matters for a zero of double precision only**: it can be tested, and
not be paid. -/
lemma payThenTest_eq (hopen : r.IsOpen) (fee : Json) :
    r.payThenTest fee = if fee.isDoubleZero then .error .amount else r.testThenPay fee := by
  cases hzero : fee.isZero with
  | false =>
      have hno := Json.isDoubleZero_eq_false hzero
      simp only [payThenTest, testThenPay, hzero, hno, Bool.false_eq_true, if_false]
  | true =>
      have hamount := amountOf_of_isZero hzero
      rw [testThenPay, if_pos hzero]
      split_ifs at hamount ⊢ with hdouble
      · rw [payThenTest, payment_of_no_amount hopen hamount]
        rfl
      · obtain ⟨ix, hpayment, -⟩ := payment_of_amount hopen hamount
        rw [payThenTest, hpayment, hzero]
        rfl

/-- A zero of double precision is a fee. -/
lemma fee_of_isDoubleZero {e : Reply.FeeEstimate} (h : e.inToken.isDoubleZero = true)
    (token : Json) : e.fee token = .ok e.inToken := by
  unfold Reply.FeeEstimate.fee
  cases hfee : e.inToken with
  | double x =>
      have hzero : x.isZero = true := by rwa [hfee] at h
      simp [Double.isNegative_of_isZero hzero]
  | _ => simp [hfee, Json.isDoubleZero] at h

/-- Tested first, it leaves nothing to pay. -/
lemma testThenPay_of_isDoubleZero {e : Reply.FeeEstimate} (h : e.inToken.isDoubleZero = true)
    (token : Json) : e.fee token >>= r.testThenPay = .ok r.unpaid := by
  rw [fee_of_isDoubleZero h]
  exact if_pos (Json.isZero_of_isDoubleZero h)

/-- Paid first, it is refused. -/
lemma payThenTest_of_isDoubleZero (hopen : r.IsOpen) {e : Reply.FeeEstimate}
    (h : e.inToken.isDoubleZero = true) (token : Json) :
    e.fee token >>= r.payThenTest = .error .amount := by
  rw [fee_of_isDoubleZero h]
  exact (payThenTest_eq hopen e.inToken).trans (if_pos h)

/-- **Paying first**, a route does what the fee asks for, but for the zeros of double precision. -/
lemma comesTo_payThenTest (hr : r.IsFaithful) (hopen : r.IsOpen) (e : Reply.FeeEstimate)
    (token : Json) :
    r.ComesTo (e.fee token >>= r.payThenTest)
      (if e.inToken.isDoubleZero then .fails .amount else .ofFee e.inToken) := by
  cases hdouble : e.inToken.isDoubleZero with
  | true => exact ⟨.amount, payThenTest_of_isDoubleZero hopen hdouble token, rfl⟩
  | false =>
      have hfirst := comesTo_testThenPay hr hopen e token
      cases hquoted : e.fee token with
      | error err =>
          rw [hquoted] at hfirst
          exact hfirst
      | ok amount =>
          obtain rfl := Reply.FeeEstimate.eq_inToken_of_fee hquoted
          rw [hquoted] at hfirst
          show r.ComesTo (r.payThenTest e.inToken) _
          rw [payThenTest_eq hopen, hdouble]
          exact hfirst

/-- **A faithful route comes to what the fee asks for, and to nothing else.** -/
lemma comesTo_iff_of_comesTo (hr : r.IsFaithful) {result : Except Error α} {σ : Treatment}
    (h : r.ComesTo result σ) (τ : Treatment) : r.ComesTo result τ ↔ τ = σ := by
  constructor
  · intro h'
    exact h'.unique hr h
  · rintro rfl
    exact h

end Route

end Payment

end Paymaster
