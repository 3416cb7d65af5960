import Mathlib
import Paymaster.Proofs.Payment
import Paymaster.Proofs.Recompile
import Paymaster.Proofs.WireFormat
import Paymaster.Sponsor

/-!
# What a sponsor submits

A sponsor compiles and signs twice: once to have the fee estimated, and once with the payment.
The keys of the two messages can stand in different places, so nothing is carried over from the
first to the second but the instructions.

**Budgets.**  `ComputeBudget.Sets` says which instructions a setting asks for.

**Signing.**  `Carries` says of a transaction that it is from a payer, for some instructions, and
signed by a wallet wherever the wallet must sign and nowhere else.  Whatever text a sponsor signs
decodes to such a transaction (`sign_carries`).

**The flow.**  `Builds` says what the two texts of a run have to be, given the results of its two
calls: both carry what was asked for, and the second carries the payment of the fee too.  Whatever
the replies are, a run that gives a text builds it so (`build_completes`).
-/

namespace Paymaster

open Rpc Rpc.Action

/-! ## Budgets -/

namespace ComputeBudget

/-- The instructions that a setting asks for: none while it is null, and otherwise one that holds
its number. -/
def Sets (kind : UInt8) (width : ℕ) (v : Json) (ixs : List Instruction) : Prop :=
  (v = .null ∧ ixs = [])
    ∨ ∃ (n : ℕ) (number : Bytes), v.toInt? = some (n : ℤ) ∧ number.length = width
      ∧ Bytes.ofLittleEndian number = n
      ∧ ixs = [{ program := Program.computeBudget, accounts := [], data := kind :: number }]

lemma field_eq_ok {width : ℕ} {v : Json} {number : Bytes} (h : field width v = .ok number) :
    ∃ n : ℕ, v.toInt? = some (n : ℤ) ∧ number.length = width
      ∧ Bytes.ofLittleEndian number = n := by
  unfold field at h
  cases hint : v.toInt? with
  | none =>
      rw [hint] at h
      cases h
  | some k =>
      rw [hint] at h
      simp only at h
      split_ifs at h with hk
      obtain rfl := Except.ok.inj h
      have hlt : k.toNat < Nat.pow 256 width := by omega
      refine ⟨k.toNat, ?_, Bytes.length_littleEndian _ _, ?_⟩
      · rw [Int.toNat_of_nonneg hk.1]
      · rw [Bytes.ofLittleEndian_littleEndian, Nat.mod_eq_of_lt hlt]

lemma setting_sets {kind : UInt8} {width : ℕ} {v : Json} {ixs : List Instruction}
    (h : setting kind width v = .ok ixs) : Sets kind width v ixs := by
  unfold setting at h
  split at h
  · exact Or.inl ⟨rfl, (Except.ok.inj h).symm⟩
  · obtain ⟨number, hnumber, h⟩ := bind_eq_ok_iff.mp h
    obtain ⟨n, hint, hlength, hvalue⟩ := field_eq_ok hnumber
    exact Or.inr ⟨n, number, hint, hlength, hvalue, (Except.ok.inj h).symm⟩

/-- **A budget** is what its two settings ask for, the bound first. -/
lemma instructions_sets {limit price : Json} {budget : List Instruction}
    (h : instructions limit price = .ok budget) :
    ∃ limits prices, budget = limits ++ prices ∧ Sets 2 4 limit limits ∧ Sets 3 8 price prices := by
  obtain ⟨limits, hlimits, h⟩ := bind_eq_ok_iff.mp h
  obtain ⟨prices, hprices, h⟩ := bind_eq_ok_iff.mp h
  exact ⟨limits, prices, (Except.ok.inj h).symm, setting_sets hlimits, setting_sets hprices⟩

end ComputeBudget

/-! ## Signing -/

namespace Transaction

/-- A transaction has one place for a signature for each signer that its header requires; it holds
the signature of a wallet where the key is the wallet's, and is open everywhere else. -/
def SignedBy (wallet : Crypto.Ed25519.Seed) (tx : Transaction) : Prop :=
  tx.signatures.length = tx.message.header.required.toNat
    ∧ ∀ i < tx.message.header.required.toNat, ∃ key, tx.message.keys[i]? = some key
      ∧ tx.signatures[i]? = some
        (if key = Crypto.Ed25519.publicKey wallet then Crypto.Ed25519.sign wallet tx.message.toBytes
          else noSignature)

/-- A transaction of version 0 carries out some instructions for a payer, at a block hash, and is
signed by a wallet and by nobody else. -/
structure Carries (payer : PublicKey) (wallet : Crypto.Ed25519.Seed) (hash : Blockhash)
    (asked : List Instruction) (tx : Transaction) : Prop where
  format : tx.message.format = .v0 []
  firstKey : tx.message.keys.head? = some payer
  blockhash : tx.message.blockhash = hash
  instructions : ∃ after, tx.message.expand = .ok after
    ∧ List.Forall₂ (Restates payer tx.message.keys asked) asked after
  signatures : SignedBy wallet tx

lemma signatureBy_singleton (wallet : Crypto.Ed25519.Seed) (payload : Bytes) (key : PublicKey) :
    signatureBy [(Crypto.Ed25519.publicKey wallet, wallet)] payload key
      = if key = Crypto.Ed25519.publicKey wallet then Crypto.Ed25519.sign wallet payload
        else noSignature := by
  unfold signatureBy
  by_cases h : key = Crypto.Ed25519.publicKey wallet
  · simp [h]
  · have hother : (key == Crypto.Ed25519.publicKey wallet) = false := beq_eq_false_iff_ne.mpr h
    simp [h, List.lookup_cons, hother]

/-- **Signing fills the right places**, if the message has a key for each signer. -/
lemma partiallySign_signedBy {m : Message} (wallet : Crypto.Ed25519.Seed)
    (h : m.header.required.toNat ≤ m.keys.length) : SignedBy wallet (partiallySign m [wallet]) := by
  constructor
  · simpa [partiallySign] using h
  · intro i (hi : i < m.header.required.toNat)
    have hlt : i < m.keys.length := lt_of_lt_of_le hi h
    refine ⟨m.keys[i], List.getElem?_eq_getElem hlt, ?_⟩
    rw [← signatureBy_singleton]
    simp only [partiallySign, List.map_singleton, List.getElem?_map]
    rw [List.getElem?_take_of_lt hi, List.getElem?_eq_getElem hlt]
    rfl

end Transaction

namespace Sponsor

/-- What a sponsor signs is the text of a message that it compiled, with the wallet's signature. -/
lemma sign_eq_ok {sp : Sponsor} {asked : List Instruction} {hash : Blockhash} {text : String}
    (h : sp.sign asked hash = .ok text) :
    ∃ m, Message.compile false sp.payer asked hash = .ok m
      ∧ (Transaction.partiallySign m [sp.wallet]).Expressible
      ∧ (Transaction.partiallySign m [sp.wallet]).encode .base64 = .ok text
      ∧ Transaction.decode .base64 (.str text) = .ok (Transaction.partiallySign m [sp.wallet]) := by
  obtain ⟨m, hcompile, hencode⟩ := bind_eq_ok_iff.mp h
  obtain ⟨-, -, hformat, -⟩ := Message.compile_eq_ok_iff.mp hcompile
  refine ⟨m, hcompile, ?_⟩
  unfold Transaction.encode at hencode
  split_ifs at hencode with hfits
  obtain rfl := Except.ok.inj hencode
  -- version 0 has no bound on the signers, so that what fits can be told from its bytes
  have hexpressible : (Transaction.partiallySign m [sp.wallet]).Expressible := by
    refine ⟨hfits, fun hlegacy => ?_⟩
    cases hformat.symm.trans hlegacy
  exact ⟨hexpressible, Transaction.encode_of_expressible .base64 hexpressible,
    Transaction.decode_textOf_toBytes .base64 hexpressible⟩

/-- **Whatever a sponsor signs** decodes to a transaction that carries just that. -/
lemma sign_carries {sp : Sponsor} {asked : List Instruction} {hash : Blockhash} {text : String}
    (h : sp.sign asked hash = .ok text) :
    ∃ tx, Transaction.decode .base64 (.str text) = .ok tx
      ∧ tx.Carries sp.payer sp.wallet hash asked := by
  obtain ⟨m, hcompile, -, -, hdecode⟩ := sign_eq_ok h
  obtain ⟨-, hfew, hformat, hblockhash, -⟩ := Message.compile_eq_ok_iff.mp hcompile
  have hexpand := Message.expand_of_compile hcompile (hfew rfl)
  have hrequired : m.header.required.toNat ≤ m.keys.length :=
    Nat.le_of_add_right_le (Message.counted_of_compile hcompile)
  refine ⟨_, hdecode, hformat, Message.head?_keys_of_compile hcompile, hblockhash, ⟨_, hexpand, ?_⟩,
    Transaction.partiallySign_signedBy sp.wallet hrequired⟩
  rw [List.forall₂_map_right_iff]
  exact List.forall₂_same.mpr fun ix _ => settle_restates sp.payer _ asked ix

/-- The payment that a fee asks for: none if it is zero, and otherwise one instruction, which pays
just the fee from the wallet to the server. -/
def Settles (sp : Sponsor) (fee : Json) (payments : List Instruction) : Prop :=
  (fee.isZero = true ∧ payments = [])
    ∨ (fee.isZero = false ∧ ∃ (n : ℕ) (ix : Instruction), fee.toInt? = some (n : ℤ)
      ∧ n < 2 ^ 64 ∧ payments = [ix]
      ∧ Token.Pays ix (Crypto.Ed25519.publicKey sp.wallet) sp.paymentAddress sp.feeToken
        sp.tokenProgram n)

/-- The call for a recent block hash. -/
def blockhashCall : Call where
  method := .str "getBlockhash"
  params := .null

/-- The call that has a transaction signed and sent. -/
def sendCall (transaction : Text) : Call where
  method := .str "signAndSendTransaction"
  params := .obj [("transaction", .str transaction)]

lemma callOf_send (transaction : Text) :
    Method.signAndSendTransaction.callOf [("transaction", .str transaction)]
      = sendCall transaction := rfl

/-- The calls for building a transaction, with the one whose fee is estimated. -/
def buildCalls (sp : Sponsor) (unpaid : String) : List Call :=
  [blockhashCall, Payment.estimateCall (.str unpaid) (.str sp.feeToken.text)]

/-- A transaction without its payment, and what it was made of. -/
structure Draft where
  hash : Blockhash
  asked : List Instruction
  text : String

/-- Makes up and signs the transaction whose fee is to be estimated. -/
def draft (sp : Sponsor) (ixs : List Instruction)
    (record : Reply.Record Reply.Catalog.blockhash.fields) : Except Error Draft := do
  let hash ← parseBlockhash (Reply.blockhashOf record)
  let budget ← ComputeBudget.instructions sp.unitLimit sp.unitPrice
  let text ← sp.sign (budget ++ ixs) hash
  return { hash, asked := budget ++ ixs, text }

/-- Adds the payment that an estimate asks for. -/
def pay (sp : Sponsor) (d : Draft) (estimate : Reply.FeeEstimate) : Action String := do
  let amount ← ofExcept (estimate.fee (.str sp.feeToken.text))
  if amount.isZero then
    note .unpaid
    return d.text
  else
    let payment ← ofExcept (sp.payment amount)
    note (.paying amount sp.feeToken sp.paymentAddress)
    ofExcept (sp.sign (d.asked ++ [payment]) d.hash)

lemma pay_quiet (sp : Sponsor) (d : Draft) (estimate : Reply.FeeEstimate) :
    Quiet (sp.pay d estimate) := by
  refine (Quiet.ofExcept _).bind fun amount => ?_
  cases amount.isZero with
  | true => exact (Quiet.note _).bind fun _ => Quiet.pure _
  | false => exact (Quiet.ofExcept _).bind fun _ => (Quiet.note _).bind fun _ => Quiet.ofExcept _

/-- **A draft** is signed for the budget and the instructions, at the block hash of the reply. -/
lemma draft_eq_ok {sp : Sponsor} {ixs : List Instruction}
    {record : Reply.Record Reply.Catalog.blockhash.fields} {d : Draft}
    (h : sp.draft ixs record = .ok d) :
    parseBlockhash (Reply.blockhashOf record) = .ok d.hash
      ∧ sp.sign d.asked d.hash = .ok d.text
      ∧ ∃ limits prices, ComputeBudget.Sets 2 4 sp.unitLimit limits
        ∧ ComputeBudget.Sets 3 8 sp.unitPrice prices ∧ d.asked = limits ++ prices ++ ixs := by
  simp only [draft, bind_eq_ok_iff, pure_eq_ok_iff] at h
  obtain ⟨hash, hhash, budget, hbudget, text, hsign, rfl⟩ := h
  obtain ⟨limits, prices, rfl, hlimits, hprices⟩ := ComputeBudget.instructions_sets hbudget
  exact ⟨hhash, hsign, limits, prices, hlimits, hprices, rfl⟩

/-- What a draft asks for is the budget and the instructions. -/
lemma asked_of_draft {sp : Sponsor} {ixs : List Instruction}
    {record : Reply.Record Reply.Catalog.blockhash.fields} {d : Draft}
    (h : sp.draft ixs record = .ok d) :
    ∃ budget, ComputeBudget.instructions sp.unitLimit sp.unitPrice = .ok budget
      ∧ d.asked = budget ++ ixs := by
  simp only [draft, bind_eq_ok_iff, pure_eq_ok_iff] at h
  obtain ⟨_, -, budget, hbudget, _, -, rfl⟩ := h
  exact ⟨budget, hbudget, rfl⟩

/-- With a fee to pay, what is given is signed for the draft and the payment. -/
lemma pay_eq_ok_of_fee {sp : Sponsor} {d : Draft} {e : Reply.FeeEstimate} {text : String}
    {s s' : Exchange} (hfee : e.inToken.isZero = false)
    (h : (sp.pay d e).on s = (.ok text, s')) :
    ∃ payment, sp.payment e.inToken = .ok payment
      ∧ sp.sign (d.asked ++ [payment]) d.hash = .ok text := by
  obtain ⟨amount, t, hquoted, hrest⟩ := on_bind_eq_ok_iff.mp h
  obtain ⟨hamount, rfl⟩ := on_ofExcept_eq_ok_iff.mp hquoted
  obtain rfl := Reply.FeeEstimate.eq_inToken_of_fee hamount
  simp only [hfee, Bool.false_eq_true, if_false, on_bind_eq_ok_iff,
    on_ofExcept_eq_ok_iff] at hrest
  obtain ⟨payment, _, ⟨hpayment, rfl⟩, -, -, -, hsign, -⟩ := hrest
  exact ⟨payment, hpayment, hsign⟩

/-- **What is given after an estimate** is signed for the draft and the payment of the fee. -/
lemma pay_eq_ok {sp : Sponsor} {d : Draft} {e : Reply.FeeEstimate} {text : String}
    {s s' : Exchange} (hdraft : sp.sign d.asked d.hash = .ok d.text)
    (h : (sp.pay d e).on s = (.ok text, s')) :
    ∃ payments, sp.Settles e.inToken payments
      ∧ sp.sign (d.asked ++ payments) d.hash = .ok text := by
  cases hzero : e.inToken.isZero with
  | true =>
      obtain ⟨amount, t, hfee, hrest⟩ := on_bind_eq_ok_iff.mp h
      obtain ⟨hamount, rfl⟩ := on_ofExcept_eq_ok_iff.mp hfee
      obtain rfl := Reply.FeeEstimate.eq_inToken_of_fee hamount
      simp only [hzero, if_true, on_bind_eq_ok_iff, on_pure_eq_ok_iff] at hrest
      obtain ⟨-, -, -, rfl, -⟩ := hrest
      refine ⟨[], Or.inl ⟨hzero, rfl⟩, ?_⟩
      rw [List.append_nil]
      exact hdraft
  | false =>
      obtain ⟨ix, hix, hsign⟩ := pay_eq_ok_of_fee hzero h
      obtain ⟨fee, hint, hlt, hpays⟩ := Token.payment_pays hix
      exact ⟨[ix], Or.inr ⟨hzero, fee, ix, hint, hlt, rfl, hpays⟩, hsign⟩

section Steps

variable [Stack]

/-- **Building in four steps**: it asks for a block hash, signs without the payment, asks for the
estimate, and pays. -/
lemma build_eq (sp : Sponsor) (ixs : List Instruction) :
    sp.build ixs = (do
      let record ← Method.getBlockhash.call []
      let d ← ofExcept (sp.draft ixs record)
      let e ← Payment.estimate (.str d.text) (.str sp.feeToken.text)
      sp.pay d e) := by
  simp only [build, draft, pay, ofExcept_bind, bind_assoc]
  rfl

/-- What is drafted is what is sent to be estimated. -/
lemma build_posts_of_draft {sp : Sponsor} {ixs : List Instruction}
    {record : Reply.Record Reply.Catalog.blockhash.fields} {d : Draft} {s t : Exchange}
    (hcall : (Method.getBlockhash.call []).on s = (.ok record, t))
    (hdraft : sp.draft ixs record = .ok d) :
    Posts s ((sp.build ixs).on s).2 (sp.buildCalls d.text) := by
  have hfirst := Method.call_posts Method.getBlockhash [] s
  obtain ⟨reply, _, hcompletes, -⟩ := Method.call_completes hcall
  rw [hcall] at hfirst
  simp only [build_eq, on_bind (Method.call _ _), hcall, on_bind (ofExcept _), on_ofExcept, hdraft]
  exact hfirst.trans hcompletes
    ((Payment.estimate_posts _ _ t).bind_quiet fun e => sp.pay_quiet d e)

/-- Without a draft, nothing is sent to be estimated. -/
lemma build_posts_of_no_draft {sp : Sponsor} {ixs : List Instruction} {s : Exchange}
    (hnone : ∀ record t d, (Method.getBlockhash.call []).on s = (.ok record, t) →
      sp.draft ixs record ≠ .ok d) :
    Posts s ((sp.build ixs).on s).2 [blockhashCall]
      ∧ ∃ err, ((sp.build ixs).on s).1 = .error err := by
  have hfirst := Method.call_posts Method.getBlockhash [] s
  simp only [build_eq, on_bind (Method.call _ _)]
  cases hcall : (Method.getBlockhash.call []).on s with
  | mk r t =>
      rw [hcall] at hfirst
      cases r with
      | error err => exact ⟨hfirst, err, rfl⟩
      | ok record =>
          simp only [on_bind (ofExcept _), on_ofExcept]
          cases hdraft : sp.draft ixs record with
          | error err => exact ⟨hfirst, err, rfl⟩
          | ok d => exact absurd hdraft (hnone record t d hcall)

/-- **Building asks for a block hash and an estimate**, and sends nothing else. -/
lemma build_posts (sp : Sponsor) (ixs : List Instruction) (s : Exchange) :
    ∃ unpaid, Posts s ((sp.build ixs).on s).2 (sp.buildCalls unpaid) := by
  by_cases hsome : ∃ record t d, (Method.getBlockhash.call []).on s = (.ok record, t)
      ∧ sp.draft ixs record = .ok d
  · obtain ⟨record, t, d, hcall, hdraft⟩ := hsome
    exact ⟨d.text, build_posts_of_draft hcall hdraft⟩
  · push Not at hsome
    exact ⟨"", (build_posts_of_no_draft hsome).1.weaken _⟩

lemma build_attempts (sp : Sponsor) (ixs : List Instruction) (s : Exchange) :
    ∃ unpaid, Attempts s ((sp.build ixs).on s).2 (sp.buildCalls unpaid) := by
  obtain ⟨unpaid, hposts⟩ := sp.build_posts ixs s
  exact ⟨unpaid, hposts.attempts⟩

/-- What a sponsor builds of some instructions from two results: a text to be estimated, which
carries the budget and the instructions, and a text to be sent, which carries the payment of the
fee too. -/
def Builds (sp : Sponsor) (ixs : List Instruction) (recent estimate : Json)
    (unpaid text : String) : Prop :=
  ∃ hash limits prices payments,
    parseBlockhash (recent.member "blockhash") = .ok hash
    ∧ ComputeBudget.Sets 2 4 sp.unitLimit limits
    ∧ ComputeBudget.Sets 3 8 sp.unitPrice prices
    ∧ sp.Settles (estimate.member "fee_in_token") payments
    ∧ (∃ tx, Transaction.decode .base64 (.str unpaid) = .ok tx
      ∧ tx.Carries sp.payer sp.wallet hash (limits ++ prices ++ ixs))
    ∧ ∃ tx, Transaction.decode .base64 (.str text) = .ok tx
      ∧ tx.Carries sp.payer sp.wallet hash (limits ++ prices ++ ixs ++ payments)

lemma build_eq_ok {sp : Sponsor} {ixs : List Instruction} {text : String} {s s' : Exchange}
    (h : (sp.build ixs).on s = (.ok text, s')) :
    ∃ record t d e u, (Method.getBlockhash.call []).on s = (.ok record, t)
      ∧ sp.draft ixs record = .ok d
      ∧ (Payment.estimate (.str d.text) (.str sp.feeToken.text)).on t = (.ok e, u)
      ∧ (sp.pay d e).on u = (.ok text, s') := by
  rw [build_eq] at h
  obtain ⟨record, t, hcall, hrest⟩ := on_bind_eq_ok_iff.mp h
  obtain ⟨d, _, hd, hpaid⟩ := on_bind_eq_ok_iff.mp hrest
  obtain ⟨hdraft, rfl⟩ := on_ofExcept_eq_ok_iff.mp hd
  obtain ⟨e, u, hestimate, hpay⟩ := on_bind_eq_ok_iff.mp hpaid
  exact ⟨record, _, d, e, u, hcall, hdraft, hestimate, hpay⟩

/-- Building with success has made both calls. -/
lemma build_made {sp : Sponsor} {ixs : List Instruction} {text : String} {s s' : Exchange}
    (h : (sp.build ixs).on s = (.ok text, s')) :
    ∃ unpaid served, Posts s s' (sp.buildCalls unpaid)
      ∧ Completes s s' (sp.buildCalls unpaid) served := by
  obtain ⟨record, t, d, e, u, hcall, -, hestimate, hpay⟩ := build_eq_ok h
  obtain ⟨first, _, hfirst, -⟩ := Method.call_completes hcall
  obtain ⟨second, _, hsecond, -⟩ := Payment.estimate_completes hestimate
  have hasked := Method.call_posts Method.getBlockhash [] s
  have hestimated := Payment.estimate_posts (.str d.text) (.str sp.feeToken.text) t
  rw [hcall] at hasked
  rw [hestimate] at hestimated
  have hquiet := (sp.pay_quiet d e).advances hpay
  exact ⟨d.text, [first] ++ [second], (hasked.trans hfirst hestimated).trans_quiet hquiet,
    (hfirst.trans hsecond).trans_quiet hquiet⟩

/-- **Building with success** has made both calls, and follows their results. -/
lemma build_completes {sp : Sponsor} {ixs : List Instruction} {text : String} {s s' : Exchange}
    (h : (sp.build ixs).on s = (.ok text, s')) :
    ∃ unpaid first second recent estimate,
      Completes s s' (sp.buildCalls unpaid) [first, second]
      ∧ resultIn first = .ok recent ∧ resultIn second = .ok estimate
      ∧ sp.Builds ixs recent estimate unpaid text := by
  obtain ⟨record, t, d, e, u, hcall, hdraft, hestimate, hpay⟩ := build_eq_ok h
  obtain ⟨first, recent, hfirst, hrecent, hdecode⟩ := Method.call_completes hcall
  obtain ⟨second, estimate, hsecond, hresult, hfee, -⟩ := Payment.estimate_completes hestimate
  obtain ⟨hhash, hunpaid, limits, prices, hlimits, hprices, hasked⟩ := draft_eq_ok hdraft
  obtain ⟨payments, hsettles, hsigned⟩ := pay_eq_ok hunpaid hpay
  have hquiet := (sp.pay_quiet d e).advances hpay
  rw [Reply.blockhash_of_decode hdecode] at hhash
  rw [hfee] at hsettles
  rw [hasked] at hunpaid hsigned
  exact ⟨d.text, first, second, recent, estimate, (hfirst.trans hsecond).trans_quiet hquiet,
    hrecent, hresult, d.hash, limits, prices, payments, hhash, hlimits, hprices, hsettles,
    sign_carries hunpaid, sign_carries hsigned⟩

/-- **Submitting goes on with the text that was built**, and ends where building fails. -/
lemma submit_posts {sp : Sponsor} {ixs : List Instruction} {text : String} {s s' : Exchange}
    (h : (sp.build ixs).on s = (.ok text, s')) :
    Posts s' ((sp.submit ixs).on s).2 [sendCall text] := by
  rw [submit, on_bind, h, ← callOf_send]
  exact (Method.call_posts _ _ s').bind_quiet fun _ => Quiet.ofExcept _

lemma submit_attempts {sp : Sponsor} {ixs : List Instruction} {text : String} {s s' : Exchange}
    (h : (sp.build ixs).on s = (.ok text, s')) :
    Attempts s' ((sp.submit ixs).on s).2 [sendCall text] :=
  (submit_posts h).attempts

lemma submit_completes {sp : Sponsor} {ixs : List Instruction} {text : String}
    {signature : Signature} {s s' s'' : Exchange} (h : (sp.build ixs).on s = (.ok text, s'))
    (hsubmit : (sp.submit ixs).on s = (.ok signature, s'')) :
    ∃ reply, Completes s' s'' [sendCall text] [reply] := by
  rw [submit, on_bind, h] at hsubmit
  obtain ⟨record, t, hcall, hsent⟩ := on_bind_eq_ok_iff.mp hsubmit
  obtain ⟨-, rfl⟩ := on_ofExcept_eq_ok_iff.mp hsent
  obtain ⟨reply, _, hreply, -⟩ := Method.call_completes hcall
  exact ⟨reply, hreply⟩

lemma submit_refused {sp : Sponsor} {ixs : List Instruction} {e : Error} {s s' : Exchange}
    (h : (sp.build ixs).on s = (.error e, s')) : (sp.submit ixs).on s = (.error e, s') := by
  rw [submit, on_bind, h]

/-- **Submitting asks for a block hash and an estimate and has one text sent**, and sends nothing
else. -/
lemma submit_posts_all (sp : Sponsor) (ixs : List Instruction) (s : Exchange) :
    ∃ unpaid text : String,
      Posts s ((sp.submit ixs).on s).2 (sp.buildCalls unpaid ++ [sendCall text]) := by
  cases h : (sp.build ixs).on s with
  | mk r t =>
      cases r with
      | error e =>
          obtain ⟨unpaid, hposts⟩ := sp.build_posts ixs s
          refine ⟨unpaid, "", ?_⟩
          rw [submit_refused h]
          rw [h] at hposts
          exact hposts.weaken _
      | ok text =>
          obtain ⟨unpaid, served, hposts, hcompletes⟩ := build_made h
          exact ⟨unpaid, text, hposts.trans hcompletes (submit_posts h)⟩

lemma submit_attempts_all (sp : Sponsor) (ixs : List Instruction) (s : Exchange) :
    ∃ unpaid text,
      Attempts s ((sp.submit ixs).on s).2 (sp.buildCalls unpaid ++ [sendCall text]) := by
  obtain ⟨unpaid, text, hposts⟩ := sp.submit_posts_all ixs s
  exact ⟨unpaid, text, hposts.attempts⟩

/-- **A sponsor submits only what it was asked for and the quoted payment.**

* Building asks for a block hash and for an estimate, in this order, and sends nothing else.
  Submitting sends one request more.
* Where building fails, submitting fails in the same way, with nothing more sent.
* Where building gives a text, submitting goes on with just this text, and succeeds only if it was
  sent.  Both calls of building were answered, and the text follows from the results as `Builds`
  says: it decodes to a transaction of version 0 from the payer at the block hash of the first.  The
  instructions are the budget's, those that were given, and, unless the fee in the second is zero,
  one that pays just this fee.  The wallet has signed this message wherever its key must sign, and
  every other place is open. -/
theorem submits_what_was_asked (sp : Sponsor) (ixs : List Instruction) (s : Exchange) :
    (∃ unpaid, Attempts s ((sp.build ixs).on s).2 (sp.buildCalls unpaid))
      ∧ (∃ unpaid text,
        Attempts s ((sp.submit ixs).on s).2 (sp.buildCalls unpaid ++ [sendCall text]))
      ∧ (∀ e s', (sp.build ixs).on s = (.error e, s') → (sp.submit ixs).on s = (.error e, s'))
      ∧ ∀ text s', (sp.build ixs).on s = (.ok text, s') →
        Attempts s' ((sp.submit ixs).on s).2 [sendCall text]
        ∧ (∀ signature s'', (sp.submit ixs).on s = (.ok signature, s'') →
          ∃ reply, Completes s' s'' [sendCall text] [reply])
        ∧ ∃ unpaid first second recent estimate,
          Completes s s' (sp.buildCalls unpaid) [first, second]
          ∧ resultIn first = .ok recent ∧ resultIn second = .ok estimate
          ∧ sp.Builds ixs recent estimate unpaid text := by
  refine ⟨sp.build_attempts ixs s, sp.submit_attempts_all ixs s, fun e s' h => submit_refused h, ?_⟩
  intro text s' h
  exact ⟨submit_attempts h, fun signature s'' hsubmit => submit_completes h hsubmit,
    build_completes h⟩

end Steps

/-- A sponsor with a bound on the work and no price. -/
def boundedSponsor : Sponsor where
  feeToken := Block.ofNat 32 5
  wallet := Block.ofNat 32 11
  payer := Block.ofNat 32 12
  paymentAddress := Block.ofNat 32 13
  tokenProgram := Program.token
  unitLimit := .int 7
  unitPrice := .null

/-- An instruction with an account that signs for itself and one that is only written. -/
def cosignedInstruction : Instruction where
  program := Block.ofNat 32 20
  accounts := [⟨Block.ofNat 32 21, true, true⟩, ⟨Block.ofNat 32 22, false, true⟩]
  data := [7]

/-- A recent block hash. -/
def recentHash : Json :=
  .obj [("blockhash", Payment.addressOf (Block.ofNat 32 3))]

/-- An estimate of a fee. -/
def fiveEstimate : Json :=
  .obj [("fee_in_token", .int 5)]

section Usual

open scoped Stack

/-- Around an instruction that somebody else signs too, the sponsor bounds the work and pays the
fee. -/
theorem submits_what_was_asked_of_five :
    ∃ text s', (boundedSponsor.build [cosignedInstruction]).on (Payment.freshExchange
        [Payment.replyWith recentHash, Payment.replyWith fiveEstimate]) = (.ok text, s')
      ∧ ∃ hash limits prices ix tx,
        Token.Pays ix (Crypto.Ed25519.publicKey boundedSponsor.wallet) (Block.ofNat 32 13)
          (Block.ofNat 32 5) Program.token 5
        ∧ Transaction.decode .base64 (.str text) = .ok tx
        ∧ tx.Carries (Block.ofNat 32 12) boundedSponsor.wallet hash
          (limits ++ prices ++ [cosignedInstruction] ++ [ix]) := by
  have hfee : (resultIn (Payment.replyWith fiveEstimate)).toOption.map
      (fun v => ((v.member "fee_in_token").toInt?, (v.member "fee_in_token").isZero))
        = some (some 5, false) := by decide +kernel
  -- the kernel compiles and signs both messages here
  obtain ⟨text, s', h⟩ := exists_of_isOk (boundedSponsor.build [cosignedInstruction])
    (Payment.freshExchange [Payment.replyWith recentHash, Payment.replyWith fiveEstimate])
    (by decide +kernel)
  obtain ⟨-, -, unpaid, first, second, recent, estimate, hcompletes, -, hresult, hash, limits,
    prices, payments, -, -, -, hsettles, -, tx, htx, hcarries⟩ :=
    (submits_what_was_asked boundedSponsor [cosignedInstruction] _).2.2.2 text s' h
  obtain rfl : second = Payment.replyWith fiveEstimate :=
    (List.cons.inj (List.cons.inj hcompletes.served_eq).2).1
  rw [hresult] at hfee
  obtain ⟨hint, hzero⟩ := Prod.mk.inj (Option.some.inj hfee)
  obtain ⟨hnone, -⟩ | ⟨-, n, ix, hn, -, rfl, hpays⟩ := hsettles
  · rw [hzero] at hnone
    cases hnone
  · obtain rfl : 5 = n := by exact_mod_cast Option.some.inj (hint.symm.trans hn)
    exact ⟨text, s', h, hash, limits, prices, ix, tx, hpays, htx, hcarries⟩

end Usual

end Sponsor

end Paymaster
