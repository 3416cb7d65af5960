import Mathlib
import Paymaster.Proofs.Appending
import Paymaster.Proofs.Sponsor

/-!
# Two ways to pay

A sponsor compiles all instructions anew to add the payment.  A client without one takes the text
that was estimated, and appends the payment to the transaction in it.  This file shows that both
come to the same message.

**The draft comes back.**  What the sponsor had estimated decodes to the message that it compiled,
so its instructions come back settled, and settled instructions compile alike with one more behind
them (`Sponsor.append_draft`).

**The payment is the same.**  A key survives its text, so the terms that name the sponsor's addresses
parse to them (`Sponsor.parties_terms`), and one reply makes one estimate (`estimate_unique`), from
which both make up the payment.  The main statement is `Sponsor.append_agrees_with_build`.
-/

namespace Paymaster

open Rpc Rpc.Action

namespace Payment

section Server

variable [Stack]

/-! ## One reply, one estimate -/

lemma estimate_eq_ok {transaction feeToken : Text} {e : Reply.FeeEstimate} {s s' : Exchange}
    (h : (estimate (.str transaction) (.str feeToken)).on s = (.ok e, s')) :
    ∃ reply v record, s.replies.head? = some reply ∧ resultIn reply = .ok v
      ∧ Reply.decode Method.estimateTransactionFee.reply.fields v = .ok record
      ∧ e = .ofRecord record := by
  obtain ⟨record, t, hcall, h⟩ := on_bind_eq_ok_iff.mp h
  obtain ⟨rfl, -⟩ := on_pure_eq_ok_iff.mp h
  obtain ⟨reply, v, hcompletes, hresult, hdecode⟩ := Method.call_completes hcall
  exact ⟨reply, v, record, hcompletes.head?_replies, hresult, hdecode, rfl⟩

/-- **One reply, one estimate**, whoever asked for what. -/
lemma estimate_unique {transaction feeToken other token : Text} {e e' : Reply.FeeEstimate}
    {s s' u u' : Exchange} (hreply : s.replies.head? = u.replies.head?)
    (h : (estimate (.str transaction) (.str feeToken)).on s = (.ok e, s'))
    (h' : (estimate (.str other) (.str token)).on u = (.ok e', u')) : e = e' := by
  obtain ⟨reply, v, record, hfirst, hresult, hdecode, rfl⟩ := estimate_eq_ok h
  obtain ⟨reply', v', record', hfirst', hresult', hdecode', rfl⟩ := estimate_eq_ok h'
  obtain rfl := Option.some.inj (hfirst.symm.trans (hreply.trans hfirst'))
  obtain rfl := Except.ok.inj (hresult.symm.trans hresult')
  obtain rfl := Except.ok.inj (hdecode.symm.trans hdecode')
  rfl

/-! ## From an estimate to a text -/

variable {terms : Terms} {p : Parties} {e : Reply.FeeEstimate} {amount : Json}
  {destination : PublicKey} {ix : Instruction} {u u' : Exchange}

/-- A payment is made up from what the estimate says. -/
lemma offer_of_estimate (hparties : terms.parties = .ok p)
    (hestimate : (estimate terms.transaction terms.feeToken).on u = (.ok e, u'))
    (hfee : e.fee terms.feeToken = .ok amount) (haddress : Spells e.paymentAddress destination)
    (hpayment : Token.payment p.wallet destination p.mint amount p.program = .ok ix) :
    ∃ o w, (offer terms).on u = (.ok o, w) ∧ Advances u' w 0 [] [] ∧ o.instruction = ix
      ∧ o.amount = amount := by
  have hdestination : parseAddress e.paymentAddress (.str "payment_address") = .ok destination :=
    parseAddress_eq_ok_iff.mpr haddress
  let o : Offer :=
    { transaction := terms.transaction, instruction := ix, amount, token := terms.feeToken
      address := e.paymentAddress, signer := e.signer }
  refine ⟨o, _, ?_, Quiet.note (.payment amount p.mint destination) u', rfl, rfl⟩
  rw [offer, on_bind, on_ofExcept, hparties]
  simp only [on_bind (estimate _ _), hestimate, on_bind (ofExcept _), on_ofExcept, hfee,
    hdestination, hpayment]
  rfl

/-- **What appending comes to**, when there is something to pay. -/
lemma append_of_estimate {tx paid : Transaction} {encoded : String}
    (hparties : terms.parties = .ok p)
    (hdecode : Transaction.decode .base64 terms.transaction = .ok tx)
    (hestimate : (estimate terms.transaction terms.feeToken).on u = (.ok e, u'))
    (hfee : e.fee terms.feeToken = .ok amount) (haddress : Spells e.paymentAddress destination)
    (hpayment : Token.payment p.wallet destination p.mint amount p.program = .ok ix)
    (hsome : amount.isZero = false) (hpaid : tx.append ix = .ok paid)
    (hencode : paid.encode .base64 = .ok encoded) :
    ∃ w, (append terms false).on u = (.ok (Text.ofString encoded), w) ∧ Advances u' w 0 [] [] := by
  obtain ⟨o, w, hoffer, hquiet, rfl, rfl⟩ :=
    offer_of_estimate hparties hestimate hfee haddress hpayment
  have hfinish : (finish tx o terms.transaction).on w = (.ok (Text.ofString encoded), w) := by
    simp only [finish, hsome, Bool.false_eq_true, if_false, on_bind, on_ofExcept, hpaid, hencode]
    rfl
  refine ⟨w, ?_, hquiet⟩
  simp only [append_eq, on_bind_eq_ok_iff, on_ofExcept_eq_ok_iff]
  exact ⟨p, u, ⟨hparties, rfl⟩, tx, u, ⟨hdecode, rfl⟩, (), u, rfl, o, w, hoffer, hfinish⟩

end Server

end Payment

namespace Sponsor

variable {sp : Sponsor} {ixs : List Instruction} {payment : Instruction} {text : String}

/-! ## The draft comes back -/

/-- Appending to what was drafted compiles the message that signing compiles, and leaves out the
signatures. -/
lemma append_draft {d : Draft} {m : Message} (hdraft : sp.sign d.asked d.hash = .ok d.text)
    (hkeeps : KeepsWritable sp.payer (d.asked ++ [payment]))
    (hm : Message.compile false sp.payer (d.asked ++ [payment]) d.hash = .ok m) :
    ∃ tx, Transaction.decode .base64 (.str d.text) = .ok tx
      ∧ tx.append payment = .ok (Transaction.unsigned m) := by
  obtain ⟨old, hold, -, -, hdecode⟩ := sign_eq_ok hdraft
  obtain ⟨-, hfew, hformat, hblockhash, -⟩ := Message.compile_eq_ok_iff.mp hold
  refine ⟨_, hdecode, Transaction.append_eq_ok_iff.mpr ⟨sp.payer, _, m,
    Message.head?_keys_of_compile hold, Message.expand_of_compile hold (hfew rfl), ?_, rfl⟩⟩
  have hversion : decide (old.format = .legacy) = false := by
    rw [hformat]
    rfl
  show Message.compile (decide (old.format = .legacy)) _ _ old.blockhash = _
  rw [hversion, hblockhash, Message.compile_settled hkeeps, hm]

/-! ## The payment is the same -/

lemma fee_of_pay {d : Draft} {e : Reply.FeeEstimate} {s s' : Exchange}
    (h : (sp.pay d e).on s = (.ok text, s')) :
    e.fee (.str sp.feeToken.text) = .ok e.inToken := by
  obtain ⟨amount, t, hquoted, -⟩ := on_bind_eq_ok_iff.mp h
  obtain ⟨hamount, -⟩ := on_ofExcept_eq_ok_iff.mp hquoted
  rw [hamount, Reply.FeeEstimate.eq_inToken_of_fee hamount]

/-- The terms on which a client pays for a transaction as the sponsor does. -/
def terms (sp : Sponsor) (transaction : String) : Payment.Terms where
  transaction := .str transaction
  feeToken := .str sp.feeToken.text
  sourceWallet := .str (Crypto.Ed25519.publicKey sp.wallet).text
  tokenProgram := .str sp.tokenProgram.text

section Server

variable [Stack]

lemma parties_terms (sp : Sponsor) (transaction : String) :
    (sp.terms transaction).parties
      = .ok ⟨sp.feeToken, Crypto.Ed25519.publicKey sp.wallet, sp.tokenProgram⟩ :=
  Payment.Terms.parties_eq_ok_iff.mpr
    ⟨⟨_, rfl, PublicKey.ofText?_text _⟩, ⟨_, rfl, PublicKey.ofText?_text _⟩,
      Or.inr ⟨_, rfl, PublicKey.ofText?_text _⟩⟩

/-- **The two ways to pay agree.**

Say a sponsor builds a text, and `unpaid` is what it has estimated meanwhile, when its client is at
`t`.  Let the fee in the estimate be positive, and its address the sponsor's.  If no key other than
the payer's that the budget, the instructions or the payment asks to write is reserved or called as a
program by one of them, then whoever asks for the estimate of `unpaid` and is given the same reply
can append the payment to it, with nothing more sent.  The result is a message without signatures,
and the text that the sponsor built is this message signed by the wallet. -/
theorem append_agrees_with_build {s s' : Exchange} (h : (sp.build ixs).on s = (.ok text, s')) :
    ∃ (unpaid : String) (first second : Response) (estimate : Json) (budget : List Instruction)
      (t : Exchange) (e : Reply.FeeEstimate) (t' : Exchange),
      Completes s t [blockhashCall] [first]
      ∧ (Payment.estimate (.str unpaid) (.str sp.feeToken.text)).on t = (.ok e, t')
      ∧ Completes t s' [Payment.estimateCall (.str unpaid) (.str sp.feeToken.text)] [second]
      ∧ resultIn second = .ok estimate
      ∧ ComputeBudget.instructions sp.unitLimit sp.unitPrice = .ok budget
      ∧ ∀ fee : ℕ, (estimate.member "fee_in_token").toInt? = some (fee : ℤ) → 0 < fee →
        Spells (estimate.member "payment_address") sp.paymentAddress →
        ∃ payment, sp.payment (estimate.member "fee_in_token") = .ok payment
          ∧ (KeepsWritable sp.payer (budget ++ ixs ++ [payment]) →
            ∀ u e' u', u.replies.head? = some second →
              (Payment.estimate (.str unpaid) (.str sp.feeToken.text)).on u = (.ok e', u') →
              ∃ m appended w, (Payment.append (sp.terms unpaid) false).on u = (.ok appended, w)
                ∧ Advances u' w 0 [] []
                ∧ Transaction.decode .base64 (.str appended) = .ok (Transaction.unsigned m)
                ∧ Transaction.decode .base64 (.str text)
                  = .ok (Transaction.partiallySign m [sp.wallet])
                ∧ (Transaction.partiallySign m [sp.wallet]).encode .base64 = .ok text) := by
  obtain ⟨record, t, d, e, t', hcall, hdraft, hestimate, hpay⟩ := build_eq_ok h
  obtain ⟨first, _, hfirst, -, -⟩ := Method.call_completes hcall
  obtain ⟨second, estimate, hsecond, hresult, hfee, haddress⟩ :=
    Payment.estimate_completes hestimate
  obtain ⟨budget, hbudget, hasked⟩ := asked_of_draft hdraft
  obtain ⟨-, hunpaid, -⟩ := draft_eq_ok hdraft
  have hquiet := (sp.pay_quiet d e).advances hpay
  refine ⟨d.text, first, second, estimate, budget, t, e, t', hfirst, hestimate,
    hsecond.trans_quiet hquiet, hresult, hbudget, ?_⟩
  intro fee hint hpos hspells
  rw [← hfee] at hint ⊢
  rw [← haddress] at hspells
  have hsome : e.inToken.isZero = false := by
    rw [Bool.eq_false_iff, Ne, Json.isZero_iff hint]
    omega
  obtain ⟨payment, hpayment, hsigned⟩ := pay_eq_ok_of_fee hsome hpay
  refine ⟨payment, hpayment, ?_⟩
  intro hkeeps u e' u' hreply hasking
  rw [← hasked] at hkeeps
  obtain rfl : e = e' :=
    Payment.estimate_unique (hsecond.head?_replies.trans hreply.symm) hestimate hasking
  obtain ⟨m, hm, hexpressible, hencode, hdecode⟩ := sign_eq_ok hsigned
  obtain ⟨tx, htx, happend⟩ := append_draft hunpaid hkeeps hm
  have hopen : (Transaction.unsigned m).Expressible :=
    (Transaction.expressible_unsigned_iff m).mpr ((Transaction.expressible_iff _).mp hexpressible).2
  obtain ⟨w, happended, hnothing⟩ := Payment.append_of_estimate (sp.parties_terms d.text) htx
    hasking (fee_of_pay hpay) hspells hpayment hsome happend
    (Transaction.encode_of_expressible .base64 hopen)
  exact ⟨m, _, w, happended, hnothing, Transaction.decode_textOf_toBytes .base64 hopen, hdecode,
    hencode⟩

end Server

/-- An estimate that names the address of `boundedSponsor`. -/
def homeEstimate : Json :=
  .obj [("fee_in_token", .int 5), ("payment_address", Payment.addressOf (Block.ofNat 32 13))]

/-- The budget of `boundedSponsor`. -/
def boundedBudget : List Instruction :=
  [{ program := Program.computeBudget, accounts := [], data := [2, 7, 0, 0, 0] }]

section Usual

open scoped Stack

/-- The sponsor's own client, just before it asks, can append what the sponsor pays. -/
theorem append_agrees_with_build_of_home :
    ∃ text s', (boundedSponsor.build [cosignedInstruction]).on (Payment.freshExchange
        [Payment.replyWith recentHash, Payment.replyWith homeEstimate]) = (.ok text, s')
      ∧ ∃ unpaid u m appended w,
        (Payment.append (boundedSponsor.terms unpaid) false).on u = (.ok appended, w)
        ∧ Transaction.decode .base64 (.str appended) = .ok (Transaction.unsigned m)
        ∧ (Transaction.partiallySign m [boundedSponsor.wallet]).encode .base64 = .ok text := by
  -- the kernel runs the sponsor here, and then makes up the payment again
  obtain ⟨text, s', h⟩ := exists_of_isOk (boundedSponsor.build [cosignedInstruction])
    (Payment.freshExchange [Payment.replyWith recentHash, Payment.replyWith homeEstimate])
    (by decide +kernel)
  have hbudget : ComputeBudget.instructions boundedSponsor.unitLimit boundedSponsor.unitPrice
      = .ok boundedBudget := rfl
  have hfacts : (resultIn (Payment.replyWith homeEstimate)).toOption.map (fun v =>
      ((v.member "fee_in_token").toInt?, (parseAddress (v.member "payment_address") .null).toOption,
        (boundedSponsor.payment (v.member "fee_in_token")).toOption.map fun payment =>
          decide (KeepsWritable boundedSponsor.payer
            (boundedBudget ++ [cosignedInstruction] ++ [payment]))))
        = some (some 5, some (Block.ofNat 32 13), some true) := by
    decide +kernel
  obtain ⟨unpaid, first, second, estimate, budget, t, e, t', hfirst, hestimate, hsecond, hresult,
    hsame, hagree⟩ := append_agrees_with_build h
  obtain rfl := Except.ok.inj (hsame.symm.trans hbudget)
  have hreply := hsecond.head?_replies
  obtain rfl : second = Payment.replyWith homeEstimate :=
    (List.cons.inj (List.cons.inj (hfirst.trans hsecond).served_eq).2).1
  rw [hresult] at hfacts
  obtain ⟨hint, haddress, hkeeps⟩ : _ ∧ _ ∧ _ := by
    simpa only [Except.toOption, Option.map_some, Option.some.injEq, Prod.mk.injEq] using hfacts
  obtain ⟨payment, hpayment, hboth⟩ := hagree 5 hint (by decide)
    (parseAddress_eq_ok_iff.mp (toOption_eq_some_iff.mp haddress))
  rw [hpayment] at hkeeps
  obtain ⟨m, appended, w, happended, -, hopen, -, hsigned⟩ := hboth
    (of_decide_eq_true (Option.some.inj hkeeps)) t e t' hreply hestimate
  exact ⟨text, s', h, unpaid, t, m, appended, w, happended, hopen, hsigned⟩

end Usual

end Sponsor

end Paymaster
