import Mathlib
import Paymaster.Proofs.AppendedTexts
import Paymaster.Proofs.PaymentPaths
import Paymaster.Proofs.Treatments

/-!
# The two ways to pay and a quoted fee

Whoever appends a payment makes it up before it looks whether there is anything to pay.  A sponsor
looks first.  This file says for which fees this makes a difference.

**Routes.**  Both are routes that pay (`Payment.appendRoute`, `Sponsor.route`), and on both of them
payments can be told apart from their texts (`appendRoute_isFaithful`, `route_isFaithful`).

**Results.**  From the estimate on, both do nothing but pay and test, in their order
(`Payment.append_result`, `Sponsor.build_result`).

The main statement is `Sponsor.flows_treat_fees_alike_iff`.  What makes the difference is shown by a
fee of five, which both pay, and by one of `0.0` (`Sponsor.zero_double_parts_the_flows`).
-/

namespace Paymaster

open Rpc Rpc.Action

/-! ## The two routes -/

/-- What comes of a plain result and what follows does not depend on what went before. -/
lemma Rpc.Action.result_ofExcept_bind {α β : Type} (r : Except Error α) (f : α → Action β)
    (s : Exchange) : ((ofExcept r >>= f).on s).1 = r >>= fun a => ((f a).on s).1 := by
  rw [on_bind, on_ofExcept]
  cases r <;> rfl

namespace Payment

/-- What pays amounts between the same accounts looks alike. -/
lemma Route.Pays.resembles {α : Type} {r : Route α} {ix ix' : Instruction} {amount amount' : ℕ}
    (h : r.Pays ix amount) (h' : r.Pays ix' amount') : ix.Resembles ix' := by
  obtain ⟨source, target, hsource, htarget, hmoves⟩ := h
  obtain ⟨source', target', hsource', htarget', hmoves'⟩ := h'
  obtain rfl := Except.ok.inj (hsource.symm.trans hsource')
  obtain rfl := Except.ok.inj (htarget.symm.trans htarget')
  obtain ⟨number, hdata, hlength, -⟩ := hmoves.data
  obtain ⟨number', hdata', hlength', -⟩ := hmoves'.data
  refine ⟨hmoves'.program.trans hmoves.program.symm, hmoves'.accounts.trans hmoves.accounts.symm, ?_⟩
  rw [hdata, hdata', List.length_cons, List.length_cons, hlength, hlength']

variable {terms : Terms} {p : Parties} {destination : PublicKey} {tx : Transaction}

/-- Payments that are appended to the transaction of a text. -/
def appendRoute (p : Parties) (destination : PublicKey) (tx : Transaction) (original : Text) :
    Route Text where
  wallet := p.wallet
  destination := destination
  mint := p.mint
  program := p.program
  unpaid := original
  paid ix := do return Text.ofString (← tx.appendedText .base64 ix)

lemma appendRoute_isFaithful {original : Text}
    (hdecode : Transaction.decode .base64 (.str original) = .ok tx) :
    (appendRoute p destination tx original).IsFaithful where
  takes_any := by
    intro ix ix' amount amount' a hpays hpays' hpaid
    obtain ⟨text, htext, -⟩ := bind_eq_ok_iff.mp hpaid
    obtain ⟨text', htext'⟩ := Transaction.appendedText_of_resembles (hpays.resembles hpays') htext
    exact ⟨_, bind_eq_ok_iff.mpr ⟨text', htext', rfl⟩⟩
  ne_unpaid := by
    rintro ix a hpaid rfl
    obtain ⟨text, htext, hsame⟩ := bind_eq_ok_iff.mp hpaid
    rw [← Except.ok.inj hsame] at hdecode
    exact Transaction.appendedText_ne hdecode htext
  data_eq := by
    intro ix ix' a hpaid hpaid'
    obtain ⟨text, htext, hsame⟩ := bind_eq_ok_iff.mp hpaid
    obtain ⟨text', htext', hsame'⟩ := bind_eq_ok_iff.mp hpaid'
    obtain rfl := Text.ofString_injective (Except.ok.inj (hsame.trans hsame'.symm))
    exact Transaction.data_eq_of_appendedText htext htext'

/-- What is done with a payment that is made up gives the same, whatever went before. -/
lemma finish_result (tx : Transaction) (o : Offer) (original : Text) (s : Exchange) :
    ((finish tx o (.str original)).on s).1
      = if o.amount.isZero then .ok original
        else do return Text.ofString (← tx.appendedText .base64 o.instruction) := by
  rw [finish]
  cases o.amount.isZero with
  | true => rfl
  | false =>
      simp only [Bool.false_eq_true, if_false, result_ofExcept_bind, Transaction.appendedText,
        bind_assoc]
      rfl

/-- **Appending pays first.** -/
lemma append_result [Stack] {e : Reply.FeeEstimate} {s s' : Exchange} {original : Text}
    (hnames : terms.Names p) (htransaction : terms.transaction = .str original)
    (hdecode : Transaction.decode .base64 terms.transaction = .ok tx)
    (hestimate : (estimate terms.transaction terms.feeToken).on s = (.ok e, s'))
    (haddress : Spells e.paymentAddress destination) :
    ((append terms false).on s).1
      = e.fee terms.feeToken >>= (appendRoute p destination tx original).payThenTest := by
  have hparties := Terms.parties_eq_ok_iff.mpr hnames
  have hdestination : parseAddress e.paymentAddress (.str "payment_address") = .ok destination :=
    parseAddress_eq_ok_iff.mpr haddress
  have hinspect : inspect terms false = pure () := rfl
  rw [append_eq, hinspect, result_ofExcept_bind, hparties]
  show ((ofExcept _ >>= _ : Action Text).on s).1 = _
  rw [result_ofExcept_bind, hdecode]
  show ((offer terms >>= _).on s).1 = _
  rw [offer, bind_assoc, result_ofExcept_bind, hparties]
  show (((estimate terms.transaction terms.feeToken >>= _) >>= _).on s).1 = _
  simp only [bind_assoc, on_bind (estimate _ _), hestimate, result_ofExcept_bind, hdestination]
  refine bind_congr fun amount => ?_
  show (Token.payment p.wallet destination p.mint amount p.program >>= _) = _
  refine bind_congr fun ix => ?_
  rw [htransaction]
  exact finish_result tx _ original _

end Payment

namespace Sponsor

variable {sp : Sponsor} {ixs : List Instruction} {d : Draft}

/-- Payments that are compiled and signed with a draft. -/
def route (sp : Sponsor) (d : Draft) : Payment.Route String where
  wallet := Crypto.Ed25519.publicKey sp.wallet
  destination := sp.paymentAddress
  mint := sp.feeToken
  program := sp.tokenProgram
  unpaid := d.text
  paid ix := sp.sign (d.asked ++ [ix]) d.hash

lemma route_isFaithful (hdraft : sp.sign d.asked d.hash = .ok d.text) :
    (sp.route d).IsFaithful where
  takes_any := by
    intro ix ix' amount amount' a hpays hpays' hpaid
    obtain ⟨m, hm, hexpressible, -, -⟩ := sign_eq_ok hpaid
    obtain ⟨m', hm', hfits⟩ := Message.compile_of_resembles (hpays.resembles hpays') hm
    refine ⟨_, bind_eq_ok_iff.mpr ⟨m', hm', Transaction.encode_eq_ok_iff.mpr ⟨?_, rfl⟩⟩⟩
    rw [Transaction.fits_partiallySign, hfits, ← Transaction.fits_partiallySign m [sp.wallet]]
    exact hexpressible.1
  ne_unpaid := by
    rintro ix a hpaid rfl
    obtain ⟨m, hm, -, -, hdecode⟩ := sign_eq_ok hpaid
    obtain ⟨m', hm', -, -, hdecode'⟩ := sign_eq_ok hdraft
    obtain rfl : m = m' :=
      congrArg Transaction.message (Except.ok.inj (hdecode.symm.trans hdecode'))
    have hcount := (Message.length_instructions_of_compile hm).symm.trans
      (Message.length_instructions_of_compile hm')
    simp at hcount
  data_eq := by
    intro ix ix' a hpaid hpaid'
    obtain ⟨m, hm, -, -, hdecode⟩ := sign_eq_ok hpaid
    obtain ⟨m', hm', -, -, hdecode'⟩ := sign_eq_ok hpaid'
    obtain rfl : m = m' :=
      congrArg Transaction.message (Except.ok.inj (hdecode.symm.trans hdecode'))
    exact Message.data_eq_of_compile hm hm'

/-- **A sponsor tests first.** -/
lemma pay_result (sp : Sponsor) (d : Draft) (e : Reply.FeeEstimate) (s : Exchange) :
    ((sp.pay d e).on s).1 = e.fee (.str sp.feeToken.text) >>= (sp.route d).testThenPay := by
  rw [pay, result_ofExcept_bind]
  refine bind_congr fun amount => ?_
  rw [Payment.Route.testThenPay]
  cases amount.isZero with
  | true => rfl
  | false =>
      simp only [Bool.false_eq_true, if_false, result_ofExcept_bind]
      refine bind_congr fun ix => ?_
      show ((ofExcept (sp.sign (d.asked ++ [ix]) d.hash) : Action String).on _).1 = _
      rw [on_ofExcept]
      rfl

section Flows

variable [Stack]

lemma build_result {record : Reply.Record Reply.Catalog.blockhash.fields} {e : Reply.FeeEstimate}
    {s t u : Exchange} (hcall : (Method.getBlockhash.call []).on s = (.ok record, t))
    (hdraft : sp.draft ixs record = .ok d)
    (hestimate : (Payment.estimate (.str d.text) (.str sp.feeToken.text)).on t = (.ok e, u)) :
    ((sp.build ixs).on s).1
      = e.fee (.str sp.feeToken.text) >>= (sp.route d).testThenPay := by
  simp only [build_eq, on_bind (Method.call _ _), hcall, on_bind (ofExcept _), on_ofExcept, hdraft,
    on_bind (Payment.estimate _ _), hestimate, pay_result]

/-- **The two ways to pay treat quoted fees alike, but for the zeros of double precision.**

Say an estimate is given for a transaction that a payment can be appended to, and one for what a
sponsor drafted, which can be compiled with a payment, and both name the same fee.

* Building comes to just what the fee asks for.
* Appending does too, unless the fee is a zero of double precision.  Such a fee is refused, because
  the payment is made up before the fee is tested.
* So the two come to the same treatments exactly when the fee is no zero of double precision. -/
theorem flows_treat_fees_alike_iff {terms : Payment.Terms} {p : Payment.Parties} {original : Text}
    {tx : Transaction} {destination : PublicKey} {e e' : Reply.FeeEstimate}
    {record : Reply.Record Reply.Catalog.blockhash.fields} {s s' t u u' : Exchange}
    (hnames : terms.Names p) (htransaction : terms.transaction = .str original)
    (hdecode : Transaction.decode .base64 terms.transaction = .ok tx)
    (hestimate : (Payment.estimate terms.transaction terms.feeToken).on s = (.ok e, s'))
    (haddress : Spells e.paymentAddress destination)
    (hopen : (Payment.appendRoute p destination tx original).IsOpen)
    (hcall : (Method.getBlockhash.call []).on t = (.ok record, u))
    (hdraft : sp.draft ixs record = .ok d)
    (hestimate' : (Payment.estimate (.str d.text) (.str sp.feeToken.text)).on u = (.ok e', u'))
    (hopen' : (sp.route d).IsOpen) (hsame : e'.inToken = e.inToken) :
    let appended := (Payment.appendRoute p destination tx original).ComesTo
      ((Payment.append terms false).on s).1
    let built := (sp.route d).ComesTo ((sp.build ixs).on t).1
    (∀ σ, built σ ↔ σ = .ofFee e.inToken)
      ∧ (∀ σ, appended σ
        ↔ σ = if e.inToken.isDoubleZero then .fails .amount else .ofFee e.inToken)
      ∧ ((∀ σ, appended σ ↔ built σ) ↔ e.inToken.isDoubleZero = false) := by
  intro appended built
  obtain ⟨-, hsigned, -⟩ := draft_eq_ok hdraft
  have hfaithful : (Payment.appendRoute p destination tx original).IsFaithful :=
    Payment.appendRoute_isFaithful (htransaction ▸ hdecode)
  have hbuilt : ∀ σ, built σ ↔ σ = .ofFee e.inToken := by
    refine Payment.Route.comesTo_iff_of_comesTo (route_isFaithful hsigned) ?_
    rw [build_result hcall hdraft hestimate', ← hsame]
    exact Payment.Route.comesTo_testThenPay (route_isFaithful hsigned) hopen' e' _
  have happended : ∀ σ, appended σ
      ↔ σ = if e.inToken.isDoubleZero then .fails .amount else .ofFee e.inToken := by
    refine Payment.Route.comesTo_iff_of_comesTo hfaithful ?_
    rw [Payment.append_result hnames htransaction hdecode hestimate haddress]
    exact Payment.Route.comesTo_payThenTest hfaithful hopen e _
  refine ⟨hbuilt, happended, ?_⟩
  simp only [happended, hbuilt]
  cases hzero : e.inToken.isDoubleZero with
  | false => simp
  | true =>
      simp only [if_true, Payment.Treatment.ofFee_of_isDoubleZero hzero, reduceCtorEq, iff_false]
      intro h
      cases (h .unchanged).mpr rfl

end Flows

/-! ## Two fees -/

/-- Who has paid was on an open route. -/
lemma route_isOpen_of_pay {e : Reply.FeeEstimate} {text : String} {s s' : Exchange}
    (hzero : e.inToken.isZero = false) (h : (sp.pay d e).on s = (.ok text, s')) :
    (sp.route d).IsOpen := by
  obtain ⟨ix, hix, hsigned⟩ := pay_eq_ok_of_fee hzero h
  obtain ⟨amount, -, -, hpays⟩ := Token.payment_pays hix
  exact ⟨ix, amount, text, hpays, hsigned⟩

lemma isZero_of_five {v : Json} (h : v.toInt? = some 5) : v.isZero = false := by
  have hint : v.toInt? = some ((5 : ℕ) : ℤ) := h
  rw [Bool.eq_false_iff, Ne, Json.isZero_iff hint]
  decide

/-- The parties of `plainTerms`. -/
def plainParties : Payment.Parties := ⟨Block.ofNat 32 5, Block.ofNat 32 6, Program.token⟩

/-- The text of `plainTransaction`. -/
def plainText : Text :=
  .ofChars (Text.Base64.encodeChars Payment.plainTransaction.toBytes)

/-- The route from `plainTransaction` to the address of `boundedSponsor`. -/
def plainRoute : Payment.Route Text :=
  Payment.appendRoute plainParties (Block.ofNat 32 13) Payment.plainTransaction plainText

lemma spells_addressOf (k : PublicKey) : Spells (Payment.addressOf k) k := by
  refine ⟨_, rfl, ?_⟩
  have h := PublicKey.ofText?_text k
  rwa [Block.text, Text.Base58.encode, Text.ofString, String.toList_ofList] at h

lemma names_plainTerms : Payment.plainTerms.Names plainParties :=
  ⟨spells_addressOf _, spells_addressOf _, Or.inl ⟨rfl, rfl⟩⟩

lemma transaction_plainTerms : Payment.plainTerms.transaction = .str plainText := rfl

lemma decode_plainTerms :
    Transaction.decode .base64 Payment.plainTerms.transaction = .ok Payment.plainTransaction := by
  have hexpressible : Payment.plainTransaction.Expressible := by decide
  have h := Transaction.decode_textOf_toBytes .base64 hexpressible
  rwa [Transaction.Encoding.textOf, Text.Base64.encode, Text.ofString, String.toList_ofList] at h

lemma plainRoute_isOpen : plainRoute.IsOpen := by
  have hisOk : (plainRoute.payment (.int 5) >>= plainRoute.paid).isOk = true := by decide +kernel
  cases hpaid : plainRoute.payment (.int 5) >>= plainRoute.paid with
  | error err =>
      rw [hpaid] at hisOk
      cases hisOk
  | ok text =>
      obtain ⟨ix, hix, htext⟩ := bind_eq_ok_iff.mp hpaid
      obtain ⟨amount, -, -, hpays⟩ := Token.payment_pays hix
      exact ⟨ix, amount, text, hpays, htext⟩

/-- The replies for `boundedSponsor`, with a quote. -/
def quoting (quote : Json) : Exchange :=
  Payment.freshExchange [Payment.replyWith recentHash, Payment.replyWith quote]

lemma head?_quoting (quote : Json) :
    (quoting quote).replies.head? = some (Payment.replyWith recentHash) := rfl

/-- An estimate of nothing, written as a number of double precision. -/
def zeroEstimate : Json :=
  .obj [("fee_in_token", .double .zero), ("payment_address", Payment.addressOf (Block.ofNat 32 13))]

section Steps

variable [Stack]

/-- What a value says about a fee and where to pay it. -/
def quoteOf (v : Json) : Option Int × Bool × Option PublicKey :=
  ((v.member "fee_in_token").toInt?, (v.member "fee_in_token").isDoubleZero,
    (parseAddress (v.member "payment_address") .null).toOption)

/-- What an estimate says is what is quoted in the reply. -/
lemma quote_of_estimate {transaction feeToken : Text} {e : Reply.FeeEstimate} {s s' : Exchange}
    {reply : Response} {number : Option Int} {double : Bool} {key : PublicKey}
    (h : (Payment.estimate (.str transaction) (.str feeToken)).on s = (.ok e, s'))
    (hreply : s.replies.head? = some reply)
    (hquote : (resultIn reply).toOption.map quoteOf = some (number, double, some key)) :
    e.inToken.toInt? = number ∧ e.inToken.isDoubleZero = double ∧ Spells e.paymentAddress key := by
  obtain ⟨reply', v, hcompletes, hresult, hfee, haddress⟩ := Payment.estimate_completes h
  obtain rfl := Option.some.inj (hreply.symm.trans hcompletes.head?_replies)
  simp only [hresult, Except.toOption, Option.map_some, quoteOf, Option.some.injEq,
    Prod.mk.injEq] at hquote
  obtain ⟨hnumber, hdouble, hkey⟩ := hquote
  rw [hfee, haddress]
  exact ⟨hnumber, hdouble, parseAddress_eq_ok_iff.mp (toOption_eq_some_iff.mp hkey)⟩

/-- A call is answered by the reply, whoever makes it. -/
lemma call_unique {method : Method} {arguments : List (Text × Json)}
    {r r' : Reply.Record method.reply.fields} {s s' t t' : Exchange}
    (hreply : s.replies.head? = t.replies.head?)
    (h : (method.call arguments).on s = (.ok r, s'))
    (h' : (method.call arguments).on t = (.ok r', t')) : r = r' := by
  obtain ⟨reply, v, hcompletes, hresult, hdecode⟩ := Method.call_completes h
  obtain ⟨reply', v', hcompletes', hresult', hdecode'⟩ := Method.call_completes h'
  obtain rfl := Option.some.inj
    (hcompletes.head?_replies.symm.trans (hreply.trans hcompletes'.head?_replies))
  obtain rfl := Except.ok.inj (hresult.symm.trans hresult')
  exact Except.ok.inj (hdecode.symm.trans hdecode')

/-- The steps of `boundedSponsor` when it builds nothing but the payment. -/
lemma steps_of_bounded {quote : Json}
    (h : ((boundedSponsor.build [cosignedInstruction]).on (quoting quote)).1.isOk = true) :
    ∃ record t d e u text s', (Method.getBlockhash.call []).on (quoting quote) = (.ok record, t)
      ∧ boundedSponsor.draft [cosignedInstruction] record = .ok d
      ∧ (Payment.estimate (.str d.text) (.str boundedSponsor.feeToken.text)).on t = (.ok e, u)
      ∧ t.replies.head? = some (Payment.replyWith quote)
      ∧ (boundedSponsor.pay d e).on u = (.ok text, s') := by
  obtain ⟨text, s', hrun⟩ := exists_of_isOk _ _ h
  obtain ⟨record, t, d, e, u, hcall, hdraft, hestimate, hpay⟩ := build_eq_ok hrun
  obtain ⟨first, _, hfirst, -⟩ := Method.call_completes hcall
  obtain ⟨second, _, hsecond, -⟩ := Payment.estimate_completes hestimate
  obtain rfl : second = Payment.replyWith quote :=
    (List.cons.inj (List.cons.inj (hfirst.trans hsecond).served_eq).2).1
  exact ⟨record, t, d, e, u, text, s', hcall, hdraft, hestimate, hsecond.head?_replies, hpay⟩

end Steps

section Usual

open scoped Stack

/-- Of the two quotes one is a number and one a zero, and both say where to pay. -/
lemma quotes_of_estimates :
    [homeEstimate, zeroEstimate].map
        (fun quote => (resultIn (Payment.replyWith quote)).toOption.map quoteOf)
      = [some (some 5, false, some (Block.ofNat 32 13)),
        some (none, true, some (Block.ofNat 32 13))] := by
  decide +kernel

lemma quote_home : (resultIn (Payment.replyWith homeEstimate)).toOption.map quoteOf
    = some (some 5, false, some (Block.ofNat 32 13)) :=
  (List.cons.inj quotes_of_estimates).1

lemma quote_zero : (resultIn (Payment.replyWith zeroEstimate)).toOption.map quoteOf
    = some (none, true, some (Block.ofNat 32 13)) :=
  (List.cons.inj (List.cons.inj quotes_of_estimates).2).1

/-- Either quote is taken for an estimate, by whoever appends and by the sponsor. -/
lemma estimates_isOk : ∀ quote ∈ [homeEstimate, zeroEstimate],
    ((Payment.estimate Payment.plainTerms.transaction Payment.plainTerms.feeToken).on
        (Payment.freshExchange [Payment.replyWith quote])).1.isOk = true
      ∧ ((boundedSponsor.build [cosignedInstruction]).on (quoting quote)).1.isOk = true := by
  -- the kernel compiles and signs the messages of the sponsor here
  decide +kernel

/-- With a fee of five, both pay five. -/
theorem flows_treat_fees_alike_of_five :
    ∃ record t d, (Method.getBlockhash.call []).on (quoting homeEstimate) = (.ok record, t)
      ∧ boundedSponsor.draft [cosignedInstruction] record = .ok d
      ∧ plainRoute.ComesTo ((Payment.append Payment.plainTerms false).on
        (Payment.freshExchange [Payment.replyWith homeEstimate])).1 (.pays 5)
      ∧ (boundedSponsor.route d).ComesTo
        ((boundedSponsor.build [cosignedInstruction]).on (quoting homeEstimate)).1 (.pays 5) := by
  obtain ⟨record, t, d, e', u', text, s', hcall, hdraft, hestimate', hreply, hpay⟩ :=
    steps_of_bounded (estimates_isOk homeEstimate (by simp)).2
  obtain ⟨hint', -, -⟩ := quote_of_estimate hestimate' hreply quote_home
  obtain ⟨e, u, hestimate⟩ := exists_of_isOk
    (Payment.estimate Payment.plainTerms.transaction Payment.plainTerms.feeToken)
    (Payment.freshExchange [Payment.replyWith homeEstimate])
    (estimates_isOk homeEstimate (by simp)).1
  obtain ⟨hint, hdouble, haddress⟩ := quote_of_estimate hestimate rfl quote_home
  have hsame : (Payment.freshExchange [Payment.replyWith homeEstimate]).replies.head?
      = t.replies.head? := hreply.symm
  obtain rfl : e = e' := Payment.estimate_unique hsame hestimate hestimate'
  have hfive : Payment.Treatment.ofFee e.inToken = .pays 5 :=
    Payment.Treatment.ofFee_of_toInt? hint (by decide) (by decide)
  obtain ⟨hbuilt, happended, -⟩ := flows_treat_fees_alike_iff names_plainTerms
    transaction_plainTerms decode_plainTerms hestimate haddress plainRoute_isOpen hcall hdraft
    hestimate' (route_isOpen_of_pay (isZero_of_five hint') hpay) rfl
  refine ⟨record, t, d, hcall, hdraft, (happended _).mpr ?_, (hbuilt _).mpr hfive.symm⟩
  rw [hdouble, hfive]
  rfl

/-- Such a fee stops the one who appends, and the sponsor takes it for nothing to pay, although both
could pay something. -/
theorem zero_double_parts_the_flows :
    plainRoute.IsOpen
      ∧ ((Payment.append Payment.plainTerms false).on
        (Payment.freshExchange [Payment.replyWith zeroEstimate])).1 = .error .amount
      ∧ ∃ record t d, (Method.getBlockhash.call []).on (quoting zeroEstimate) = (.ok record, t)
        ∧ boundedSponsor.draft [cosignedInstruction] record = .ok d ∧ (boundedSponsor.route d).IsOpen
        ∧ ((boundedSponsor.build [cosignedInstruction]).on (quoting zeroEstimate)).1 = .ok d.text := by
  obtain ⟨record, t, d, e', u', text, s', hcall, hdraft, hestimate', hreply, hpay⟩ :=
    steps_of_bounded (estimates_isOk zeroEstimate (by simp)).2
  obtain ⟨-, hdouble', -⟩ := quote_of_estimate hestimate' hreply quote_zero
  obtain ⟨e, u, hestimate⟩ := exists_of_isOk
    (Payment.estimate Payment.plainTerms.transaction Payment.plainTerms.feeToken)
    (Payment.freshExchange [Payment.replyWith zeroEstimate])
    (estimates_isOk zeroEstimate (by simp)).1
  obtain ⟨-, hdouble, haddress⟩ := quote_of_estimate hestimate rfl quote_zero
  refine ⟨plainRoute_isOpen, ?_, record, t, d, hcall, hdraft, ?_, ?_⟩
  · rw [Payment.append_result names_plainTerms transaction_plainTerms decode_plainTerms hestimate
      haddress]
    exact Payment.Route.payThenTest_of_isDoubleZero plainRoute_isOpen hdouble _
  · -- the draft is the same whatever is quoted for it
    obtain ⟨record', _, d', e'', _, _, _, hcall', hdraft', hestimate'', hreply', hpay'⟩ :=
      steps_of_bounded (estimates_isOk homeEstimate (by simp)).2
    have hfirst := (head?_quoting zeroEstimate).trans (head?_quoting homeEstimate).symm
    obtain rfl : record = record' := call_unique hfirst hcall hcall'
    obtain rfl := Except.ok.inj (hdraft.symm.trans hdraft')
    obtain ⟨hint, -, -⟩ := quote_of_estimate hestimate'' hreply' quote_home
    exact route_isOpen_of_pay (isZero_of_five hint) hpay'
  · rw [build_result hcall hdraft hestimate']
    exact Payment.Route.testThenPay_of_isDoubleZero hdouble' _

end Usual

end Sponsor

end Paymaster
