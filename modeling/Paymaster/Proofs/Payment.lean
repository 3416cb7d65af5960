import Mathlib
import Paymaster.Payment
import Paymaster.Proofs.Replies

/-!
# Paying the estimate

Appending a payment asks the server twice and trusts nothing that it says.  This file follows the
fee from the estimate to the instruction that pays it.

**Addresses.**  `Spells` is what it takes for a value to be an address, and `Terms.Names` that all
addresses of some terms are.

**The payment.**  `Token.Pays` says what an instruction has to be to pay a fee: a transfer of
exactly that amount between the accounts of two wallets, signed by the first.  An amount from which
a payment can be made up is a whole number of 64 bits (`payment_pays`).

**The flow.**  What can be refused without the server is refused before it is asked, with nothing
changed (`append_refused`).  After that the calls are made in order (`append_attempts`), and a text
is given only for the fee of the last reply (`append_completes`).
-/

namespace Paymaster

open Rpc Rpc.Action

/-! ## The instruction that pays -/

namespace Token

/-- An instruction of a program moves an amount from one account to another, signed by the owner
of the first. -/
structure Moves (ix : Instruction) (program source destination owner : PublicKey)
    (amount : ℕ) : Prop where
  program : ix.program = program
  accounts : ix.accounts
    = [⟨source, false, true⟩, ⟨destination, false, true⟩, ⟨owner, true, false⟩]
  data : ∃ number, ix.data = 3 :: number ∧ number.length = 8 ∧ Bytes.ofLittleEndian number = amount

/-- An instruction pays a fee: it moves exactly that amount of a token from the associated account
of a wallet to that of another. -/
def Pays (ix : Instruction) (wallet destination mint program : PublicKey) (fee : ℕ) : Prop :=
  ∃ source target, associatedAccount wallet mint program = .ok source
    ∧ associatedAccount destination mint program = .ok target
    ∧ Moves ix program source target wallet fee

lemma transfer_moves (program source destination owner : PublicKey) {amount : ℕ}
    (h : amount < amountLimit) :
    Moves (transfer program source destination owner amount) program source destination owner
      amount where
  program := rfl
  accounts := rfl
  data := by
    refine ⟨Bytes.littleEndian 8 amount, rfl, Bytes.length_littleEndian 8 amount, ?_⟩
    rw [Bytes.ofLittleEndian_littleEndian]
    exact Nat.mod_eq_of_lt h

lemma amountOf_eq_ok_iff {v : Json} {n : ℕ} :
    amountOf v = .ok n ↔ v.toInt? = some (n : ℤ) ∧ n < amountLimit := by
  unfold amountOf
  cases v.toInt? with
  | none => simp
  | some k =>
      simp only [Option.some.injEq]
      split_ifs with hk
      · rw [Except.ok.injEq]
        omega
      · simp only [false_iff]
        rintro ⟨rfl, hn⟩
        exact hk ⟨Int.natCast_nonneg n, by exact_mod_cast hn⟩

/-- **What can be paid is a fee**, and the payment pays exactly that. -/
lemma payment_pays {wallet destination mint program : PublicKey} {amount : Json}
    {ix : Instruction} (h : payment wallet destination mint amount program = .ok ix) :
    ∃ fee : ℕ, amount.toInt? = some (fee : ℤ) ∧ fee < amountLimit
      ∧ Pays ix wallet destination mint program fee := by
  simp only [payment, bind_eq_ok_iff, pure_eq_ok_iff, amountOf_eq_ok_iff] at h
  obtain ⟨source, hsource, target, htarget, fee, ⟨hamount, hfee⟩, rfl⟩ := h
  exact ⟨fee, hamount, hfee, source, target, hsource, htarget,
    transfer_moves program source target wallet hfee⟩

end Token

lemma Json.isZero_iff {v : Json} {n : ℕ} (h : v.toInt? = some (n : ℤ)) :
    v.isZero = true ↔ n = 0 := by
  cases v with
  | int k =>
      obtain rfl := Option.some.inj h
      simp [Json.isZero]
  | bool b =>
      have hb : (if b then (1 : ℤ) else 0) = n := Option.some.inj h
      cases b with
      | false =>
          have hn : n = 0 := by simpa using hb.symm
          simp [Json.isZero, hn]
      | true =>
          have hn : n = 1 := by simpa using hb.symm
          simp [Json.isZero, hn]
  | _ => cases h

/-- The fee of an estimate is what the estimate says. -/
lemma Reply.FeeEstimate.eq_inToken_of_fee {estimate : Reply.FeeEstimate} {token v : Json}
    (h : estimate.fee token = .ok v) : v = estimate.inToken := by
  unfold fee at h
  cases hfee : estimate.inToken with
  | int _ | double _ =>
      rw [hfee] at h
      simp only at h
      split_ifs at h
      exact (Except.ok.inj h).symm
  | bool b =>
      rw [hfee] at h
      exact (Except.ok.inj h).symm
  | _ =>
      rw [hfee] at h
      cases h

/-! ## Addresses -/

section Addresses

variable [Stack]

/-- A value is a text that spells a key. -/
def Spells (v : Json) (k : PublicKey) : Prop :=
  ∃ text, v = .str text ∧ PublicKey.ofText? text = some k

lemma parseAddress_eq_ok_iff {v field : Json} {k : PublicKey} :
    parseAddress v field = .ok k ↔ Spells v k := by
  constructor
  · intro h
    unfold parseAddress at h
    split at h
    · rename_i text
      split at h
      · rename_i key hkey
        exact ⟨text, rfl, hkey.trans (congrArg some (Except.ok.inj h))⟩
      · cases h
    · obtain ⟨_, -, h⟩ := bind_eq_ok_iff.mp h
      cases h
  · rintro ⟨text, rfl, hk⟩
    simp only [parseAddress, hk]

/-- The addresses of some terms are those of some parties; with no program named it is the token
program. -/
structure Payment.Terms.Names (terms : Payment.Terms) (p : Payment.Parties) : Prop where
  mint : Spells terms.feeToken p.mint
  wallet : Spells terms.sourceWallet p.wallet
  program : (terms.tokenProgram = .null ∧ p.program = Program.token)
    ∨ Spells terms.tokenProgram p.program

lemma tokenProgramOf_eq_ok_iff {v : Json} {k : PublicKey} :
    Payment.tokenProgramOf v = .ok k ↔ (v = .null ∧ k = Program.token) ∨ Spells v k := by
  cases v with
  | null =>
      simp only [Payment.tokenProgramOf, Except.ok.injEq, true_and]
      constructor
      · rintro rfl
        exact Or.inl rfl
      · rintro (rfl | ⟨text, htext, -⟩)
        · rfl
        · cases htext
  | _ => simp [Payment.tokenProgramOf, parseAddress_eq_ok_iff]

/-- The addresses of some terms can be parsed when all of them are addresses. -/
lemma Payment.Terms.parties_eq_ok_iff {terms : Payment.Terms} {p : Payment.Parties} :
    terms.parties = .ok p ↔ terms.Names p := by
  simp only [parties, bind_eq_ok_iff, pure_eq_ok_iff, parseAddress_eq_ok_iff,
    tokenProgramOf_eq_ok_iff]
  constructor
  · rintro ⟨mint, hmint, wallet, hwallet, program, hprogram, rfl⟩
    exact ⟨hmint, hwallet, hprogram⟩
  · rintro ⟨hmint, hwallet, hprogram⟩
    exact ⟨p.mint, hmint, p.wallet, hwallet, p.program, hprogram, rfl⟩

end Addresses

namespace Payment

section Server

variable [Stack]

/-! ## Asking the server -/

/-- The calls for the server's configuration: one, if it is to be checked. -/
def configCalls (check : Bool) : List Call :=
  if check then [{ method := .str "getConfig", params := .null }] else []

/-- The call for the estimated fee of a transaction in a token. -/
def estimateCall (transaction feeToken : Json) : Call where
  method := .str "estimateTransactionFee"
  params := .obj [("transaction", transaction), ("fee_token", feeToken)]

/-- A reply takes payments in a token: its configuration lists the token, and is not free. -/
def Takes (reply : Response) (token : Json) : Prop :=
  ∃ v tokens, resultIn reply = .ok v
    ∧ Reply.listItems ((v.member "validation_config").member "allowed_spl_paid_tokens")
      = .ok tokens
    ∧ token ∈ tokens
    ∧ ((v.member "validation_config").member "price").member "type" ≠ .str "free"

omit [Stack] in
lemma callOf_estimate (transaction feeToken : Text) :
    Method.estimateTransactionFee.callOf
        [("transaction", .str transaction), ("fee_token", .str feeToken)]
      = estimateCall (.str transaction) (.str feeToken) := rfl

lemma estimate_posts (transaction feeToken : Json) (s : Exchange) :
    Posts s ((estimate transaction feeToken).on s).2
      [Method.estimateTransactionFee.callOf
        [("transaction", transaction), ("fee_token", feeToken)]] :=
  (Method.call_posts _ _ s).bind_quiet fun _ => Quiet.pure _

/-- **An estimate** is what the next reply says. -/
lemma estimate_completes {transaction feeToken : Text} {e : Reply.FeeEstimate} {s s' : Exchange}
    (h : (estimate (.str transaction) (.str feeToken)).on s = (.ok e, s')) :
    ∃ reply v, Completes s s' [estimateCall (.str transaction) (.str feeToken)] [reply]
      ∧ resultIn reply = .ok v ∧ e.inToken = v.member "fee_in_token"
      ∧ e.paymentAddress = v.member "payment_address" := by
  obtain ⟨record, t, hcall, h⟩ := on_bind_eq_ok_iff.mp h
  obtain ⟨rfl, rfl⟩ := on_pure_eq_ok_iff.mp h
  obtain ⟨reply, v, hcompletes, hresult, hdecode⟩ := Method.call_completes hcall
  exact ⟨reply, v, hcompletes, hresult, Reply.estimate_of_decode hdecode⟩

/-- Looks whether the server takes the token, if that is to be checked. -/
def inspect (terms : Terms) (check : Bool) : Action Unit := do
  if check then
    let record ← Method.getConfig.call []
    ofExcept (checkPolicy (.ofRecord record) terms.feeToken)

/-- What is done with a payment that is made up. -/
def finish (tx : Transaction) (o : Offer) (original : Json) : Action Text := do
  if o.amount.isZero then
    Action.note .unchanged
    return original.display
  else
    let paid ← ofExcept (tx.append o.instruction)
    return ← ofExcept (paid.encode .base64)

lemma append_eq (terms : Terms) (check : Bool) :
    append terms check = (do
      let _ ← ofExcept terms.parties
      let tx ← ofExcept (Transaction.decode .base64 terms.transaction)
      inspect terms check
      let o ← offer terms
      finish tx o terms.transaction) := by
  unfold append inspect finish
  cases check with
  | false => rfl
  | true => simp only [if_true, bind_assoc]

omit [Stack] in
lemma isText_iff {text : Text} {v : Json} : Reply.isText text v = true ↔ v = .str text := by
  cases v <;> simp [Reply.isText]

omit [Stack] in
lemma checkPolicy_eq_ok {config : Reply.Config} {token : Text}
    (h : checkPolicy config (.str token) = .ok ()) :
    .str token ∈ config.validation.paidTokens ∧ config.validation.price.isFree = false := by
  unfold checkPolicy at h
  split_ifs at h with hpaid hfree
  refine ⟨?_, Bool.eq_false_iff.mpr hfree⟩
  obtain ⟨v, hv, htext⟩ := List.any_eq_true.mp (by simpa using hpaid)
  rwa [isText_iff.mp htext] at hv

lemma inspect_posts (terms : Terms) (check : Bool) (s : Exchange) :
    Posts s ((inspect terms check).on s).2 (configCalls check) := by
  cases check with
  | false => exact (Advances.refl s).posts []
  | true => exact (Method.call_posts _ _ s).bind_quiet fun _ => Quiet.ofExcept _

lemma inspect_completes {terms : Terms} {check : Bool} {token : Text} {s s' : Exchange}
    (htoken : terms.feeToken = .str token) (h : (inspect terms check).on s = (.ok (), s')) :
    ∃ asked, Completes s s' (configCalls check) asked
      ∧ (check = true → ∃ reply, asked = [reply] ∧ Takes reply terms.feeToken) := by
  cases check with
  | false =>
      obtain ⟨-, rfl⟩ := on_pure_eq_ok_iff.mp h
      exact ⟨[], (Advances.refl s').completes, by simp⟩
  | true =>
      obtain ⟨record, t, hcall, h⟩ := on_bind_eq_ok_iff.mp h
      obtain ⟨hpolicy, rfl⟩ := on_ofExcept_eq_ok_iff.mp h
      obtain ⟨reply, v, hcompletes, hresult, hdecode⟩ := Method.call_completes hcall
      rw [htoken] at hpolicy ⊢
      obtain ⟨hmem, hfree⟩ := checkPolicy_eq_ok hpolicy
      obtain ⟨htokens, htype⟩ := Reply.config_of_decode hdecode
      exact ⟨[reply], hcompletes, fun _ =>
        ⟨reply, rfl, v, _, hresult, htokens, hmem, htype hfree⟩⟩

/-! ## Making up the payment -/

lemma offer_posts (terms : Terms) (s : Exchange) :
    Posts s ((offer terms).on s).2
      [Method.estimateTransactionFee.callOf
        [("transaction", terms.transaction), ("fee_token", terms.feeToken)]] := by
  refine (Quiet.ofExcept _).bind_posts fun parties t _ => ?_
  refine (estimate_posts terms.transaction terms.feeToken t).bind_quiet fun e => ?_
  refine (Quiet.ofExcept _).bind fun amount => (Quiet.ofExcept _).bind fun destination => ?_
  exact (Quiet.ofExcept _).bind fun ix => (Quiet.note _).bind fun _ => Quiet.pure _

/-- **A payment that is made up** pays the fee of the next reply, to the address in it. -/
lemma offer_completes {terms : Terms} {p : Parties} {transaction token : Text} {o : Offer}
    {s s' : Exchange} (htransaction : terms.transaction = .str transaction)
    (htoken : terms.feeToken = .str token) (hparties : terms.parties = .ok p)
    (h : (offer terms).on s = (.ok o, s')) :
    ∃ reply v destination, ∃ fee : ℕ,
      Completes s s' [estimateCall terms.transaction terms.feeToken] [reply]
      ∧ resultIn reply = .ok v ∧ Spells (v.member "payment_address") destination
      ∧ (v.member "fee_in_token").toInt? = some (fee : ℤ) ∧ fee < Token.amountLimit
      ∧ o.amount = v.member "fee_in_token"
      ∧ Token.Pays o.instruction p.wallet destination p.mint p.program fee := by
  simp only [offer, on_bind_eq_ok_iff, on_ofExcept_eq_ok_iff, on_pure_eq_ok_iff,
    parseAddress_eq_ok_iff] at h
  obtain ⟨_, _, ⟨hp, rfl⟩, e, _, hestimate, amount, _, ⟨hamount, rfl⟩, destination, _,
    ⟨hdestination, rfl⟩, ix, _, ⟨hix, rfl⟩, _, _, hnote, rfl, rfl⟩ := h
  obtain rfl := Except.ok.inj (hparties.symm.trans hp)
  rw [htransaction, htoken] at hestimate ⊢
  obtain ⟨reply, v, hcompletes, hresult, hfee, haddress⟩ := estimate_completes hestimate
  obtain rfl := Reply.FeeEstimate.eq_inToken_of_fee hamount
  obtain ⟨fee, hint, hlt, hpays⟩ := Token.payment_pays hix
  have hquiet := (Quiet.note (.payment e.inToken p.mint destination)).advances hnote
  rw [hfee] at hint
  rw [haddress] at hdestination
  exact ⟨reply, v, destination, fee, hcompletes.trans_quiet hquiet, hresult, hdestination, hint,
    hlt, hfee, hpays⟩

/-! ## Appending the payment -/

omit [Stack] in
lemma finish_quiet (tx : Transaction) (o : Offer) (original : Json) :
    Quiet (finish tx o original) := by
  unfold finish
  cases o.amount.isZero with
  | true => exact (Quiet.note _).bind fun _ => Quiet.pure _
  | false => exact (Quiet.ofExcept _).bind fun _ => (Quiet.ofExcept _).bind fun _ => Quiet.pure _

omit [Stack] in
/-- **A text that is given** is the original if there is nothing to pay, and otherwise that of the
transaction with the payment appended. -/
lemma finish_eq_ok {tx : Transaction} {o : Offer} {original text : Text} {fee : ℕ}
    {s s' : Exchange} (hfee : o.amount.toInt? = some (fee : ℤ))
    (h : (finish tx o (.str original)).on s = (.ok text, s')) :
    (fee = 0 → text = original)
      ∧ (0 < fee → ∃ paid encoded, tx.append o.instruction = .ok paid
        ∧ paid.encode .base64 = .ok encoded ∧ text = Text.ofString encoded) := by
  have hzero := Json.isZero_iff hfee
  unfold finish at h
  cases hamount : o.amount.isZero with
  | true =>
      have hnone : fee = 0 := hzero.mp hamount
      simp only [hamount, if_true, on_bind_eq_ok_iff, on_pure_eq_ok_iff] at h
      obtain ⟨-, -, -, rfl, -⟩ := h
      refine ⟨fun _ => rfl, ?_⟩
      intro hpos
      omega
  | false =>
      have hsome : fee ≠ 0 := fun hnone => by simp [hzero.mpr hnone] at hamount
      simp only [hamount, Bool.false_eq_true, if_false, on_bind_eq_ok_iff, on_ofExcept_eq_ok_iff,
        on_pure_eq_ok_iff] at h
      obtain ⟨paid, _, ⟨hpaid, rfl⟩, encoded, _, ⟨hencoded, rfl⟩, rfl, -⟩ := h
      exact ⟨fun hnone => absurd hnone hsome, fun _ => ⟨paid, encoded, hpaid, hencoded, rfl⟩⟩

/-- The calls for appending a payment. -/
def appendCalls (terms : Terms) (check : Bool) : List Call :=
  configCalls check ++ [estimateCall terms.transaction terms.feeToken]

/-- **Refused before the server is asked**, with nothing changed: terms whose addresses or
transaction are none. -/
lemma append_refused {terms : Terms} (check : Bool) (s : Exchange)
    (h : ¬ ∃ p tx, terms.Names p ∧ Transaction.decode .base64 terms.transaction = .ok tx) :
    ∃ e, (append terms check).on s = (.error e, s) := by
  rw [append_eq, on_bind, on_ofExcept]
  cases hparties : terms.parties with
  | error e => exact ⟨e, rfl⟩
  | ok p =>
      simp only [on_bind (ofExcept _), on_ofExcept]
      cases hdecode : Transaction.decode .base64 terms.transaction with
      | error e => exact ⟨e, rfl⟩
      | ok tx => exact absurd ⟨p, tx, Terms.parties_eq_ok_iff.mp hparties, hdecode⟩ h

omit [Stack] in
lemma text_of_decode {v : Json} {tx : Transaction}
    (h : Transaction.decode .base64 v = .ok tx) : ∃ text, v = .str text := by
  cases v with
  | str text => exact ⟨text, rfl⟩
  | _ => cases h

/-- **Appending makes its calls in order**: for the configuration, if it is to be checked, and for the
estimate. -/
lemma append_posts (terms : Terms) (check : Bool) (s : Exchange) :
    Posts s ((append terms check).on s).2
      (configCalls check ++ [Method.estimateTransactionFee.callOf
        [("transaction", terms.transaction), ("fee_token", terms.feeToken)]]) := by
  rw [append_eq]
  refine (Quiet.ofExcept _).bind_posts fun p t hp => ?_
  refine (Quiet.ofExcept _).bind_posts fun tx u _ => ?_
  refine posts_bind (inspect_posts terms check u) fun _ w h => ?_
  obtain ⟨hparties, -⟩ := on_ofExcept_eq_ok_iff.mp hp
  obtain ⟨token, htoken, -⟩ := (Terms.parties_eq_ok_iff.mp hparties).mint
  obtain ⟨asked, hasked, -⟩ := inspect_completes htoken h
  exact ⟨⟨asked, hasked⟩, (offer_posts terms w).bind_quiet fun o => finish_quiet tx o _⟩

lemma append_attempts {terms : Terms} {transaction token : Text}
    (htransaction : terms.transaction = .str transaction) (htoken : terms.feeToken = .str token)
    (check : Bool) (s : Exchange) :
    Attempts s ((append terms check).on s).2 (appendCalls terms check) := by
  have hposts := append_posts terms check s
  rw [htransaction, htoken, callOf_estimate, ← htransaction, ← htoken] at hposts
  exact hposts.attempts

/-- What the text that is given has to be, once the server has estimated.  The fee in the estimate is
a whole number of 64 bits, and its address is one.  With a fee of zero the text is the one that was
given.  With any other it is that of the transaction with one instruction more, which pays exactly
the fee from the wallet to the address, with the token program that was chosen. -/
def Settles (terms : Terms) (p : Parties) (tx : Transaction) (estimate : Json)
    (text : Text) : Prop :=
  ∃ (destination : PublicKey) (fee : ℕ),
    (estimate.member "fee_in_token").toInt? = some (fee : ℤ) ∧ fee < 2 ^ 64
    ∧ Spells (estimate.member "payment_address") destination
    ∧ (fee = 0 → terms.transaction = .str text)
    ∧ (0 < fee → ∃ ix paid encoded,
      Token.Pays ix p.wallet destination p.mint p.program fee
      ∧ tx.append ix = .ok paid ∧ paid.encode .base64 = .ok encoded
      ∧ text = Text.ofString encoded)

/-- **Appending with success** has made all calls, and settles the estimate of the last reply. -/
lemma append_completes {terms : Terms} {check : Bool} {p : Parties} {tx : Transaction}
    {text : Text} {s s' : Exchange} (hnames : terms.Names p)
    (hdecode : Transaction.decode .base64 terms.transaction = .ok tx)
    (h : (append terms check).on s = (.ok text, s')) :
    ∃ asked reply estimate, Completes s s' (appendCalls terms check) (asked ++ [reply])
      ∧ (check = true → ∃ config, asked = [config] ∧ Takes config terms.feeToken)
      ∧ resultIn reply = .ok estimate ∧ Settles terms p tx estimate text := by
  obtain ⟨transaction, htransaction⟩ := text_of_decode hdecode
  obtain ⟨token, htoken, -⟩ := hnames.mint
  simp only [append_eq, on_bind_eq_ok_iff, on_ofExcept_eq_ok_iff] at h
  obtain ⟨_, _, ⟨-, rfl⟩, tx', s, ⟨hdecode', rfl⟩, _, t, hinspect, o, u, hoffer, hfinish⟩ := h
  obtain rfl := Except.ok.inj (hdecode.symm.trans hdecode')
  obtain ⟨asked, hasked, htakes⟩ := inspect_completes htoken hinspect
  obtain ⟨reply, estimate, destination, fee, hreply, hresult, hdestination, hfee, hlt, hamount,
    hpays⟩ := offer_completes htransaction htoken (Terms.parties_eq_ok_iff.mpr hnames) hoffer
  have hquiet := (finish_quiet tx o terms.transaction).advances hfinish
  refine ⟨asked, reply, estimate, (hasked.trans hreply).trans_quiet hquiet, htakes, hresult,
    destination, fee, hfee, hlt, hdestination, ?_⟩
  rw [htransaction] at hfinish ⊢
  obtain ⟨hnone, hsome⟩ := finish_eq_ok (hamount ▸ hfee) hfinish
  constructor
  · intro hzero
    rw [hnone hzero]
  · intro hpos
    obtain ⟨paid, encoded, hpaid, hencoded, htext⟩ := hsome hpos
    exact ⟨o.instruction, paid, encoded, hpays, hpaid, hencoded, htext⟩

/-- **Appending a payment pays exactly the estimated fee, or nothing.**

If an address does not parse or the transaction does not decode, the call fails and leaves
everything as it was.  Otherwise it asks for the configuration, if that is to be checked, and for
the estimate of just this transaction and token, and sends nothing else.

A text is given only after all of this was answered.  The configuration lists the token and is not
free, and the text is what `Settles` says for the estimate. -/
theorem append_pays_estimate (terms : Terms) (check : Bool) (s : Exchange) :
    ((¬ ∃ p tx, terms.Names p ∧ Transaction.decode .base64 terms.transaction = .ok tx) →
        ∃ e, (append terms check).on s = (.error e, s))
      ∧ ∀ p tx, terms.Names p → Transaction.decode .base64 terms.transaction = .ok tx →
        Attempts s ((append terms check).on s).2 (appendCalls terms check)
        ∧ ∀ text s', (append terms check).on s = (.ok text, s') →
          ∃ asked reply estimate, Completes s s' (appendCalls terms check) (asked ++ [reply])
            ∧ (check = true → ∃ config, asked = [config] ∧ Takes config terms.feeToken)
            ∧ resultIn reply = .ok estimate ∧ Settles terms p tx estimate text := by
  refine ⟨append_refused check s, ?_⟩
  intro p tx hnames hdecode
  obtain ⟨transaction, htransaction⟩ := text_of_decode hdecode
  obtain ⟨token, htoken, -⟩ := hnames.mint
  refine ⟨append_attempts htransaction htoken check s, ?_⟩
  intro text s' h
  exact append_completes hnames hdecode h

end Server

/-- A reply with a result. -/
def replyWith (result : Json) : Response :=
  .body (Text.Encoding.encodeUtf8 (Json.write (.obj [("result", result)])).toList)

/-- A client without credentials that has not sent anything, and the replies that wait for it. -/
def freshExchange (replies : List Response) : Exchange where
  connection :=
    .fresh { url := .str defaultUrl, apiKey := .null, hmacSecret := .null, challenge := none }
      true (.whole 0)
  replies := replies
  trace := .empty

/-- A key as a value. -/
def addressOf (k : PublicKey) : Json :=
  .str (.ofChars (Text.Base58.encodeChars k.bytes))

/-- A transaction that calls a program without accounts. -/
def plainTransaction : Transaction :=
  .unsigned
    { format := .legacy
      header := ⟨1, 0, 1⟩
      keys := [Block.ofNat 32 9, Block.ofNat 32 8]
      blockhash := Block.zero 32
      instructions := [⟨1, [], [7]⟩] }

/-- Terms on which a wallet pays for it. -/
def plainTerms : Terms where
  transaction := .str (.ofChars (Text.Base64.encodeChars plainTransaction.toBytes))
  feeToken := addressOf (Block.ofNat 32 5)
  sourceWallet := addressOf (Block.ofNat 32 6)
  tokenProgram := .null

/-- A configuration that takes the token. -/
def openConfig : Json :=
  .obj [("validation_config", .obj [("allowed_spl_paid_tokens",
    .arr [addressOf (Block.ofNat 32 5)])])]

/-- An estimate whose fee is a truth value. -/
def truthEstimate : Json :=
  .obj [("fee_in_token", .bool true), ("payment_address", addressOf (Block.ofNat 32 4))]

section Usual

open scoped Stack

/-- A fee that is the truth value `true` counts as one: just one is paid. -/
theorem append_pays_estimate_of_truth :
    ∃ text s', (append plainTerms true).on
        (freshExchange [replyWith openConfig, replyWith truthEstimate]) = (.ok text, s')
      ∧ ∃ ix paid encoded destination,
        Token.Pays ix (Block.ofNat 32 6) destination (Block.ofNat 32 5) Program.token 1
        ∧ plainTransaction.append ix = .ok paid ∧ paid.encode .base64 = .ok encoded
        ∧ text = Text.ofString encoded := by
  have hnames : plainTerms.Names ⟨Block.ofNat 32 5, Block.ofNat 32 6, Program.token⟩ := by
    refine ⟨⟨_, rfl, ?_⟩, ⟨_, rfl, ?_⟩, Or.inl ⟨rfl, rfl⟩⟩ <;> decide +kernel
  have hdecode : Transaction.decode .base64 plainTerms.transaction = .ok plainTransaction :=
    toOption_eq_some_iff.mp (by decide +kernel)
  have hfee : (resultIn (replyWith truthEstimate)).toOption.bind
      (fun v => (v.member "fee_in_token").toInt?) = some 1 := by decide +kernel
  -- the kernel runs the whole flow here, from the replies to the text
  obtain ⟨text, s', h⟩ := exists_of_isOk (append plainTerms true)
    (freshExchange [replyWith openConfig, replyWith truthEstimate]) (by decide +kernel)
  obtain ⟨asked, reply, estimate, hcompletes, hasked, hresult, destination, fee, hint, -, -, -,
    hpays⟩ := ((append_pays_estimate plainTerms true _).2 _ _ hnames hdecode).2 text s' h
  obtain ⟨config, rfl, -⟩ := hasked rfl
  obtain rfl : reply = replyWith truthEstimate :=
    (List.cons.inj (List.cons.inj hcompletes.served_eq).2).1
  rw [hresult] at hfee
  obtain rfl : 1 = fee := by
    have hone : some (1 : ℤ) = some (fee : ℤ) := hfee.symm.trans hint
    exact_mod_cast Option.some.inj hone
  obtain ⟨ix, paid, encoded, hpay⟩ := hpays one_pos
  exact ⟨text, s', h, ix, paid, encoded, destination, hpay⟩

end Usual

end Payment

end Paymaster
