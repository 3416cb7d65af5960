import Mathlib
import Paymaster.Proofs.Delivery
import Paymaster.Proofs.PaymentPaths
import Paymaster.Proofs.SentRequests

/-!
# Payments that no reply can help

Before a client asks for a fee it looks whether its arguments are addresses.  Whether a payment can
be made with these addresses it sees only when the reply is there.

**Accounts.**  `Token.HasAccount` says what it takes for a wallet to have an account for a token: one
of the two token programs, and a counting byte that gives no curve point.  No reply changes it.

**Asking.**  Arguments that are no addresses are refused with nothing sent (`offer_refused`).  All
others are asked about as soon as the call reaches the network (`offer_delivers`).

**Answers.**  If the wallet has an account and the address names a server, an estimate of nothing
lets the payment be made up (`offer_of_reply`); if not, then no reply does (`hopeless_iff`).  So a
request is sent in vain in just the cases of `hopeless_offer_sends_iff`.
-/

namespace Paymaster

open Rpc Rpc.Action

/-! ## Accounts -/

namespace Token

variable {owner mint program wallet : PublicKey}

/-- A wallet has an account for a token under a program: the search for it comes to an end before
the counting byte comes to zero. -/
def HasAccount (owner mint program : PublicKey) : Prop :=
  (program = Program.token ∨ program = Program.token2022)
    ∧ ∃ bump : UInt8, 0 < bump
      ∧ Crypto.Edwards.isPoint (candidate owner program mint bump) = false

lemma searchAddress_eq_none_iff {count : ℕ} :
    searchAddress owner program mint count = none ↔
      ∀ n, 0 < n → n ≤ count →
        Crypto.Edwards.isPoint (candidate owner program mint (UInt8.ofNat n)) = true := by
  induction count with
  | zero =>
      refine ⟨fun _ n hpos hn => ?_, fun _ => rfl⟩
      omega
  | succ count ih =>
      rw [searchAddress]
      split_ifs with hpoint
      · rw [ih]
        constructor
        · intro h n hpos hn
          rcases Nat.le_succ_iff.mp hn with hn | rfl
          · exact h n hpos hn
          · exact hpoint
        · exact fun h n hpos hn => h n hpos (by omega)
      · constructor
        · intro h
          cases h
        · exact fun h => absurd (h (count + 1) (by omega) le_rfl) hpoint

/-- The search for an account finds none just when every counting byte but zero gives a point. -/
lemma searchAddress_all_eq_none_iff :
    searchAddress owner program mint 255 = none
      ↔ ∀ bump : UInt8, 0 < bump →
        Crypto.Edwards.isPoint (candidate owner program mint bump) = true := by
  rw [searchAddress_eq_none_iff]
  constructor
  · intro h bump hpos
    have hbump := bump.toNat_lt
    rw [← UInt8.ofNat_toNat (x := bump)]
    exact h bump.toNat (UInt8.lt_iff_toNat_lt.mp hpos) (by omega)
  · intro h n hpos hn
    refine h _ (UInt8.lt_iff_toNat_lt.mpr ?_)
    rw [UInt8.toNat_ofNat_of_lt' (Nat.lt_succ_of_le hn)]
    exact hpos

lemma associatedAccount_isOk_iff :
    (∃ account, associatedAccount owner mint program = .ok account)
      ↔ HasAccount owner mint program := by
  have hprogram : isTokenProgram program = true
      ↔ program = Program.token ∨ program = Program.token2022 := by
    simp [isTokenProgram]
  unfold associatedAccount HasAccount
  rw [← hprogram]
  cases isTokenProgram program with
  | false => simp
  | true =>
      have hsearch : (∃ bump : UInt8, 0 < bump
          ∧ Crypto.Edwards.isPoint (candidate owner program mint bump) = false)
          ↔ searchAddress owner program mint 255 ≠ none := by
        simp [searchAddress_all_eq_none_iff]
      rw [hsearch]
      cases searchAddress owner program mint 255 with
      | none => simp
      | some address => simp

/-- What can be paid is paid from an account. -/
lemma hasAccount_of_payment {destination : PublicKey} {amount : Json} {ix : Instruction}
    (h : payment wallet destination mint amount program = .ok ix) :
    HasAccount wallet mint program := by
  obtain ⟨_, -, -, source, _, hsource, -⟩ := payment_pays h
  exact associatedAccount_isOk_iff.mp ⟨source, hsource⟩

/-- A wallet with an account can pay nothing to itself. -/
lemma payment_of_hasAccount (h : HasAccount wallet mint program) :
    ∃ ix, payment wallet wallet mint (.int 0) program = .ok ix := by
  obtain ⟨account, haccount⟩ := associatedAccount_isOk_iff.mpr h
  have hamount : amountOf (.int 0) = .ok 0 := rfl
  rw [payment, haccount, hamount]
  exact ⟨_, rfl⟩

end Token

namespace Payment

section Server

variable [Stack]

/-! ## Asking -/

/-- The call that asks for the fee of some terms. -/
def feeCall (terms : Terms) : Call :=
  Method.estimateTransactionFee.callOf
    [("transaction", terms.transaction), ("fee_token", terms.feeToken)]

lemma estimate_eq (terms : Terms) :
    estimate terms.transaction terms.feeToken = (do
      let v ← request (feeCall terms).method (feeCall terms).params
      let record ← ofExcept (Reply.decode Method.estimateTransactionFee.reply.fields v)
      return .ofRecord record) := by
  have hannounce : Method.estimateTransactionFee.announce = pure () := rfl
  rw [estimate, Method.call_eq, hannounce, pure_bind, bind_assoc]
  rfl

/-- **Refused before the server is asked**: arguments that are no addresses. -/
lemma offer_refused {terms : Terms} (h : ¬ ∃ p, terms.Names p) (s : Exchange) :
    ∃ e, (offer terms).on s = (.error e, s) := by
  rw [offer, on_bind, on_ofExcept]
  cases hparties : terms.parties with
  | error e => exact ⟨e, rfl⟩
  | ok p => exact absurd ⟨p, Terms.parties_eq_ok_iff.mp hparties⟩ h

/-- **Addresses are asked about** as soon as the call reaches the network. -/
lemma offer_delivers {terms : Terms} {p : Parties} (h : terms.Names p) (s : Exchange) :
    ∃ sent served, Advances s ((offer terms).on s).2 1 sent served
      ∧ ((feeCall terms).Reaches s.connection → ∃ r, sent = [r])
      ∧ (¬ (feeCall terms).Reaches s.connection → sent = []) := by
  obtain ⟨sent, served, hadv, honce, hnone⟩ :=
    request_delivers (feeCall terms).method (feeCall terms).params s
  refine ⟨sent, served, ?_, fun hreaches => ?_, hnone⟩
  · rw [offer, on_bind, on_ofExcept, Terms.parties_eq_ok_iff.mpr h, estimate_eq]
    simp only [bind_assoc]
    refine hadv.bind_quiet fun v => (Quiet.ofExcept _).bind fun record => ?_
    refine (Quiet.pure _).bind fun e => (Quiet.ofExcept _).bind fun amount => ?_
    refine (Quiet.ofExcept _).bind fun destination => (Quiet.ofExcept _).bind fun ix => ?_
    exact (Quiet.note _).bind fun _ => Quiet.pure _
  · obtain ⟨r, hr, -⟩ := honce hreaches
    exact ⟨r, hr⟩

/-! ## Answers -/

/-- The result in a reply is what was put into it. -/
lemma resultIn_replyWith {result : Json} (hplain : result.Plain)
    (hfits : (Json.obj [("result", result)]).obstacle? false Stack.reading = none) :
    resultIn (replyWith result) = .ok result := by
  have hwhole : (Json.obj [(Text.ofString "result", result)]).Plain := by
    simp [Json.Plain, Json.PlainMembers, whole_ofString, hplain]
  rw [replyWith, resultIn, Json.ofBytes?_write hwhole hfits]
  rfl

/-- An estimate of nothing, to be paid to a wallet. -/
def nothingFor (wallet : PublicKey) : Json :=
  .obj [("fee_in_token", .int 0), ("payment_address", .str wallet.text)]

lemma resultIn_nothingFor (wallet : PublicKey) :
    resultIn (replyWith (nothingFor wallet)) = .ok (nothingFor wallet) := by
  apply resultIn_replyWith
  · simp [nothingFor, Json.Plain, Json.PlainMembers, whole_ofString, Text.ofString_injective.eq_iff]
  · exact Json.obstacle?_of_le (le_trans (by decide : 2 ≤ 8) Stack.le_reading) rfl

/-- **An estimate of nothing lets a payment be made up**, if the wallet has an account. -/
lemma offer_of_reply {terms : Terms} {p : Parties} {s : Exchange} (hnames : terms.Names p)
    (haccount : Token.HasAccount p.wallet p.mint p.program)
    (hreaches : (feeCall terms).Reaches s.connection)
    (hserver : s.connection.settings.NamesServer) :
    ∃ o w, (offer terms).on { s with replies := [replyWith (nothingFor p.wallet)] }
      = (.ok o, w) := by
  obtain ⟨ix, hpayment⟩ := Token.payment_of_hasAccount haccount
  obtain ⟨u, hrequest⟩ := request_of_reply
    (s := { s with replies := [replyWith (nothingFor p.wallet)] }) hreaches hserver rfl
    (resultIn_nothingFor p.wallet)
  obtain ⟨record, hrecord⟩ : ∃ record, Reply.decode Method.estimateTransactionFee.reply.fields
      (nothingFor p.wallet) = .ok record := ⟨_, rfl⟩
  obtain ⟨hfee, haddress⟩ := Reply.estimate_of_decode hrecord
  have hestimate : (estimate terms.transaction terms.feeToken).on
      { s with replies := [replyWith (nothingFor p.wallet)] } = (.ok (.ofRecord record), u) := by
    simp only [estimate_eq, on_bind_eq_ok_iff, on_ofExcept_eq_ok_iff, on_pure_eq_ok_iff]
    exact ⟨_, u, hrequest, record, u, ⟨hrecord, rfl⟩, rfl, rfl⟩
  have hamount : (Reply.FeeEstimate.ofRecord record).fee terms.feeToken = .ok (.int 0) := by
    rw [Reply.FeeEstimate.fee, hfee]
    rfl
  have hspells : Spells (Reply.FeeEstimate.ofRecord record).paymentAddress p.wallet := by
    rw [haddress]
    exact ⟨p.wallet.text, rfl, PublicKey.ofText?_text p.wallet⟩
  obtain ⟨o, w, hoffer, -⟩ := offer_of_estimate (Terms.parties_eq_ok_iff.mpr hnames) hestimate
    hamount hspells hpayment
  exact ⟨o, w, hoffer⟩

/-- A payment that is made up names a wallet with an account, and its estimate came from a server. -/
lemma reaches_of_offer {terms : Terms} {o : Offer} {s s' : Exchange}
    (h : (offer terms).on s = (.ok o, s')) :
    (feeCall terms).Reaches s.connection ∧ s.connection.settings.NamesServer
      ∧ ∃ p, terms.Names p ∧ Token.HasAccount p.wallet p.mint p.program := by
  simp only [offer, on_bind_eq_ok_iff, on_ofExcept_eq_ok_iff, estimate_eq] at h
  obtain ⟨p, _, ⟨hparties, rfl⟩, _, _, ⟨v, _, hrequest, -⟩, amount, _, -, destination, _, -, ix, _,
    ⟨hpayment, -⟩, -⟩ := h
  obtain ⟨hreaches, hserver⟩ := reaches_of_request hrequest
  exact ⟨hreaches, hserver, p, Terms.parties_eq_ok_iff.mp hparties,
    Token.hasAccount_of_payment hpayment⟩

/-- No reply of the server lets a payment be made up. -/
def Hopeless (terms : Terms) (s : Exchange) : Prop :=
  ∀ replies o s', (offer terms).on { s with replies } ≠ (.ok o, s')

/-- **Terms are hopeless** unless the call reaches a server and the arguments name a wallet with an
account. -/
lemma hopeless_iff (terms : Terms) (s : Exchange) :
    Hopeless terms s ↔ ¬ ((feeCall terms).Reaches s.connection
      ∧ s.connection.settings.NamesServer
      ∧ ∃ p, terms.Names p ∧ Token.HasAccount p.wallet p.mint p.program) := by
  constructor
  · rintro h ⟨hreaches, hserver, p, hnames, haccount⟩
    obtain ⟨o, w, hoffer⟩ := offer_of_reply hnames haccount hreaches hserver
    exact h _ o w hoffer
  · intro h replies o s' hoffer
    exact h (reaches_of_offer (s := { s with replies }) hoffer)

/-- **A request goes out** just when the arguments are addresses and the call reaches the network,
whatever is replied. -/
lemma offer_sends_iff (terms : Terms) (s : Exchange) :
    ((offer terms).on s).2.trace.requests ≠ s.trace.requests
      ↔ (feeCall terms).Reaches s.connection ∧ ∃ p, terms.Names p := by
  by_cases hnames : ∃ p, terms.Names p
  · obtain ⟨p, hp⟩ := hnames
    obtain ⟨sent, served, hadv, honce, hnone⟩ := offer_delivers hp s
    rw [hadv.requests]
    constructor
    · intro hsent
      refine ⟨by_contra fun hreaches => hsent ?_, p, hp⟩
      rw [hnone hreaches, List.append_nil]
    · rintro ⟨hreaches, -⟩
      obtain ⟨r, rfl⟩ := honce hreaches
      simp
  · obtain ⟨e, hrefused⟩ := offer_refused hnames s
    rw [hrefused]
    simp [hnames]

lemma Terms.Names.unique {terms : Terms} {p p' : Parties} (h : terms.Names p)
    (h' : terms.Names p') : p = p' :=
  Except.ok.inj ((Terms.parties_eq_ok_iff.mpr h).symm.trans (Terms.parties_eq_ok_iff.mpr h'))

/-- **When a request is sent in vain.**

Take any terms and any client.  If an argument is no address, then whatever is replied the call fails
and changes nothing.

Otherwise it may be that no reply would let the payment be made up, and still a request is sent.  That
is so in just these cases: the call reaches the network, and either the wallet has no account for the
token under the program that was named, or the address of the client names no server.  In particular
a program is asked about that is an address and none of the two token programs. -/
theorem hopeless_offer_sends_iff (terms : Terms) (s : Exchange) :
    ((¬ ∃ p, terms.Names p) → ∀ replies, ∃ e,
        (offer terms).on { s with replies } = (.error e, { s with replies }))
      ∧ ∀ replies, (Hopeless terms s
          ∧ ((offer terms).on { s with replies }).2.trace.requests ≠ s.trace.requests)
        ↔ (feeCall terms).Reaches s.connection
          ∧ ∃ p, terms.Names p
            ∧ (¬ Token.HasAccount p.wallet p.mint p.program
              ∨ ¬ s.connection.settings.NamesServer) := by
  refine ⟨fun hnone replies => offer_refused hnone { s with replies }, ?_⟩
  intro replies
  have hsends := offer_sends_iff terms { s with replies }
  rw [hopeless_iff]
  constructor
  · rintro ⟨hnone, hsent⟩
    obtain ⟨hreaches, p, hp⟩ := hsends.mp hsent
    refine ⟨hreaches, p, hp, ?_⟩
    by_contra hboth
    rw [not_or, not_not, not_not] at hboth
    exact hnone ⟨hreaches, hboth.2, p, hp, hboth.1⟩
  · rintro ⟨hreaches, p, hp, hwhy⟩
    refine ⟨?_, hsends.mpr ⟨hreaches, p, hp⟩⟩
    rintro ⟨-, hserver, p', hp', haccount⟩
    rw [hp'.unique hp] at haccount
    rcases hwhy with hwhy | hwhy
    · exact hwhy haccount
    · exact hwhy hserver

end Server

/-- Terms that name a program which is an address, and has no tokens. -/
def foreignTerms : Terms where
  transaction := .str "AQ=="
  feeToken := .str (Block.ofNat 32 5 : PublicKey).text
  sourceWallet := .str (Block.ofNat 32 6 : PublicKey).text
  tokenProgram := .str Program.associatedToken.text

section Usual

open scoped Stack

/-- With such a program no reply helps, and still the fee is asked for. -/
theorem foreign_program_is_asked_about :
    Hopeless foreignTerms (freshExchange [])
      ∧ ((offer foreignTerms).on (freshExchange [])).2.trace.requests ≠ [] := by
  have hnames : foreignTerms.Names ⟨Block.ofNat 32 5, Block.ofNat 32 6, Program.associatedToken⟩ :=
    ⟨⟨_, rfl, PublicKey.ofText?_text _⟩, ⟨_, rfl, PublicKey.ofText?_text _⟩,
      Or.inr ⟨_, rfl, PublicKey.ofText?_text _⟩⟩
  constructor
  · rw [hopeless_iff]
    rintro ⟨-, -, p, hp, hprogram, -⟩
    rw [hp.unique hnames] at hprogram
    revert hprogram
    decide
  · decide +kernel

end Usual

end Payment

end Paymaster
