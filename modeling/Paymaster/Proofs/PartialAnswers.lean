import Mathlib
import Paymaster.Command.ShowConfig
import Paymaster.Proofs.Commands
import Paymaster.Proofs.Delivery
import Paymaster.Proofs.Nesting
import Paymaster.Proofs.Replies
import Paymaster.Proofs.SentRequests

/-!
# A report in spite of failures

The command that shows a server's configuration asks three things of it, and can do without the
answers to the last two.  This file says that it then still makes its report.

**Shares.**  The margin of a price is shown as a percentage, in double precision.  A whole number can
be shown as long as its hundredfold is nearer to a finite number than to the power of two behind the
greatest (`Double.exists_ofRatio_eq_finite`, `Json.IsShare`).

**Calls.**  A call of a method that warns of nothing is one call of the server
(`Method.call_delivers`), and succeeds just when it reaches a server whose reply can be read
(`Method.call_isOk_iff`).  Where one call reaches the network the next does as well
(`Call.Reaches.of_advances`).

**The report.**  Every part of a configuration is printed by its lines, once the margin can be shown
(`prints_config`), and the answers to the other calls by theirs, whatever they are.  The lines of a
run are those of its parts (`reportLines`), as long as the stream takes them.

The main statement is `reports_configuration_despite_failures`.
-/

namespace Paymaster

/-! ## Shares -/

/-- Less than halfway to the next natural, the rounding does not reach it. -/
lemma roundDiv_le {num den q : ℕ} (h : 2 * num < (2 * q + 1) * den) : roundDiv num den ≤ q := by
  have hden : 0 < den := by
    rcases Nat.eq_zero_or_pos den with rfl | hpos
    · simp at h
    · exact hpos
  have hnear := (roundDiv_near num den hden).1
  by_contra hlt
  have hmul : (q + 1) * den ≤ roundDiv num den * den := Nat.mul_le_mul_right den (by omega)
  have hsplit : (2 * q + 1) * den + den = 2 * ((q + 1) * den) := by ring
  omega

namespace Double

lemma log2_le_of_lt {n : ℕ} (h : n < (2 ^ 54 - 1) * 2 ^ 970) : n.log2 ≤ 1023 := by
  by_cases hzero : n = 0
  · rw [hzero]
    decide
  · have hpow : n < 2 ^ (54 + 970) := by
      rw [pow_add]
      omega
    have hlt := (Nat.log2_lt hzero).mpr hpow
    omega

/-- Below the middle between the greatest significand and the power of two behind it, the rounding
does not reach that power. -/
lemma roundDiv_ne_of_lt {n k : ℕ} (h : n < (2 ^ 54 - 1) * 2 ^ k) :
    roundDiv n (2 ^ (k + 1)) ≠ 2 ^ 53 := by
  have hhalf : 2 * n < (2 * (2 ^ 53 - 1) + 1) * 2 ^ (k + 1) := by
    rw [pow_succ]
    omega
  have hle := roundDiv_le hhalf
  omega

/-- **Whole numbers below the halfway point are finite**: the greatest number has a significand of 53
ones, and what is rounded to it lies less than half of its last place above it. -/
lemma exists_ofRatio_eq_finite {n : ℕ} (h : n < (2 ^ 54 - 1) * 2 ^ 970) (negative : Bool) :
    ∃ significand exponent, ofRatio negative n 1 = finite negative significand exponent := by
  by_cases hzero : n = 0
  · exact ⟨_, _, if_pos hzero⟩
  have hlog := log2_le_of_lt h
  have hone : Nat.log2 1 = 0 := by decide
  -- the exponent is kept as a variable, so that no power of it is evaluated
  obtain ⟨k, hk, hlast⟩ : ∃ k, k = 970 ∧ greatestExponent.toNat = k + 1 := ⟨970, rfl, rfl⟩
  rw [← hk] at h
  unfold ofRatio
  rw [if_neg hzero]
  dsimp only
  generalize hexponent : max _ leastExponent = e
  have he : e ≤ greatestExponent := by
    rw [← hexponent, hone, leastExponent, greatestExponent]
    split_ifs <;> omega
  have hcarries : e = greatestExponent →
      roundDiv (n * Nat.pow 2 (-e).toNat) (1 * Nat.pow 2 e.toNat) ≠ Nat.pow 2 53 := by
    rintro rfl
    have hdown : (-greatestExponent).toNat = 0 := rfl
    rw [hdown, hlast, Nat.pow_eq, Nat.pow_eq, pow_zero, mul_one, one_mul]
    exact roundDiv_ne_of_lt h
  refine ⟨_, _, if_pos ?_⟩
  split_ifs with hcarry
  · exact Int.add_one_le_of_lt (lt_of_le_of_ne he fun heq => hcarries heq hcarry)
  · exact he

end Double

/-- A value can be shown as a percentage: a truth value, a number of double precision, or a whole
number whose hundredfold is in the range of these. -/
def Json.IsShare : Json → Prop
  | .null | .bool _ | .double _ => True
  | .int n => (n * 100).natAbs < (2 ^ 54 - 1) * 2 ^ 970
  | _ => False

namespace Rpc

open Paymaster.Rpc.Action

/-! ## Calls -/

variable [Stack]

namespace Method

variable {m : Method} (hsilent : m.warning = none) (arguments : List (Text × Json))
include hsilent

lemma call_of_silent : m.call arguments = (do
    let v ← request (.str m.name) (m.paramsOf arguments)
    ofExcept (Reply.decode m.reply.fields v)) := by
  rw [call_eq, announce, hsilent]
  rfl

/-- **A call takes one number, and sends its request if it reaches the network.** -/
lemma call_delivers (s : Exchange) :
    ∃ sent served, Advances s ((m.call arguments).on s).2 1 sent served
      ∧ ((m.callOf arguments).Reaches s.connection →
        ∃ r, sent = [r] ∧ r.IsFor s.connection.settings s.connection.nextId (m.callOf arguments))
      ∧ (¬ (m.callOf arguments).Reaches s.connection → sent = []) := by
  obtain ⟨sent, served, hadv, hsends⟩ :=
    request_delivers (.str m.name) (m.paramsOf arguments) s
  rw [call_of_silent hsilent]
  exact ⟨sent, served, hadv.bind_quiet fun _ => Quiet.ofExcept _, hsends⟩

/-- **A call succeeds** just when it reaches a server, and its reply says a result that can be read. -/
lemma call_isOk_iff {record : Reply.Record m.reply.fields} {s : Exchange} :
    ((m.call arguments).on s).1 = .ok record
      ↔ (m.callOf arguments).Reaches s.connection ∧ s.connection.settings.NamesServer
        ∧ ∃ reply others v, s.replies = reply :: others ∧ resultIn reply = .ok v
          ∧ Reply.decode m.reply.fields v = .ok record := by
  constructor
  · intro h
    obtain ⟨s', h⟩ : ∃ s', (m.call arguments).on s = (.ok record, s') := ⟨_, Prod.ext h rfl⟩
    obtain ⟨reply, v, hcompletes, hresult, hdecode⟩ := call_completes h
    obtain ⟨others, hreplies⟩ := List.head?_eq_some_iff.mp hcompletes.head?_replies
    rw [call_of_silent hsilent] at h
    obtain ⟨w, t, hrequest, -⟩ := on_bind_eq_ok_iff.mp h
    obtain ⟨hreaches, hserver⟩ := reaches_of_request hrequest
    exact ⟨hreaches, hserver, reply, others, v, hreplies, hresult, hdecode⟩
  · rintro ⟨hreaches, hserver, reply, others, v, hreplies, hresult, hdecode⟩
    obtain ⟨s', hrequest⟩ := request_of_reply hreaches hserver hreplies hresult
    have h : (m.call arguments).on s = (.ok record, s') := by
      rw [call_of_silent hsilent]
      exact on_bind_eq_ok_iff.mpr ⟨v, s', hrequest, on_ofExcept_eq_ok_iff.mpr ⟨hdecode, rfl⟩⟩
    exact congrArg Prod.fst h

end Method

/-- **Where one call reaches the network the next does as well**, if its body can be written and no
challenge has to be answered. -/
lemma Call.Reaches.of_advances {call next : Call} {s t : Exchange} {ids : ℕ} {sent : List Request}
    {served : List Response} (h : call.Reaches s.connection) (hadv : Advances s t ids sent served)
    (hchallenge : s.connection.settings.challenge = none)
    (hfits : (envelope next.method next.params (.int t.connection.nextId)).unwritable? = none) :
    next.Reaches t.connection where
  key := by
    rw [hadv.settings]
    exact h.key
  secret := by
    rw [hadv.settings, hadv.clock]
    exact h.secret
  answer := by
    rw [hadv.settings]
    exact Or.inl hchallenge
  isOpen := hadv.isClosed.trans h.isOpen
  fits := hfits
  address := by
    rw [hadv.settings]
    exact h.address

end Rpc

namespace Command.ShowConfig

open Rpc

/-! ## The report -/

/-- **A share that is there has a percentage.** -/
lemma exists_percentage {share : Json} (h : share.IsShare) (hthere : share ≠ .null) :
    ∃ text, percentage share = .ok text := by
  have hwhole : ∀ n : ℤ, (n * 100).natAbs < (2 ^ 54 - 1) * 2 ^ 970 →
      ∃ x, Double.ofInt? (n * 100) = some x := by
    intro n hn
    obtain ⟨significand, exponent, hfinite⟩ :=
      Double.exists_ofRatio_eq_finite hn (decide (n * 100 < 0))
    exact ⟨_, by rw [Double.ofInt?, hfinite]⟩
  cases share with
  | null => exact absurd rfl hthere
  | bool b =>
      cases b with
      | false => exact ⟨_, rfl⟩
      | true => exact ⟨_, rfl⟩
  | int n =>
      obtain ⟨x, hx⟩ := hwhole n h
      simp only [percentage, hx]
      exact ⟨_, rfl⟩
  | double x => exact ⟨_, rfl⟩
  | _ => exact h.elim

/-- The line of a value in a list. -/
def valueLine (v : Json) : Text :=
  "  " ++ v.display

/-- The line of a margin, if there is one and it has a percentage. -/
def marginLines : Json → List Text
  | .null => []
  | margin =>
    match percentage margin with
    | .ok text => ["Margin:                 " ++ text ++ "%"]
    | .error _ => []

/-- The line of a fixed amount, if there is one. -/
def amountLines (amount token : Json) : List Text :=
  match amount with
  | .null => []
  | amount => ["Fixed Amount:           " ++ amount.display ++ " of " ++ token.display]

/-- The lines of a price. -/
def priceLines (price : Reply.Price) : List Text :=
  ["Price Model:            " ++ price.model.display] ++ marginLines price.margin
    ++ amountLines price.amount price.token

/-- The lines of what the server takes. -/
def validationLines (v : Reply.Validation) : List Text :=
  [("=== Validation ===" : Text),
   "Max Allowed Lamports:   " ++ v.maxAllowedLamports.display,
   "Max Signatures:         " ++ v.maxSignatures.display,
   "Price Source:           " ++ v.priceSource.display]
  ++ priceLines v.price
  ++ [("Allowed Programs:       " ++ count v.allowedPrograms : Text),
   "Disallowed Accounts:    " ++ count v.disallowedAccounts,
   "",
   "=== Paid Tokens (" ++ count v.paidTokens ++ ") ==="]
  ++ v.paidTokens.map valueLine
  ++ [("" : Text),
   "=== Fee Payer Policy ===",
   "System Transfer:        " ++ v.transfers.system.display,
   "SPL Transfer:           " ++ v.transfers.token.display,
   "Token-2022 Transfer:    " ++ v.transfers.token2022.display,
   ""]

/-- The lines of a configuration. -/
def configLines (config : Reply.Config) : List Text :=
  [("=== Fee Payers ===" : Text)] ++ config.feePayers.map valueLine ++ [("" : Text)]
  ++ validationLines config.validation
  ++ [("=== Enabled Methods (" ++ count (enabledNames config) ++ ") ===" : Text)]
  ++ (enabledNames config).map valueLine ++ [("" : Text)]

/-- The line of the version, or of why there is none. -/
def versionLines : Except Error (Reply.Record Reply.Catalog.version.fields) → List Text
  | .ok record => ["Server Version:         " ++ (Reply.versionOf record).display]
  | .error e => ["Server Version:         unavailable (" ++ e.message ++ ")"]

/-- The lines of the payer, or of why there is none. -/
def signerLines : Except Error (Reply.Record Reply.Catalog.payerSigner.fields) → List Text
  | .ok record =>
    ["=== Payer Signer ===",
     "Signer:                 " ++ (Reply.PayerSigner.ofRecord record).signer.display,
     "Payment Destination:    " ++ (Reply.PayerSigner.ofRecord record).paymentDestination.display]
  | .error e => ["=== Payer Signer ===", "  Error: " ++ e.message]

lemma prints_values (values : List Json) : Prints (printAll values) (values.map valueLine) :=
  Prints.lines valueLine values

/-- Prints a margin, if there is one. -/
def printMargin : Json → Job Unit
  | .null => pure ()
  | margin => do
    let text ← Job.require (percentage margin)
    Job.print ("Margin:                 " ++ text ++ "%")

/-- Prints a fixed amount, if there is one. -/
def printAmount (amount token : Json) : Job Unit :=
  match amount with
  | .null => pure ()
  | amount => Job.print ("Fixed Amount:           " ++ amount.display ++ " of " ++ token.display)

/-- A price is printed in three parts. -/
lemma printPrice_eq (price : Reply.Price) : printPrice price = (do
    Job.print ("Price Model:            " ++ price.model.display)
    printMargin price.margin
    printAmount price.amount price.token) := by
  unfold printPrice printMargin
  cases price.margin <;> simp only [bind_assoc, pure_bind] <;> rfl

lemma prints_margin {margin : Json} (h : margin.IsShare) :
    Prints (printMargin margin) (marginLines margin) := by
  by_cases hnull : margin = .null
  · rw [hnull]
    exact Prints.nothing
  · obtain ⟨text, htext⟩ := exists_percentage h hnull
    cases margin with
    | null => exact absurd rfl hnull
    | _ =>
        simp only [printMargin, marginLines, htext]
        exact Prints.line _

lemma prints_amount (amount token : Json) :
    Prints (printAmount amount token) (amountLines amount token) := by
  cases amount with
  | null => exact Prints.nothing
  | _ => exact Prints.line _

lemma prints_price {price : Reply.Price} (h : price.margin.IsShare) :
    Prints (printPrice price) (priceLines price) := by
  rw [printPrice_eq, priceLines, List.append_assoc]
  exact (Prints.line _).append <| (prints_margin h).append <| prints_amount _ _

lemma prints_validation {v : Reply.Validation} (h : v.price.margin.IsShare) :
    Prints (printValidation v) (validationLines v) := by
  simp only [validationLines, List.append_assoc]
  exact (Prints.line _).append <| (Prints.line _).append <| (Prints.line _).append <|
    (Prints.line _).append <| (prints_price h).append <| (Prints.line _).append <|
    (Prints.line _).append <| (Prints.line _).append <| (Prints.line _).append <|
    (prints_values v.paidTokens).append <| (Prints.line _).append <| (Prints.line _).append <|
    (Prints.line _).append <| (Prints.line _).append <| (Prints.line _).append <| Prints.line _

/-- **A configuration is printed by its lines** if its margin can be shown. -/
lemma prints_config {config : Reply.Config} (h : config.validation.price.margin.IsShare) :
    Prints (printConfig config) (configLines config) := by
  simp only [configLines, List.append_assoc]
  exact (Prints.line _).append <| (prints_values config.feePayers).append <|
    (Prints.line _).append <| (prints_validation h).append <| (Prints.line _).append <|
    (prints_values (enabledNames config)).append <| Prints.line _

lemma prints_version (answer : Except Error (Reply.Record Reply.Catalog.version.fields)) :
    Prints (printVersion answer) (versionLines answer) := by
  cases answer with
  | ok record => exact (Prints.line _).rescue _
  | error e => exact Prints.rescue_of_failed (fun _ => rfl) (Prints.line _)

lemma prints_signer (answer : Except Error (Reply.Record Reply.Catalog.payerSigner.fields)) :
    Prints (printSigner answer) (signerLines answer) := by
  cases answer with
  | ok record =>
      exact ((Prints.line _).append <| (Prints.line _).append <| Prints.line _).rescue _
  | error e =>
      exact Prints.rescue_of_failed (fun _ => rfl) ((Prints.line _).append <| Prints.line _)

/-- What is printed first. -/
def banner (url : Json) : Text :=
  "Fetching paymaster configuration from " ++ url.display ++ "...\n"

/-- The lines of a run without a configuration. -/
def failureLines (url : Json) (e : Error) : List Text :=
  [banner url] ++ [("Error fetching config: " ++ e.message : Text)]

/-- The lines of a whole report: what is shown of the configuration stands between the version and
the payer. -/
def reportLines (url : Json) (config : Reply.Config)
    (version : Except Error (Reply.Record Reply.Catalog.version.fields))
    (signer : Except Error (Reply.Record Reply.Catalog.payerSigner.fields)) : List Text :=
  [banner url] ++ versionLines version ++ [("" : Text)] ++ configLines config
    ++ signerLines signer ++ [("" : Text)] ++ [("Done." : Text)]

section Run

variable [Stack] (url : Json) {stream : Stream} {s t : Exchange}

/-- **Without a configuration** the command ends behind the one call. -/
lemma on_job_of_error {e : Error} (h : (Method.getConfig.call []).on s = (.error e, t))
    (htakes : stream.Takes (failureLines url e)) (output errors : Text) :
    (job url).on ⟨stream, output, errors, s⟩ = (.error (.exit 1),
      ⟨stream, output ++ Text.unlines (failureLines url e), errors, t⟩) := by
  rw [failureLines, banner] at htakes ⊢
  obtain ⟨hbanner, hmessage⟩ := Stream.takes_append.mp htakes
  rw [job, (Prints.line _).on_then hbanner, Job.on_attempt_bind, h]
  dsimp only
  rw [(Prints.line _).on_then hmessage, Job.on_exit, Text.unlines_append, Text.append_assoc]

/-- **With a configuration** the command goes on to its end, whatever the other calls come to. -/
lemma on_job_of_record {record : Reply.Record Reply.Catalog.config.fields}
    (h : (Method.getConfig.call []).on s = (.ok record, t))
    (hshare : (Reply.Config.ofRecord record).validation.price.margin.IsShare)
    (output errors : Text) :
    let version := (Method.getVersion.call []).on t
    let signer := (Method.getPayerSigner.call []).on version.2
    let lines := reportLines url (.ofRecord record) version.1 signer.1
    stream.Takes lines →
      (job url).on ⟨stream, output, errors, s⟩
        = (.ok (), ⟨stream, output ++ Text.unlines lines, errors, signer.2⟩) := by
  intro version signer lines htakes
  simp only [lines, reportLines, banner, Stream.takes_append] at htakes
  obtain ⟨⟨⟨⟨⟨⟨hbanner, hversion⟩, hblank⟩, hconfig⟩, hsigner⟩, hend⟩, hdone⟩ := htakes
  rw [job, (Prints.line _).on_then hbanner, Job.on_attempt_bind, h]
  dsimp only
  rw [Job.on_attempt_bind, (prints_version _).on_then hversion, (Prints.line _).on_then hblank,
    (prints_config hshare).on_then hconfig, Job.on_attempt_bind, (prints_signer _).on_then hsigner,
    (Prints.line _).on_then hend, Prints.line _ _ hdone]
  simp only [lines, reportLines, banner, Console.printed, Text.append_assoc, Text.unlines_append,
    List.append_assoc]
  rfl

end Run

/-! ## The requests -/

lemma plain_callOf {m : Method} (hbare : m.operation.parameters = []) : (m.callOf []).Plain := by
  refine ⟨whole_ofString m.name, ?_⟩
  simp only [Method.callOf, Method.paramsOf, hbare]
  trivial

section Requests

variable [Stack]

/-- A call without parameters can be written under a number of one digit: there is room for the
object around it. -/
lemma fits_callOf {m : Method} (hbare : m.operation.parameters = []) {id : ℕ} (hid : id < 10) :
    (envelope (m.callOf []).method (m.callOf []).params (.int id)).unwritable? = none := by
  have hroom : 1 ≤ Stack.writing := Nat.le_trans (by decide) Stack.le_writing
  have hdigits : ¬ Numeral.digitLimit < (Numeral.decimal id).length := by
    have hlength : (Numeral.decimal id).length ≤ 1 := Numeral.length_decimal_le one_pos hid
    rw [Numeral.digitLimit]
    omega
  refine Json.obstacle?_of_le hroom ?_
  simp only [Method.callOf, Method.paramsOf, hbare, envelope, Json.obstacle?,
    Json.obstacleOfMembers?, Int.natAbs_natCast, if_neg hdigits]
  rfl

/-- A call without parameters that reaches the network sends the one request that carries it. -/
lemma call_carries {m : Method} (hsilent : m.warning = none) (hbare : m.operation.parameters = [])
    {s : Exchange} (hreaches : (m.callOf []).Reaches s.connection) :
    ∃ r served, Advances s ((m.call []).on s).2 1 [r] served
      ∧ r.Carries s.connection.settings s.connection.nextId (m.callOf []) := by
  obtain ⟨sent, served, hadv, honce, -⟩ := Method.call_delivers hsilent [] s
  obtain ⟨r, rfl, hfor⟩ := honce hreaches
  exact ⟨r, served, hadv, carries_of_isFor hfor (plain_callOf hbare)⟩

/-- **Three calls, three requests**: where the first call reaches the network the others do as well,
whatever is replied. -/
lemma requests_of_calls (stream : Stream) {settings : Settings} {clock : Clock}
    (hchallenge : settings.challenge = none)
    (hreaches : (Method.getConfig.callOf []).Reaches (.fresh settings true clock))
    (replies : List Response) :
    let start := (Console.opening stream settings replies clock).exchange
    let s := ((Method.getConfig.call []).on start).2
    let t := ((Method.getVersion.call []).on s).2
    let u := ((Method.getPayerSigner.call []).on t).2
    ∃ r₁ r₂ r₃, u.trace.requests = [r₁, r₂, r₃]
      ∧ r₁.Carries settings 1 (Method.getConfig.callOf [])
      ∧ r₂.Carries settings 2 (Method.getVersion.callOf [])
      ∧ r₃.Carries settings 3 (Method.getPayerSigner.callOf []) := by
  intro start s t u
  obtain ⟨r₁, _, hadv₁, hr₁⟩ : ∃ r served,
      Advances start s 1 [r] served ∧ r.Carries settings 1 (Method.getConfig.callOf []) :=
    call_carries rfl rfl (s := start) hreaches
  have hsecond : s.connection.nextId = 2 := hadv₁.nextId
  have hreaches₂ : (Method.getVersion.callOf []).Reaches s.connection := by
    refine hreaches.of_advances hadv₁ hchallenge ?_
    rw [hsecond]
    exact fits_callOf rfl (by decide)
  obtain ⟨r₂, _, hadv₂, hr₂⟩ := call_carries rfl rfl hreaches₂
  have hadv₁₂ := hadv₁.trans hadv₂
  have hthird : t.connection.nextId = 3 := hadv₁₂.nextId
  have hreaches₃ : (Method.getPayerSigner.callOf []).Reaches t.connection := by
    refine hreaches.of_advances hadv₁₂ hchallenge ?_
    rw [hthird]
    exact fits_callOf rfl (by decide)
  obtain ⟨r₃, _, hadv₃, hr₃⟩ := call_carries rfl rfl hreaches₃
  rw [hadv₁.settings, hsecond] at hr₂
  rw [hadv₁₂.settings, hthird] at hr₃
  refine ⟨r₁, r₂, r₃, ?_, hr₁, hr₂, hr₃⟩
  rw [(hadv₁₂.trans hadv₃).requests]
  rfl

/-! ## The command -/

/-- A server gives a configuration: the first call of a command reaches it, and its reply says one. -/
structure Configures (settings : Settings) (clock : Clock) (reply : Response)
    (record : Reply.Record Reply.Catalog.config.fields) : Prop where
  reaches : (Method.getConfig.callOf []).Reaches (.fresh settings true clock)
  server : settings.NamesServer
  content : ∃ v, resultIn reply = .ok v ∧ Reply.decode Reply.Catalog.config.fields v = .ok record

/-- The first call gives the configuration that the first reply says, and no other. -/
lemma getConfig_isOk_iff (stream : Stream) {settings : Settings} {clock : Clock}
    {replies : List Response} {record : Reply.Record Reply.Catalog.config.fields} :
    ((Method.getConfig.call []).on (Console.opening stream settings replies clock).exchange).1
        = .ok record
      ↔ ∃ first others, replies = first :: others ∧ Configures settings clock first record := by
  refine (Method.call_isOk_iff (m := Method.getConfig) rfl []).trans ?_
  constructor
  · rintro ⟨hreaches, hserver, first, others, v, hreplies, hresult, hdecode⟩
    exact ⟨first, others, hreplies, hreaches, hserver, v, hresult, hdecode⟩
  · rintro ⟨first, others, hreplies, hreaches, hserver, v, hresult, hdecode⟩
    exact ⟨hreaches, hserver, first, others, v, hreplies, hresult, hdecode⟩

/-- **A run with a configuration** makes its report, and asks three things of the server. -/
lemma runJob_of_record (url : Json) (stream : Stream) {settings : Settings} {clock : Clock}
    {replies : List Response} {record : Reply.Record Reply.Catalog.config.fields}
    (hchallenge : settings.challenge = none)
    (hreaches : (Method.getConfig.callOf []).Reaches (.fresh settings true clock))
    (hcall : ((Method.getConfig.call []).on (Console.opening stream settings replies clock).exchange).1
      = .ok record)
    (hshare : (Reply.Config.ofRecord record).validation.price.margin.IsShare) :
    let start := (Console.opening stream settings replies clock).exchange
    let version := (Method.getVersion.call []).on ((Method.getConfig.call []).on start).2
    let signer := (Method.getPayerSigner.call []).on version.2
    let lines := reportLines url (.ofRecord record) version.1 signer.1
    stream.Takes lines → ∃ r₁ r₂ r₃,
      runJob (job url) stream settings replies clock =
        { ending := .ok 0
          output := Text.unlines lines
          errors := ""
          requests := [r₁, r₂, r₃] }
      ∧ r₁.Carries settings 1 (Method.getConfig.callOf [])
      ∧ r₂.Carries settings 2 (Method.getVersion.callOf [])
      ∧ r₃.Carries settings 3 (Method.getPayerSigner.callOf []) := by
  intro start version signer lines htakes
  have hjob := on_job_of_record url (Prod.ext hcall rfl) hshare "" "" htakes
  obtain ⟨r₁, r₂, r₃, hrequests, hcarried⟩ := requests_of_calls stream hchallenge hreaches replies
  refine ⟨r₁, r₂, r₃, ?_, hcarried⟩
  rw [runJob_eq hjob, hrequests]
  rfl

/-- **A run without a configuration** says why there is none, and asks nothing else of the server. -/
lemma runJob_of_error (url : Json) (stream : Stream) {settings : Settings} {clock : Clock}
    {replies : List Response} {e : Error}
    (hcall : ((Method.getConfig.call []).on (Console.opening stream settings replies clock).exchange).1
      = .error e)
    (htakes : stream.Takes (failureLines url e)) :
    ∃ sent,
      runJob (job url) stream settings replies clock =
        { ending := .ok 1
          output := Text.unlines (failureLines url e)
          errors := ""
          requests := sent }
      ∧ ((job url).on (.opening stream settings replies clock)).2.exchange.connection.nextId = 2
      ∧ ((Method.getConfig.callOf []).Reaches (.fresh settings true clock) →
        ∃ r, sent = [r] ∧ r.Carries settings 1 (Method.getConfig.callOf []))
      ∧ (¬ (Method.getConfig.callOf []).Reaches (.fresh settings true clock) → sent = []) := by
  have hjob : (job url).on (.opening stream settings replies clock) = _ :=
    on_job_of_error url (Prod.ext hcall rfl) htakes "" ""
  obtain ⟨sent, served, hadv, honce, hunsent⟩ := Method.call_delivers (m := Method.getConfig) rfl []
    (Console.opening stream settings replies clock).exchange
  refine ⟨sent, ?_, ?_, fun hreaches => ?_, hunsent⟩
  · rw [runJob_eq hjob, hadv.requests]
    rfl
  · rw [hjob]
    exact hadv.nextId
  · obtain ⟨r, hr, hfor⟩ := honce hreaches
    exact ⟨r, hr, carries_of_isFor hfor (plain_callOf rfl)⟩

/-- **The command reports a configuration whatever fails behind it.**

Take any command line that the command takes, and any stream.

* If the first reply says a configuration whose margin can be shown, then whatever is replied behind
  it, if anything is, the command ends normally.  It has asked for the configuration, the version and
  the payer, in this order and under the first three numbers.  What it prints between the version and
  the payer are the lines of the configuration, the same each time, and its last line is the same too.
* If the server gives no configuration, the command makes the one call, prints why it has failed, and
  ends with exit code one.

Either is said of runs all of whose lines the stream takes, as a text in memory does. -/
theorem reports_configuration_despite_failures {words : List String} {a : Arguments}
    (hwords : parse flags words = .accepted a) (stream : Stream) (clock : Clock) :
    let settings := settingsOf a
    (∀ first record, Configures settings clock first record →
        (Reply.Config.ofRecord record).validation.price.margin.IsShare →
        (∃ rest, configLines (.ofRecord record) = ("=== Fee Payers ===" : Text) :: rest)
        ∧ ∀ others,
          let start := (Console.opening stream settings (first :: others) clock).exchange
          let version := (Method.getVersion.call []).on ((Method.getConfig.call []).on start).2
          let signer := (Method.getPayerSigner.call []).on version.2
          let lines := reportLines (urlOf a) (.ofRecord record) version.1 signer.1
          (∃ rest, signerLines signer.1 = ("=== Payer Signer ===" : Text) :: rest)
          ∧ (stream.Takes lines → ∃ r₁ r₂ r₃,
            run stream words (first :: others) clock =
              { ending := .ok 0
                output := Text.unlines lines
                errors := ""
                requests := [r₁, r₂, r₃] }
            ∧ r₁.Carries settings 1 (Method.getConfig.callOf [])
            ∧ r₂.Carries settings 2 (Method.getVersion.callOf [])
            ∧ r₃.Carries settings 3 (Method.getPayerSigner.callOf [])))
      ∧ ∀ replies,
        (¬ ∃ first others record, replies = first :: others
          ∧ Configures settings clock first record) →
        ∃ e,
          ((Method.getConfig.call []).on
              (Console.opening stream settings replies clock).exchange).1 = .error e
            ∧ (stream.Takes (failureLines (urlOf a) e) → ∃ sent,
              run stream words replies clock =
                { ending := .ok 1
                  output := Text.unlines (failureLines (urlOf a) e)
                  errors := ""
                  requests := sent }
              ∧ ((job (urlOf a)).on
                  (.opening stream settings replies clock)).2.exchange.connection.nextId = 2
              ∧ ((Method.getConfig.callOf []).Reaches (.fresh settings true clock) →
                ∃ r, sent = [r] ∧ r.Carries settings 1 (Method.getConfig.callOf []))
              ∧ (¬ (Method.getConfig.callOf []).Reaches (.fresh settings true clock) →
                sent = [])) := by
  intro settings
  have hrun : ∀ replies, run stream words replies clock
      = runJob (job (urlOf a)) stream settings replies clock := by
    intro replies
    rw [run, hwords]
  constructor
  · intro first record hconfig hshare
    refine ⟨⟨_, rfl⟩, fun others => ?_⟩
    have hcall := (getConfig_isOk_iff stream).mpr ⟨first, others, rfl, hconfig⟩
    have hends := runJob_of_record (urlOf a) stream rfl hconfig.reaches hcall hshare
    intro start version signer lines
    refine ⟨?_, fun htakes => ?_⟩
    · cases signer.1 <;> exact ⟨_, rfl⟩
    · rw [hrun]
      exact hends htakes
  · intro replies hnone
    cases hcall : ((Method.getConfig.call []).on
        (Console.opening stream settings replies clock).exchange).1 with
    | ok record =>
        obtain ⟨first, others, hreplies, hconfig⟩ := (getConfig_isOk_iff stream).mp hcall
        exact absurd ⟨first, others, record, hreplies, hconfig⟩ hnone
    | error e =>
        refine ⟨e, rfl, fun htakes => ?_⟩
        rw [hrun]
        exact runJob_of_error (urlOf a) stream hcall htakes

end Requests

/-- A reply without a result. -/
def emptyReply : Response := .body (Text.Encoding.encodeUtf8 "{}".toList)

/-- A reply that is no text. -/
def garbledReply : Response := .body [0xff]

section Usual

open scoped Stack

/-- A server that says nothing of its configuration has one all the same: all of it stands in. -/
lemma configures_emptyReply :
    ∃ record, Configures (settingsOf .empty) (.whole 0) emptyReply record
      ∧ (Reply.Config.ofRecord record).validation.price.margin.IsShare := by
  -- the kernel runs the call here
  have hok : ((Method.getConfig.call []).on
      (Console.opening .memory (settingsOf .empty) [emptyReply] (.whole 0)).exchange).1.isOk = true := by
    decide +kernel
  have hkind : (resultIn emptyReply).toOption.map Json.kind = some .null := rfl
  obtain ⟨record, s, hcall⟩ := Action.exists_of_isOk _ _ hok
  obtain ⟨first, others, hreplies, hconfig⟩ :=
    (getConfig_isOk_iff .memory).mp (congrArg Prod.fst hcall)
  cases hreplies
  obtain ⟨v, hresult, hdecode⟩ := hconfig.content
  rw [hresult] at hkind
  refine ⟨record, hconfig, ?_⟩
  cases v with
  | null =>
      cases hdecode
      trivial
  | _ => cases hkind

/-- A command line without options reports the configuration of such a server although the next reply is
no text and none comes behind it, and stops at once if the first reply is no text. -/
theorem reports_configuration_despite_failures_of_garbage :
    (run .memory [] [emptyReply, garbledReply] (.whole 0)).ending = .ok 0
      ∧ (∃ lines, (run .memory [] [emptyReply, garbledReply] (.whole 0)).output
        = Text.unlines (lines ++ [("Done." : Text)]))
      ∧ (run .memory [] [garbledReply, emptyReply] (.whole 0)).ending = .ok 1 := by
  have hwords : parse flags [] = .accepted .empty := rfl
  obtain ⟨hreports, hstops⟩ := reports_configuration_despite_failures hwords .memory (.whole 0)
  obtain ⟨record, hconfig, hshare⟩ := configures_emptyReply
  obtain ⟨-, hshown⟩ := hreports emptyReply record hconfig hshare
  obtain ⟨r₁, r₂, r₃, hrun, -⟩ := (hshown [garbledReply]).2 (Stream.takes_memory _)
  have hnone : ¬ ∃ first others record, [garbledReply, emptyReply] = first :: others
      ∧ Configures (settingsOf .empty) (.whole 0) first record := by
    rintro ⟨first, others, record, hreplies, hconfig⟩
    have hgarbled : (resultIn garbledReply).isOk = false := rfl
    cases hreplies
    obtain ⟨v, hresult, -⟩ := hconfig.content
    rw [hresult] at hgarbled
    cases hgarbled
  obtain ⟨e, -, hfails⟩ := hstops [garbledReply, emptyReply] hnone
  obtain ⟨sent, hrun', -⟩ := hfails (Stream.takes_memory _)
  rw [hrun, hrun']
  exact ⟨rfl, ⟨_, rfl⟩, rfl⟩

end Usual

end Command.ShowConfig

end Paymaster
