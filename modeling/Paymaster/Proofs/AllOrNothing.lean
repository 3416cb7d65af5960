import Mathlib
import Paymaster.Command.PayFee
import Paymaster.Proofs.AddressText
import Paymaster.Proofs.Commands
import Paymaster.Proofs.Delivery
import Paymaster.Proofs.Limits
import Paymaster.Proofs.SentRequests
import Paymaster.Proofs.Unpayable

/-!
# All of the answer or none of it

What the payment command prints goes on to whatever signs the transaction, so that a part of an
answer would do harm.  This file says that the command prints its whole answer or nothing, but for
one line that its output may not take.

**The transaction.**  It is the argument of that name, or what is left of the input when the blanks
at its ends are taken off (`Chooses`).

**The answer.**  `answer` gives the lines that a command line asks for: the transaction with its
payment, or the lines of the payment by itself.  The command has them in full before it prints, so
that what can go wrong then is only that a line is not taken (`runJob_orComplain`, `runJob_job`).

**ASCII.**  Every stream takes the transaction with its payment, and all lines of a payment but the
one that names the signer, which is printed as the server has sent it (`isAscii_of_append`,
`isAscii_of_offer`).  So the first of these is told whole (`ending_of_append`), and the second up to
that line or to its end (`ending_of_offer`).

**The request.**  The values of a command line are plain, so that the one request for a payment by
itself reads back as the call for its fee (`requests_of_offer`).

The main statement is `prints_all_or_nothing`.
-/

namespace Paymaster

/-! ## The transaction -/

namespace Text

/-- **Stripping** takes blanks off either end, and all of them. -/
lemma strip_spec (cs : List Char) :
    ∃ before after, cs = before ++ strip cs ++ after ∧ (∀ c ∈ before, isBlank c = true)
      ∧ (∀ c ∈ after, isBlank c = true) ∧ (∀ c ∈ (strip cs).head?, isBlank c = false)
      ∧ ∀ c ∈ (strip cs).getLast?, isBlank c = false := by
  have hstrip : strip cs = (cs.dropWhile isBlank).rdropWhile isBlank := rfl
  refine ⟨cs.takeWhile isBlank, (cs.dropWhile isBlank).rtakeWhile isBlank, ?_, ?_, ?_, ?_, ?_⟩
  · rw [hstrip, List.append_assoc, List.rdropWhile_append_rtakeWhile,
      List.takeWhile_append_dropWhile]
  · intro c hc
    exact List.mem_takeWhile_imp hc
  · intro c hc
    exact List.mem_rtakeWhile_imp hc
  · intro c hc
    obtain ⟨rest, hrest⟩ := List.rdropWhile_prefix isBlank (l := cs.dropWhile isBlank)
    obtain ⟨others, hothers⟩ := List.head?_eq_some_iff.mp hc
    have hhead : (cs.dropWhile isBlank).head? = some c := by
      rw [← hrest, ← hstrip, hothers]
      rfl
    have hnot := List.head?_dropWhile_not isBlank cs
    rw [hhead] at hnot
    exact hnot
  · intro c hc
    obtain ⟨hne, rfl⟩ := List.mem_getLast?_eq_getLast hc
    exact Bool.eq_false_iff.mpr (List.rdropWhile_last_not isBlank _ hne)

end Text

namespace Command

open Rpc Payment

/-- A command leaves behind what its answer has come to, printed on a stream.

It prints nothing unless there is an answer, and of this the lines up to the first that the stream
does not take.  It ends normally just when there is an answer and all of it is taken.  Its exit code
is one just for a failure that the client reports, and any other failure comes out as it is, that of
a line that is not taken included; only the message of the first kind stands where errors go. -/
structure Result.Tells (result : Result) (stream : Stream) (outcome : Except Error (List Text)) :
    Prop where
  silent : ∀ e, outcome = .error e → result.output = ""
  printed : ∀ lines, outcome = .ok lines →
    result.output = Text.unlines (stream.taken lines) ∧ result.errors = ""
  normal : result.ending = .ok 0 ↔ ∃ lines, outcome = .ok lines ∧ stream.Takes lines
  reported : result.ending = .ok 1 ↔ ∃ e, outcome = .error e ∧ e.isReported = true
  unhandled : ∀ e, result.ending = .error e ↔ outcome = .error e ∧ e.isReported = false
    ∨ ∃ lines fault, outcome = .ok lines ∧ stream.firstFault? lines = some fault
      ∧ Error.unencodable fault = e
  message : ∀ e, outcome = .error e →
    result.errors = if e.isReported then "Error: " ++ e.message ++ "\n" else ""

namespace PayFee

/-- What a command line pays for: the argument of that name, or without one the input between the
blanks at its ends. -/
inductive Chooses (a : Arguments) (input : List Char) : Json → Prop where
  | argument {v : Json} (given : a.value? "--transaction" = some v) (some : v.isBlank = false) :
      Chooses a input v
  | input {before cs after : List Char}
      (none : ∀ v, a.value? "--transaction" = some v → v.isBlank = true)
      (between : input = before ++ cs ++ after) (blankBefore : ∀ c ∈ before, Text.isBlank c = true)
      (blankAfter : ∀ c ∈ after, Text.isBlank c = true)
      (first : ∀ c ∈ cs.head?, Text.isBlank c = false)
      (last : ∀ c ∈ cs.getLast?, Text.isBlank c = false) : Chooses a input (.str (.ofChars cs))

lemma chooses_transactionOf (a : Arguments) (input : List Char) :
    Chooses a input (transactionOf a input) := by
  by_cases hblank : ((a.value? "--transaction").getD .null).isBlank = true
  · obtain ⟨before, after, hinput, hbefore, hafter, hfirst, hlast⟩ := Text.strip_spec input
    have hnone : ∀ v, a.value? "--transaction" = some v → v.isBlank = true := by
      intro v hv
      rwa [hv] at hblank
    simp only [transactionOf, hblank, if_true]
    exact .input hnone hinput hbefore hafter hfirst hlast
  · cases hgiven : a.value? "--transaction" with
    | none => exact absurd (hgiven ▸ rfl) hblank
    | some v =>
        rw [hgiven, Option.getD_some, Bool.not_eq_true] at hblank
        simp only [transactionOf, hgiven, Option.getD_some, hblank, Bool.false_eq_true, if_false]
        exact .argument hgiven hblank

/-! ## The answer -/

/-- An account of a payment as a line. -/
def accountLine (a : AccountRef) : Text :=
  "  " ++ a.key.text ++ " signer=" ++ (Json.bool a.isSigner).display ++ " writable="
    ++ (Json.bool a.isWritable).display

/-- The lines of a payment before the one that names the signer. -/
def linesBeforeSigner (o : Offer) : List Text :=
  [("=== Payment ===" : Text),
   "Amount:                 " ++ o.amount.display,
   "Token:                  " ++ o.token.display,
   "Pay To:                 " ++ o.address.display]

/-- The line that names the signer. -/
def signerLine (o : Offer) : Text :=
  "Paymaster Signer:       " ++ o.signer.display

/-- The lines of a payment behind the one that names the signer. -/
def linesBehindSigner (o : Offer) : List Text :=
  ("Program:                " ++ o.instruction.program.text : Text)
    :: o.instruction.accounts.map accountLine

/-- The lines of a payment. -/
def offerLines (o : Offer) : List Text :=
  linesBeforeSigner o ++ signerLine o :: linesBehindSigner o

section Answer

variable [Stack]

/-- The lines that some terms come to: the transaction with its payment, or those of the payment by
itself. -/
def answer (terms : Terms) (instructionOnly : Bool) : Action (List Text) :=
  if instructionOnly then do
    let o ← offer terms
    return offerLines o
  else do
    let text ← append terms true
    return [text]

end Answer

lemma printOffer_eq (o : Offer) : printOffer o = (offerLines o).forM Job.print := by
  have haccounts : (o.instruction.accounts.map accountLine).forM Job.print
      = o.instruction.accounts.forM printAccount := List.forM_map
  rw [offerLines, linesBeforeSigner, linesBehindSigner]
  simp only [printOffer, ← haccounts]
  rfl

lemma forM_singleton (text : Text) : Job.print text = [text].forM Job.print := by
  show Job.print text = (Job.print text >>= fun _ => pure ())
  exact (bind_pure (Job.print text)).symm

/-- What the command leaves behind on a stream when its answer has come to something: the lines that
are taken, or the message of a failure that the client reports. -/
def resultOf (stream : Stream) : Except Error (List Text) × Exchange → Result
  | (.ok lines, s) =>
    { ending := match stream.firstFault? lines with
        | none => .ok 0
        | some fault => .error (.unencodable fault)
      output := Text.unlines (stream.taken lines)
      errors := ""
      requests := s.trace.requests }
  | (.error e, s) =>
    { ending := if e.isReported then .ok 1 else .error e
      output := ""
      errors := if e.isReported then "Error: " ++ e.message ++ "\n" else ""
      requests := s.trace.requests }

lemma resultOf_tells (stream : Stream) (out : Except Error (List Text) × Exchange) :
    (resultOf stream out).Tells stream out.1 := by
  obtain ⟨outcome, s⟩ := out
  cases outcome with
  | ok lines =>
      cases hfault : stream.firstFault? lines with
      | none =>
          have htakes := Stream.firstFault?_eq_none_iff.mp hfault
          constructor <;> simp [resultOf, hfault, htakes]
      | some fault =>
          have htakes : ¬ stream.Takes lines := fun h => by
            rw [Stream.firstFault?_eq_none_iff.mpr h] at hfault
            cases hfault
          constructor <;> simp [resultOf, hfault, htakes]
  | error e => cases hreported : e.isReported <;> constructor <;> simp [resultOf, hreported]

lemma requests_resultOf (stream : Stream) (out : Except Error (List Text) × Exchange) :
    (resultOf stream out).requests = out.2.trace.requests := by
  obtain ⟨outcome, s⟩ := out
  cases outcome <;> rfl

section Run

variable {α : Type} {action : Action α} {present : α → Job Unit} {lines : α → List Text}

lemma on_orComplain_of_ok {c : Console} {r : α} {s : Exchange}
    (h : action.on c.exchange = (.ok r, s)) :
    (orComplain action).on c = (.ok r, { c with exchange := s }) := by
  rw [orComplain, Job.on_bind, Job.on_attempt, h]
  rfl

lemma on_orComplain_of_error {c : Console} {e : Error} {s : Exchange}
    (h : action.on c.exchange = (.error e, s)) :
    (orComplain action).on c
      = (.error (if e.isReported then .exit 1 else .failed e),
        { c with
          errors := if e.isReported then c.errors ++ ("Error: " ++ e.message) ++ "\n" else c.errors
          exchange := s }) := by
  rw [orComplain, Job.on_bind, Job.on_attempt, h]
  cases hreported : e.isReported <;> simp only [hreported] <;> rfl

/-- **The action comes first and the printing behind it**: nothing is printed unless the action has
succeeded, and then nothing can fail any more but a line that is not taken. -/
lemma runJob_orComplain (hpresent : ∀ r, present r = (lines r).forM Job.print) (stream : Stream)
    (settings : Settings) (replies : List Response) (clock : Clock) :
    runJob (do let r ← orComplain action; present r) stream settings replies clock
      = resultOf stream ((do let r ← action; return lines r : Action (List Text)).on
          (Console.opening stream settings replies clock).exchange) := by
  rw [Action.on_bind]
  cases h : action.on (Console.opening stream settings replies clock).exchange with
  | mk out s =>
      cases out with
      | ok r =>
          have hjob := (Job.on_bind_of_ok (on_orComplain_of_ok h) present).trans
            ((congrArg (Job.on · _) (hpresent r)).trans (Job.on_forM_print (lines r) _))
          rw [runJob_eq hjob]
          simp only [resultOf, Action.on_pure, Console.opening, Console.printed]
          cases stream.firstFault? (lines r) <;> rfl
      | error e =>
          rw [runJob_eq (Job.on_bind_of_error (on_orComplain_of_error h) present)]
          cases hreported : e.isReported <;> simp only [resultOf, hreported] <;> rfl

end Run

section Answer

variable [Stack] {terms : Terms} {s : Exchange}

/-- With the transaction, the answer is the text that comes out, on one line. -/
lemma answer_eq_ok_iff {lines : List Text} :
    ((answer terms false).on s).1 = .ok lines
      ↔ ∃ text, ((append terms true).on s).1 = .ok text ∧ lines = [text] := by
  have hanswer : answer terms false = (do
      let text ← append terms true
      return [text]) := rfl
  rw [hanswer, Action.on_bind]
  obtain ⟨outcome, s'⟩ := (append terms true).on s
  cases outcome with
  | ok text => simp [Action.on_pure, eq_comm]
  | error e => simp

/-- Without it, the answer is the lines of the payment. -/
lemma answer_eq_ok_iff_of_only {lines : List Text} :
    ((answer terms true).on s).1 = .ok lines
      ↔ ∃ o, ((offer terms).on s).1 = .ok o ∧ lines = offerLines o := by
  have hanswer : answer terms true = (do
      let o ← offer terms
      return offerLines o) := rfl
  rw [hanswer, Action.on_bind]
  obtain ⟨outcome, s'⟩ := (offer terms).on s
  cases outcome with
  | ok o => simp [Action.on_pure, eq_comm]
  | error e => simp

/-- Addresses are looked at first: what is no address is refused, and nothing is sent. -/
lemma answer_refused {e : Error} (h : terms.parties = .error e) (instructionOnly : Bool)
    (s : Exchange) : (answer terms instructionOnly).on s = (.error e, s) := by
  cases instructionOnly <;> simp only [answer, offer, append, h, Action.on_bind, if_true] <;> rfl

/-- **The command has its answer in full before it prints.** -/
lemma runJob_job (terms : Terms) (instructionOnly : Bool) (stream : Stream) (settings : Settings)
    (replies : List Response) (clock : Clock) :
    runJob (job terms instructionOnly) stream settings replies clock
      = resultOf stream ((answer terms instructionOnly).on
          (Console.opening stream settings replies clock).exchange) := by
  cases instructionOnly with
  | true => exact runJob_orComplain printOffer_eq stream settings replies clock
  | false => exact runJob_orComplain forM_singleton stream settings replies clock

end Answer

/-! ## ASCII -/

lemma isAscii_text (k : PublicKey) : (Text.ofString k.text).IsAscii := by
  rw [Block.text, Text.Base58.encode, Text.ofString, String.toList_ofList]
  exact Text.isAscii_ofChars fun c hc => (Text.Base58.encodeChars_plain k.bytes c hc).1

/-- A whole number is shown in ASCII, and a truth value as well. -/
lemma isAscii_display {v : Json} {n : ℤ} (h : v.toInt? = some n) : v.display.IsAscii := by
  cases v with
  | int k =>
      have hshown : (Json.int k).display = Text.ofChars (Numeral.decimalInt k) := by
        show Text.ofString (String.ofList (Json.nestedChars (.int k))) = _
        rw [Json.nestedChars, Text.ofString, String.toList_ofList]
      rw [hshown]
      exact Text.isAscii_ofChars fun c hc =>
        Nat.lt_of_le_of_lt (Json.printable_decimalInt k c hc).2 (by decide)
  | bool b => cases b <;> decide
  | _ => cases h

lemma isAscii_accountLine (a : AccountRef) : (accountLine a).IsAscii := by
  have hflag : ∀ b, (Json.bool b).display.IsAscii := fun b => isAscii_display rfl
  have hkey : (Text.ofString "  " ++ Text.ofString a.key.text).IsAscii :=
    Text.IsAscii.append (by decide) (isAscii_text a.key)
  exact (((hkey.append (by decide)).append (hflag _)).append (by decide)).append (hflag _)

/-- What is read as a transaction is ASCII. -/
lemma isAscii_of_decode {text : Text} {tx : Transaction}
    (h : Transaction.decode .base64 (.str text) = .ok tx) : text.IsAscii := by
  obtain ⟨bytes, hbytes, -⟩ := bind_eq_ok_iff.mp h
  cases hchars : text.chars? with
  | none =>
      simp only [Transaction.Encoding.bytesOf, Text.Base64.decode, hchars] at hbytes
      cases hbytes
  | some cs =>
      simp only [Transaction.Encoding.bytesOf, Text.Base64.decode, hchars,
        Text.Base64.decodeChars] at hbytes
      split_ifs at hbytes with hascii
      · rw [Text.chars?_eq_some_iff.mp hchars]
        exact Text.isAscii_ofChars fun c hc => of_decide_eq_true (List.all_eq_true.mp hascii c hc)
      · cases hbytes

section Ascii

variable [Stack] {terms : Terms} {s : Exchange}

/-- **The lines of a payment are ASCII**, but for the one that names the signer. -/
lemma isAscii_of_offer {o : Offer} (h : ((offer terms).on s).1 = .ok o) :
    (∀ line ∈ linesBeforeSigner o, line.IsAscii) ∧ ∀ line ∈ linesBehindSigner o, line.IsAscii := by
  obtain ⟨s', h⟩ : ∃ s', (offer terms).on s = (.ok o, s') := ⟨_, Prod.ext h rfl⟩
  simp only [offer, Action.on_bind_eq_ok_iff, Action.on_ofExcept_eq_ok_iff,
    Action.on_pure_eq_ok_iff, parseAddress_eq_ok_iff_text] at h
  obtain ⟨p, _, ⟨hparties, rfl⟩, e, _, -, amount, _, -, destination, _, ⟨hdestination, rfl⟩, ix, _,
    ⟨hix, rfl⟩, _, _, -, rfl, -⟩ := h
  obtain ⟨fee, hfee, -, -⟩ := Token.payment_pays hix
  simp only [Terms.parties, bind_eq_ok_iff, parseAddress_eq_ok_iff_text, pure_eq_ok_iff] at hparties
  obtain ⟨mint, hmint, -⟩ := hparties
  constructor
  · simp only [linesBeforeSigner, hmint, hdestination, List.forall_mem_cons, Json.display]
    refine ⟨by decide, ?_, ?_, ?_, List.forall_mem_nil _⟩
    · exact Text.IsAscii.append (by decide) (isAscii_display hfee)
    · exact Text.IsAscii.append (by decide) (isAscii_text mint)
    · exact Text.IsAscii.append (by decide) (isAscii_text destination)
  · refine List.forall_mem_cons.mpr ⟨Text.IsAscii.append (by decide) (isAscii_text _), ?_⟩
    intro line hline
    obtain ⟨a, -, rfl⟩ := List.mem_map.mp hline
    exact isAscii_accountLine a

/-- **The transaction with its payment is ASCII**, and so is the one that is handed back. -/
lemma isAscii_of_append {check : Bool} {text : Text} (h : ((append terms check).on s).1 = .ok text) :
    text.IsAscii := by
  obtain ⟨s', h⟩ : ∃ s', (append terms check).on s = (.ok text, s') := ⟨_, Prod.ext h rfl⟩
  simp only [append_eq, Action.on_bind_eq_ok_iff, Action.on_ofExcept_eq_ok_iff] at h
  obtain ⟨_, _, -, tx, _, ⟨hdecode, -⟩, _, _, -, o, _, -, hfinish⟩ := h
  obtain ⟨original, htransaction⟩ := text_of_decode hdecode
  rw [htransaction] at hdecode hfinish
  unfold finish at hfinish
  split_ifs at hfinish
  · simp only [Action.on_bind_eq_ok_iff, Action.on_pure_eq_ok_iff] at hfinish
    obtain ⟨-, -, -, rfl, -⟩ := hfinish
    exact isAscii_of_decode hdecode
  · simp only [Action.on_bind_eq_ok_iff, Action.on_ofExcept_eq_ok_iff, Action.on_pure_eq_ok_iff,
      Transaction.encode_eq_ok_iff] at hfinish
    obtain ⟨paid, _, -, _, _, ⟨⟨-, rfl⟩, -⟩, rfl, -⟩ := hfinish
    rw [Transaction.Encoding.textOf, Text.Base64.encode, Text.ofString, String.toList_ofList]
    exact Text.isAscii_ofChars (Text.Base64.encodeChars_ascii _)

/-- Every stream takes the transaction with its payment. -/
lemma takes_of_append (stream : Stream) {check : Bool} {text : Text}
    (h : ((append terms check).on s).1 = .ok text) : stream.Takes [text] :=
  stream.takes_of_isAscii (List.forall_mem_singleton.mpr (isAscii_of_append h))

/-- A stream takes the lines of a payment just when it takes the one that names the signer. -/
lemma takes_offerLines_iff {stream : Stream} {o : Offer} (h : ((offer terms).on s).1 = .ok o) :
    stream.Takes (offerLines o) ↔ stream.fault? (signerLine o) = none := by
  obtain ⟨hbefore, hbehind⟩ := isAscii_of_offer h
  rw [offerLines, Stream.takes_append]
  constructor
  · exact fun htakes => htakes.2 _ List.mem_cons_self
  · exact fun hnone => ⟨stream.takes_of_isAscii hbefore,
      List.forall_mem_cons.mpr ⟨hnone, stream.takes_of_isAscii hbehind⟩⟩

end Ascii

/-! ## What is told of an answer -/

section Tells

variable [Stack] {terms : Terms} {s : Exchange} {result : Result} {stream : Stream}

/-- **The transaction with its payment is told whole**, whatever the stream. -/
lemma ending_of_append (htells : result.Tells stream ((answer terms false).on s).1) :
    (result.ending = .ok 0 ↔ ∃ text, ((append terms true).on s).1 = .ok text)
      ∧ ∀ text, ((append terms true).on s).1 = .ok text → result.output = text ++ "\n" := by
  constructor
  · rw [htells.normal]
    constructor
    · rintro ⟨_, hanswer, -⟩
      obtain ⟨text, htext, -⟩ := answer_eq_ok_iff.mp hanswer
      exact ⟨text, htext⟩
    · rintro ⟨text, htext⟩
      exact ⟨_, answer_eq_ok_iff.mpr ⟨text, htext, rfl⟩, takes_of_append stream htext⟩
  · intro text htext
    obtain ⟨houtput, -⟩ := htells.printed _ (answer_eq_ok_iff.mpr ⟨text, htext, rfl⟩)
    rw [houtput, Stream.taken_of_takes (takes_of_append stream htext), Text.unlines_singleton]

/-- **A payment is told whole, or up to the line that names the signer** if that is not taken. -/
lemma ending_of_offer (htells : result.Tells stream ((answer terms true).on s).1) {o : Offer}
    (ho : ((offer terms).on s).1 = .ok o) :
    (stream.fault? (signerLine o) = none →
        result.ending = .ok 0 ∧ result.output = Text.unlines (offerLines o))
      ∧ ∀ fault, stream.fault? (signerLine o) = some fault →
        result.ending = .error (.unencodable fault)
          ∧ result.output = Text.unlines (linesBeforeSigner o) := by
  have hanswer := answer_eq_ok_iff_of_only.mpr ⟨o, ho, rfl⟩
  obtain ⟨houtput, -⟩ := htells.printed _ hanswer
  constructor
  · intro hnone
    have htakes := (takes_offerLines_iff ho).mpr hnone
    rw [houtput, Stream.taken_of_takes htakes]
    exact ⟨htells.normal.mpr ⟨_, hanswer, htakes⟩, rfl⟩
  · intro fault hfault
    obtain ⟨hfirst, htaken⟩ := Stream.firstFault?_of_fault
      (stream.takes_of_isAscii (isAscii_of_offer ho).1) hfault (linesBehindSigner o)
    rw [houtput]
    exact ⟨(htells.unhandled _).mpr (Or.inr ⟨_, fault, hanswer, hfirst, rfl⟩),
      congrArg Text.unlines htaken⟩

/-- **Nothing is told where a command does not end normally**, unless there is a payment whose signer
the stream does not take. -/
lemma output_of_ending {only : Bool} (htells : result.Tells stream ((answer terms only).on s).1)
    (hending : result.ending ≠ .ok 0) :
    result.output = "" ∨ only = true
      ∧ ∃ o fault, ((offer terms).on s).1 = .ok o ∧ stream.fault? (signerLine o) = some fault := by
  cases hanswer : ((answer terms only).on s).1 with
  | error e => exact Or.inl (htells.silent e hanswer)
  | ok lines =>
      have huntaken : ¬ stream.Takes lines := fun htakes =>
        hending (htells.normal.mpr ⟨lines, hanswer, htakes⟩)
      cases only with
      | false =>
          obtain ⟨text, htext, rfl⟩ := answer_eq_ok_iff.mp hanswer
          exact absurd (takes_of_append stream htext) huntaken
      | true =>
          obtain ⟨o, ho, rfl⟩ := answer_eq_ok_iff_of_only.mp hanswer
          rw [takes_offerLines_iff ho] at huntaken
          obtain ⟨fault, hfault⟩ := Option.ne_none_iff_exists'.mp huntaken
          exact Or.inr ⟨rfl, o, fault, ho, hfault⟩

end Tells

end PayFee

/-! ## The request -/

/-- All values that are set are plain. -/
def Arguments.Plain (a : Arguments) : Prop :=
  ∀ p ∈ a.values, p.2.Plain

lemma Arguments.Plain.put {a : Arguments} {v : Json} (ha : a.Plain) (hv : v.Plain) (flag : Flag) :
    (a.put flag v).Plain :=
  List.forall_mem_cons.mpr ⟨hv, ha⟩

lemma Arguments.Plain.value {a : Arguments} (ha : a.Plain) (name : String) :
    ((a.value? name).getD .null).Plain := by
  cases hvalue : a.value? name with
  | none => trivial
  | some v =>
      obtain ⟨before, after, hvalues, -⟩ := List.lookup_eq_some_iff.mp hvalue
      exact ha (name, v) (by simp [hvalues])

lemma plain_text (text : String) : (Json.str text).Plain :=
  whole_ofString text

lemma plain_attachedValue (text : String) : (attachedValue text).Plain := by
  unfold attachedValue
  split_ifs
  · trivial
  · exact plain_text text

/-- What the words of a command line set is plain. -/
lemma plain_of_collect {a b : Arguments} {words : List Word} (ha : a.Plain)
    (h : collect a words = some (.accepted b)) : b.Plain := by
  fun_induction collect a words with
  | case1 a =>
      cases h
      exact ha
  | case2 a flag value rest _ ih => exact ih (ha.put (plain_attachedValue value) flag) h
  | case5 a flag _ _ value rest ih => exact ih (ha.put (plain_text value) flag) h
  | case7 a flag rest _ _ ih => exact ih ha h
  | case3 | case4 | case6 | case8 | case9 => cases h

/-- A command line that is taken sets what its words set. -/
lemma collect_of_parse {flags : List Flag} {words : List String} {a : Arguments}
    (h : parse flags words = .accepted a) :
    collect .empty (classifyAll flags words) = some (.accepted a) := by
  simp only [parse] at h
  split_ifs at h
  cases hcollect : collect .empty (classifyAll flags words) with
  | none =>
      rw [hcollect] at h
      cases h
  | some line =>
      rw [hcollect] at h
      cases line with
      | accepted b =>
          simp only at h
          split_ifs at h
          rw [h]
      | _ => cases h

lemma plain_of_parse {flags : List Flag} {words : List String} {a : Arguments}
    (h : parse flags words = .accepted a) : a.Plain := by
  have hnone : Arguments.empty.Plain := List.forall_mem_nil _
  exact plain_of_collect hnone (collect_of_parse h)

namespace PayFee

/-- The transaction of a command line is plain. -/
lemma plain_transactionOf {a : Arguments} (ha : a.Plain) (input : List Char) :
    (transactionOf a input).Plain := by
  simp only [transactionOf]
  split_ifs
  · exact ⟨_, rfl⟩
  · exact ha.value "--transaction"

lemma plain_feeCall {terms : Terms} (htransaction : terms.transaction.Plain)
    (htoken : terms.feeToken.Plain) : (feeCall terms).Plain := by
  have hpasses : Method.estimateTransactionFee.Passes
      [("transaction", terms.transaction), ("fee_token", terms.feeToken)] (feeCall terms).params := by
    have hknown : ∀ name ∈ ["transaction", "fee_token"].map Text.ofString,
        name ∈ Method.estimateTransactionFee.operation.parameters.map Text.ofString := by
      decide
    exact Method.passes_paramsOf _ hknown
  refine ⟨plain_text _, hpasses.plain (by decide) ?_⟩
  simpa using ⟨htransaction, htoken⟩

section Requests

variable [Stack]

/-- What is posted for one call is its one request, or nothing. -/
lemma requests_of_posts {s t : Exchange} {call : Call} (h : Posts s t [call])
    (hnone : s.trace.requests = []) :
    t.trace.requests = []
      ∨ ∃ r, t.trace.requests = [r] ∧ r.IsFor s.connection.settings s.connection.nextId call := by
  obtain ⟨ids, sent, served, hadv, -, hsent⟩ := h
  rw [hadv.requests, hnone, List.nil_append]
  cases sent with
  | nil => exact Or.inl rfl
  | cons r others =>
      obtain ⟨_, hcall, hfor⟩ := hsent 0 r rfl
      cases hcall
      cases others with
      | nil => exact Or.inr ⟨r, rfl, hfor⟩
      | cons second _ =>
          obtain ⟨_, hcall, -⟩ := hsent 1 second rfl
          cases hcall

/-- **A payment by itself is asked for once**: with the one call for its fee. -/
lemma requests_of_offer {terms : Terms} (htransaction : terms.transaction.Plain)
    (htoken : terms.feeToken.Plain) {s : Exchange} (hnone : s.trace.requests = []) :
    ((answer terms true).on s).2.trace.requests = []
      ∨ ∃ r, ((answer terms true).on s).2.trace.requests = [r]
        ∧ r.Carries s.connection.settings s.connection.nextId (feeCall terms) := by
  have hposts : Posts s ((answer terms true).on s).2 [feeCall terms] :=
    (offer_posts terms s).bind_quiet fun o => Quiet.pure _
  obtain h | ⟨r, hr, hfor⟩ := requests_of_posts hposts hnone
  · exact Or.inl h
  · exact Or.inr ⟨r, hr, carries_of_isFor hfor (plain_feeCall htransaction htoken)⟩

end Requests

/-! ## All or nothing -/

section Command

variable [Stack]

/-- **The command prints its whole answer or nothing**, but for the line that names the signer.

Take any command line that the command takes, any stream, any input and any replies.

* What is paid for is the transaction that the command line chooses.
* The command leaves behind what its answer comes to on the stream.
* Without the option for a payment by itself the command ends normally just when the payment can be
  appended, and prints the text of the transaction with it, and a line end.
* With it nothing is asked for but the fee, and that at most once.  If the line that names the signer
  is not taken, this ends the command behind the four lines before it, and otherwise all lines of the
  payment are printed.
* In any other case a command that does not end normally prints nothing. -/
theorem prints_all_or_nothing {words : List String} {a : Arguments}
    (hwords : parse flags words = .accepted a) (stream : Stream) (input : String)
    (replies : List Response) (clock : Clock) :
    let result := run stream words input replies clock
    let start := (Console.opening stream (ShowConfig.settingsOf a) replies clock).exchange
    let terms := termsOf a input.toList
    let only := a.isSet "--instruction-only"
    Chooses a input.toList terms.transaction
      ∧ result.Tells stream ((answer terms only).on start).1
      ∧ (only = false →
        (result.ending = .ok 0 ↔ ∃ text, ((append terms true).on start).1 = .ok text)
          ∧ ∀ text, ((append terms true).on start).1 = .ok text → result.output = text ++ "\n")
      ∧ (only = true →
        (result.requests = [] ∨ ∃ r, result.requests = [r]
          ∧ r.Carries (ShowConfig.settingsOf a) 1 (feeCall terms))
        ∧ ∀ o, ((offer terms).on start).1 = .ok o →
          (stream.fault? (signerLine o) = none →
            result.ending = .ok 0 ∧ result.output = Text.unlines (offerLines o))
          ∧ ∀ fault, stream.fault? (signerLine o) = some fault →
            result.ending = .error (.unencodable fault)
              ∧ result.output = Text.unlines (linesBeforeSigner o))
      ∧ (result.ending ≠ .ok 0 → result.output = "" ∨ only = true
        ∧ ∃ o fault, ((offer terms).on start).1 = .ok o
          ∧ stream.fault? (signerLine o) = some fault) := by
  intro result start terms only
  have hplain := plain_of_parse hwords
  have hresult : result = resultOf stream ((answer terms only).on start) := by
    show run stream words input replies clock = _
    rw [run, hwords]
    exact runJob_job terms only stream (ShowConfig.settingsOf a) replies clock
  have htells := resultOf_tells stream ((answer terms only).on start)
  rw [← hresult] at htells
  refine ⟨chooses_transactionOf a input.toList, htells, ?_, ?_, output_of_ending htells⟩
  · intro honly
    rw [honly] at htells
    exact ending_of_append htells
  · intro honly
    rw [honly] at htells hresult
    refine ⟨?_, fun o ho => ending_of_offer htells ho⟩
    rw [hresult, requests_resultOf]
    exact requests_of_offer (plain_transactionOf hplain input.toList)
      (hplain.value "--fee-token") rfl

end Command

/-- Words that name a token and a wallet, and leave the transaction to the input. -/
def payingWords : List String :=
  ["--fee-token", "11111111111111111111111111111116", "--wallet=11111111111111111111111111111117"]

def payingArguments : Arguments where
  values :=
    [("--wallet", .str "11111111111111111111111111111117"),
     ("--fee-token", .str "11111111111111111111111111111116")]
  switches := []

/-- A transaction between blanks. -/
def pipedInput : String :=
  String.ofList ('\n' :: Text.Base64.encodeChars plainTransaction.toBytes ++ [' ', '\n'])

/-- The replies of a server that takes the token. -/
def payingReplies : List Response := [replyWith openConfig, replyWith truthEstimate]

/-- Words that ask for a payment by itself, in a token that is none. -/
def strayWords : List String :=
  ["--instruction-only", "--transaction=AQ==", "--wallet=?", "--fee-token=?"]

def strayArguments : Arguments where
  values := [("--fee-token", .str "?"), ("--wallet", .str "?"), ("--transaction", .str "AQ==")]
  switches := ["--instruction-only"]

section Usual

open scoped Stack

/-- A transaction from the input is printed with its payment.  A token that is none is complained of,
without a word where answers go. -/
theorem prints_all_or_nothing_of_pipe :
    (∃ text, (run .memory payingWords pipedInput payingReplies (.whole 0)).ending = .ok 0
        ∧ (run .memory payingWords pipedInput payingReplies (.whole 0)).output = text ++ "\n")
      ∧ (run .memory strayWords "" [] (.whole 0)).output = ""
      ∧ (run .memory strayWords "" [] (.whole 0)).errors
        = "Error: invalid fee_token address: '?'\n" := by
  constructor
  · have hwords : parse flags payingWords = .accepted payingArguments := rfl
    obtain ⟨-, -, hanswer, -⟩ :=
      prints_all_or_nothing hwords .memory pipedInput payingReplies (.whole 0)
    -- the kernel runs the whole flow here, from the replies to the text
    obtain ⟨text, s', h⟩ := Action.exists_of_isOk
      (append (termsOf payingArguments pipedInput.toList) true)
      (Console.opening .memory (ShowConfig.settingsOf payingArguments) payingReplies
        (.whole 0)).exchange
      (by decide +kernel)
    obtain ⟨hnormal, hwhole⟩ := hanswer rfl
    have htext := congrArg Prod.fst h
    exact ⟨text, hnormal.mpr ⟨text, htext⟩, hwhole text htext⟩
  · have hwords : parse flags strayWords = .accepted strayArguments := rfl
    obtain ⟨-, htells, -⟩ := prints_all_or_nothing hwords .memory "" [] (.whole 0)
    have hparties : (termsOf strayArguments "".toList).parties
        = .error (.invalidAddress (.str "fee_token") (.str "?")) := rfl
    have hrefused := congrArg Prod.fst (answer_refused hparties true
      (Console.opening .memory (ShowConfig.settingsOf strayArguments) [] (.whole 0)).exchange)
    exact ⟨htells.silent _ hrefused, htells.message _ hrefused⟩

/-- The fault of a line that a stream has not taken, if that is how a command has ended. -/
def faultOf : Except Error ℕ → Option Text.Charset.Fault
  | .error (.unencodable fault) => some fault
  | _ => none

lemma ending_eq_of_faultOf {ending : Except Error ℕ} {fault : Text.Charset.Fault}
    (h : faultOf ending = some fault) : ending = .error (.unencodable fault) := by
  unfold faultOf at h
  split at h
  · rw [Option.some.inj h]
  · cases h

/-- Words that ask for a payment by itself. -/
def offeringWords : List String :=
  "--instruction-only" :: "--transaction=AQ==" :: payingWords

/-- An estimate that names half of a pair as the signer. -/
def halvedEstimate : Json :=
  .obj [("fee_in_token", .int 5), ("payment_address", addressOf (Block.ofNat 32 13)),
    ("signer_pubkey", .str ⟨[.half 0]⟩)]

/-- **Four lines stay of a payment whose signer has no bytes.**  The command ends in an error, and the
lines before the signer are printed all the same. -/
theorem halved_signer_leaves_four_lines :
    (run (.bytes .unicode) offeringWords "" [replyWith halvedEstimate] (.whole 0)).ending
        = .error (.unencodable { charset := .unicode, first := .half 0, start := 24, length := 1 })
      ∧ (run (.bytes .unicode) offeringWords "" [replyWith halvedEstimate] (.whole 0)).output
        = Text.unlines
          [("=== Payment ===" : Text),
           "Amount:                 5",
           "Token:                  11111111111111111111111111111116",
           "Pay To:                 1111111111111111111111111111111E"] := by
  -- the kernel runs the whole command here
  have hrun : (fun r : Result => (faultOf r.ending, r.output))
      (run (.bytes .unicode) offeringWords "" [replyWith halvedEstimate] (.whole 0))
      = (some { charset := .unicode, first := .half 0, start := 24, length := 1 },
        Text.unlines
          [("=== Payment ===" : Text),
           "Amount:                 5",
           "Token:                  11111111111111111111111111111116",
           "Pay To:                 1111111111111111111111111111111E"]) := by
    decide +kernel
  obtain ⟨hfault, houtput⟩ := Prod.mk.inj hrun
  exact ⟨ending_eq_of_faultOf hfault, houtput⟩

end Usual

end PayFee

end Command

end Paymaster
