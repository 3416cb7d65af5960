import Mathlib
import Paymaster.Proofs.Sponsor
import Paymaster.Session

/-!
# What actions are made of

All that a client does, it does by calling the server, by noting and warning, and by closing itself.
`Flow` says so of an action: it is a sequence of these, and learns of the connection only from the
results of its calls.  `perform_flow` says it of every step of a session but the one that reads the
settings back.

So what is to be shown of all steps is shown by an induction on flows, in which the call is the only
case with something to it.

**Two runs.**  `Alike` compares two actions that are run on related exchanges: they fail with the
same error or give related values, and the exchanges stay related.  It composes along a sequence
(`Alike.bind`), and a flow runs like itself as soon as a call does (`Flow.alike`).
-/

namespace Paymaster

section Steps

variable [Stack]

namespace Rpc

open Paymaster.Rpc.Action

/-- An action is a flow: it is made of results, notes, warnings, calls and closings, one after the
other. -/
inductive Flow : {α : Type} → Action α → Prop
  | ofExcept {α : Type} (r : Except Error α) : Flow (ofExcept r)
  | note (n : Note) : Flow (note n)
  | warn (text : String) : Flow (warn text)
  | request (method params : Json) : Flow (request method params)
  | close : Flow (modifyConnection Connection.close)
  | bind {α β : Type} {x : Action α} {f : α → Action β} :
    Flow x → (∀ a, Flow (f a)) → Flow (x >>= f)

namespace Flow

lemma pure {α : Type} (a : α) : Flow (pure a : Action α) :=
  Flow.ofExcept (.ok a)

lemma throw {α : Type} (e : Error) : Flow (throw e : Action α) :=
  Flow.ofExcept (.error e)

end Flow

lemma Method.call_flow (m : Method) (arguments : List (Text × Json)) :
    Flow (m.call arguments) := by
  rw [call_eq]
  refine Flow.bind ?_ fun _ => (Flow.request _ _).bind fun _ => Flow.ofExcept _
  unfold announce
  cases m.warning with
  | some text => exact Flow.warn text
  | none => exact Flow.pure ()

end Rpc

open Rpc

namespace Payment

lemma estimate_flow (transaction feeToken : Json) : Flow (estimate transaction feeToken) :=
  (Method.call_flow _ _).bind fun _ => Flow.pure _

lemma offer_flow (terms : Terms) : Flow (offer terms) := by
  refine (Flow.ofExcept _).bind fun parties => (estimate_flow _ _).bind fun e => ?_
  refine (Flow.ofExcept _).bind fun amount => (Flow.ofExcept _).bind fun destination => ?_
  exact (Flow.ofExcept _).bind fun ix => (Flow.note _).bind fun _ => Flow.pure _

lemma inspect_flow (terms : Terms) (check : Bool) : Flow (inspect terms check) := by
  cases check with
  | false => exact Flow.pure ()
  | true => exact (Method.call_flow _ _).bind fun _ => Flow.ofExcept _

lemma finish_flow (tx : Transaction) (o : Offer) (original : Json) :
    Flow (finish tx o original) := by
  unfold finish
  cases o.amount.isZero with
  | true => exact (Flow.note _).bind fun _ => Flow.pure _
  | false => exact (Flow.ofExcept _).bind fun _ => (Flow.ofExcept _).bind fun _ => Flow.pure _

lemma append_flow (terms : Terms) (check : Bool) : Flow (append terms check) := by
  rw [append_eq]
  refine (Flow.ofExcept _).bind fun p => (Flow.ofExcept _).bind fun tx => ?_
  exact (inspect_flow _ _).bind fun _ => (offer_flow _).bind fun o => finish_flow _ _ _

end Payment

namespace Sponsor

lemma create_flow (plan : Plan) : Flow (create plan) := by
  refine (Flow.ofExcept _).bind fun feeToken => (Flow.ofExcept _).bind fun program => ?_
  refine (Method.call_flow _ _).bind fun record => (Flow.ofExcept _).bind fun payer => ?_
  exact (Flow.ofExcept _).bind fun address => Flow.pure _

lemma pay_flow (sp : Sponsor) (d : Draft) (estimate : Reply.FeeEstimate) :
    Flow (sp.pay d estimate) := by
  refine (Flow.ofExcept _).bind fun amount => ?_
  cases amount.isZero with
  | true => exact (Flow.note _).bind fun _ => Flow.pure _
  | false => exact (Flow.ofExcept _).bind fun _ => (Flow.note _).bind fun _ => Flow.ofExcept _

lemma build_flow (sp : Sponsor) (ixs : List Instruction) : Flow (sp.build ixs) := by
  rw [build_eq]
  refine (Method.call_flow _ _).bind fun record => (Flow.ofExcept _).bind fun d => ?_
  exact (Payment.estimate_flow _ _).bind fun e => sp.pay_flow d e

lemma submit_flow (sp : Sponsor) (ixs : List Instruction) : Flow (sp.submit ixs) :=
  (sp.build_flow ixs).bind fun _ => (Method.call_flow _ _).bind fun _ => Flow.ofExcept _

end Sponsor

namespace Session

open Paymaster.Rpc.Action

lemma checkArguments_flow (o : Operation) (arguments : List (Text × Json)) :
    Flow (checkArguments o arguments) :=
  Flow.ofExcept _

lemma currentSponsor_flow (sponsor : Option Sponsor) (operation : String) :
    Flow (currentSponsor sponsor operation) := by
  cases sponsor with
  | some s => exact Flow.pure s
  | none => exact Flow.throw _

/-- **Every step is a flow**, but for the one that reads the settings back. -/
theorem perform_flow (sponsor : Option Sponsor) {step : Step} (h : step ≠ .settings) :
    Flow (perform sponsor step) := by
  cases step with
  | method m arguments =>
      refine (checkArguments_flow _ _).bind fun _ => ?_
      exact (Method.call_flow _ _).bind fun _ => Flow.pure _
  | request method params => exact (Flow.request _ _).bind fun _ => Flow.pure _
  | offerPayment arguments =>
      refine (checkArguments_flow _ _).bind fun _ => ?_
      exact (Payment.offer_flow _).bind fun _ => Flow.pure _
  | appendPayment arguments =>
      refine (checkArguments_flow _ _).bind fun _ => ?_
      exact (Payment.append_flow _ _).bind fun _ => Flow.pure _
  | sponsor wallet asKey arguments =>
      refine (checkArguments_flow _ _).bind fun _ => ?_
      exact (Sponsor.create_flow _).bind fun _ => Flow.pure _
  | build ixs =>
      refine (currentSponsor_flow _ _).bind fun s => ?_
      exact (s.build_flow ixs).bind fun _ => Flow.pure _
  | submit ixs =>
      refine (currentSponsor_flow _ _).bind fun s => ?_
      exact (s.submit_flow ixs).bind fun _ => Flow.pure _
  | close arguments =>
      refine (checkArguments_flow _ _).bind fun _ => ?_
      exact Flow.close.bind fun _ => Flow.pure _
  | scope => exact Flow.close.bind fun _ => Flow.pure _
  | settings => exact absurd rfl h

/-- A client that has not done anything. -/
def opened (settings : Settings) (isOwn : Bool) (clock : Clock) : Session where
  connection := .fresh settings isOwn clock
  sponsor := none

/-- The exchange that the step of a turn runs on. -/
def exchangeFor (s : Session) (turn : Turn) : Exchange where
  connection := { s.connection with clock := turn.clock.getD s.connection.clock }
  replies := turn.replies
  trace := .empty

/-- A turn runs its step, reports what came of it, and goes on from the connection that it left. -/
lemma step_eq (s : Session) (turn : Turn) :
    s.step turn =
      let out := (perform s.sponsor turn.step).on (s.exchangeFor turn)
      ({ outcome := out.1, trace := out.2.trace },
        { connection := out.2.connection, sponsor := nextSponsor s.sponsor out.1 }) := rfl

end Session

end Steps

/-! ## Two runs -/

namespace Rpc

open Paymaster.Rpc.Action

/-- Two results agree: they are values that are related, or the same error. -/
inductive Agree {α β : Type} (Q : α → β → Prop) : Except Error α → Except Error β → Prop
  | ok {a : α} {b : β} : Q a b → Agree Q (.ok a) (.ok b)
  | error (e : Error) : Agree Q (.error e) (.error e)

/-- Two actions run alike: on related exchanges their results agree, and the exchanges stay
related. -/
def Alike {α β : Type} (R : Exchange → Exchange → Prop) (Q : α → β → Prop) (x : Action α)
    (y : Action β) : Prop :=
  ∀ s t, R s t → Agree Q (x.on s).1 (y.on t).1 ∧ R (x.on s).2 (y.on t).2

section Alike

variable {α β γ δ : Type} {R : Exchange → Exchange → Prop} {Q : α → β → Prop}
  {P : γ → δ → Prop}

lemma Agree.of_eq {r r' : Except Error α} (h : r = r') : Agree Eq r r' := by
  subst h
  cases r with
  | ok a => exact Agree.ok rfl
  | error e => exact Agree.error e

lemma Agree.eq {r r' : Except Error α} (h : Agree Eq r r') : r = r' := by
  cases h with
  | ok h => rw [h]
  | error e => rfl

lemma Agree.bind {r : Except Error α} {r' : Except Error β} {f : α → Except Error γ}
    {g : β → Except Error δ} (h : Agree Q r r') (hf : ∀ a b, Q a b → Agree P (f a) (g b)) :
    Agree P (r >>= f) (r' >>= g) := by
  cases h with
  | ok h => exact hf _ _ h
  | error e => exact Agree.error e

lemma Alike.ofExcept {r : Except Error α} {r' : Except Error β} (h : Agree Q r r') :
    Alike R Q (ofExcept r) (ofExcept r') := by
  intro s t hst
  rw [on_ofExcept, on_ofExcept]
  exact ⟨h, hst⟩

lemma Alike.pure {a : α} {b : β} (h : Q a b) : Alike R Q (pure a) (pure b) :=
  Alike.ofExcept (Agree.ok h)

lemma Alike.get : Alike R R get get := fun _ _ hst => ⟨Agree.ok hst, hst⟩

/-- **Alike parts make an alike sequence.** -/
lemma Alike.bind {x : Action α} {y : Action β} {f : α → Action γ} {g : β → Action δ}
    (hx : Alike R Q x y) (hf : ∀ a b, Q a b → Alike R P (f a) (g b)) :
    Alike R P (x >>= f) (y >>= g) := by
  intro s t hst
  rcases hx s t hst with ⟨hagree, hafter⟩
  rw [on_bind, on_bind]
  generalize x.on s = out at hagree hafter ⊢
  generalize y.on t = out' at hagree hafter ⊢
  rcases out with ⟨r, s'⟩
  rcases out' with ⟨r', t'⟩
  cases hagree with
  | ok h => exact hf _ _ h s' t' hafter
  | error e => exact ⟨Agree.error e, hafter⟩

lemma Agree.mapM {xs : List α} {ys : List β} {f : α → Except Error γ} {g : β → Except Error δ}
    (h : List.Forall₂ Q xs ys) (hf : ∀ a b, Q a b → Agree P (f a) (g b)) :
    Agree (List.Forall₂ P) (xs.mapM f) (ys.mapM g) := by
  induction h with
  | nil => exact Agree.ok List.Forall₂.nil
  | cons hab _ ih =>
      simp only [List.mapM_cons]
      refine (hf _ _ hab).bind fun c d hcd => ih.bind fun cs ds hrest => ?_
      exact Agree.ok (List.Forall₂.cons hcd hrest)

/-- A relation of exchanges is kept by all that a flow is made of, whatever comes of it. -/
structure Kept [Stack] (R : Exchange → Exchange → Prop) : Prop where
  note : ∀ n, Alike R Eq (note n) (note n)
  warn : ∀ text, Alike R Eq (warn text) (warn text)
  request : ∀ method params, Alike R Eq (request method params) (request method params)
  close : Alike R Eq (modifyConnection Connection.close) (modifyConnection Connection.close)

/-- **A flow runs like itself** when a call does. -/
theorem Flow.alike [Stack] {x : Action α} (h : Flow x) (hR : Kept R) : Alike R Eq x x := by
  induction h with
  | ofExcept r => exact Alike.ofExcept (Agree.of_eq rfl)
  | note n => exact hR.note n
  | warn text => exact hR.warn text
  | request method params => exact hR.request method params
  | close => exact hR.close
  | bind _ _ ihx ihf =>
      refine ihx.bind fun a b hab => ?_
      rw [hab]
      exact ihf b

end Alike

end Rpc

end Paymaster
