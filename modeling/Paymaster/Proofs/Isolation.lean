import Mathlib
import Paymaster.Proofs.Flow
import Paymaster.Proofs.SentRequests

/-!
# A reply stays with its call

Whatever the server answers to a call, the client goes on alike: it has used one number and one
answer to the challenge, and keeps nothing of the reply.

**One call.**  `SameButReplies` relates exchanges that differ only in the replies that wait.  All that
a call does before it reads its reply is the same on both (`prepare_alike`), so it leaves the same
connection and the same trace behind (`request_steady`), although its result may differ.

**One session.**  A turn can be replaced by another that leaves the same session behind, and no other
report changes (`run_set_of_ne`).  The main statement is `other_reports_unchanged`.
-/

namespace Paymaster

namespace Rpc

open Paymaster.Rpc.Action

/-! ## One call -/

/-- Two exchanges are the same but for the replies that wait. -/
def SameButReplies (s t : Exchange) : Prop :=
  s.connection = t.connection ∧ s.trace = t.trace

/-- What an action leaves behind does not depend on the replies, the replies apart. -/
def Steady {α : Type} (x : Action α) : Prop :=
  ∀ s t, SameButReplies s t → SameButReplies (x.on s).2 (x.on t).2

section

variable {α β : Type} {x : Action α}

lemma modifyTrace_alike (f : Trace → Trace) :
    Alike SameButReplies Eq (modifyTrace f) (modifyTrace f) := by
  rintro s t ⟨hconnection, htrace⟩
  exact ⟨Agree.ok rfl, hconnection, congrArg f htrace⟩

lemma modifyConnection_alike (f : Connection → Connection) :
    Alike SameButReplies Eq (modifyConnection f) (modifyConnection f) := by
  rintro s t ⟨hconnection, htrace⟩
  exact ⟨Agree.ok rfl, congrArg f hconnection, htrace⟩

lemma takeId_alike : Alike SameButReplies Eq takeId takeId := by
  rintro s t ⟨hconnection, htrace⟩
  refine ⟨?_, ?_, htrace⟩
  · exact Agree.of_eq (congrArg (fun c : Connection => Except.ok c.nextId) hconnection)
  · exact congrArg (fun c : Connection => { c with nextId := c.nextId + 1 }) hconnection

lemma takeAnswer_alike (challenge : Challenge) :
    Alike SameButReplies Eq (takeAnswer challenge) (takeAnswer challenge) := by
  cases challenge with
  | failing text => exact Alike.ofExcept (Agree.error _)
  | answers values =>
      refine Alike.get.bind fun s t hst => ?_
      rw [hst.1]
      cases t.connection.answers with
      | nil => exact Alike.ofExcept (Agree.error _)
      | cons answer others =>
          exact (modifyConnection_alike _).bind fun _ _ _ => Alike.pure rfl

lemma headers_alike (body : String) : Alike SameButReplies Eq (headers body) (headers body) := by
  refine Alike.get.bind fun s t hst => ?_
  rw [hst.1]
  refine (Alike.ofExcept (Agree.of_eq rfl)).bind fun signed _ hsigned => ?_
  rw [hsigned]
  have hchallenged : Alike SameButReplies Eq
      (challengeHeaders t.connection.settings.challenge)
      (challengeHeaders t.connection.settings.challenge) := by
    cases t.connection.settings.challenge with
    | none => exact Alike.pure rfl
    | some challenge =>
        refine (takeAnswer_alike challenge).bind fun answer _ hanswer => ?_
        rw [hanswer]
        exact Alike.pure rfl
  refine hchallenged.bind fun challenged _ heq => ?_
  rw [heq]
  exact Alike.pure rfl

/-- Sending shows the request or not; the reply decides only what comes back. -/
lemma send_steady (r : Request) : Steady (send r) := by
  have hleft : ∀ s : Exchange, ((send r).on s).2.connection = s.connection
      ∧ ((send r).on s).2.trace = if s.connection.isClosed then s.trace
        else { s.trace with requests := s.trace.requests ++ [r] } := by
    intro s
    unfold send
    rw [on_bind, on_get]
    cases hclosed : s.connection.isClosed with
    | true => simp [hclosed]; exact ⟨rfl, rfl⟩
    | false =>
        simp only [hclosed]
        rcases hreplies : s.replies with _ | ⟨bytes | ⟨fault, text⟩, others⟩ <;> exact ⟨rfl, rfl⟩
  rintro s t ⟨hconnection, htrace⟩
  constructor
  · rw [(hleft s).1, (hleft t).1, hconnection]
  · rw [(hleft s).2, (hleft t).2, hconnection, htrace]

lemma Steady.bind_ofExcept (hx : Steady x) (f : α → Except Error β) :
    Steady (x >>= fun a => ofExcept (f a)) := by
  have hlast : ∀ s, ((x >>= fun a => ofExcept (f a)).on s).2 = (x.on s).2 := by
    intro s
    rw [on_bind]
    rcases x.on s with ⟨e | a, t⟩
    · rfl
    · exact congrArg Prod.snd (on_ofExcept (f a) t)
  intro s t hst
  rw [hlast, hlast]
  exact hx s t hst

lemma Alike.bind_steady {f : α → Action β} (hx : Alike SameButReplies Eq x x)
    (hf : ∀ a, Steady (f a)) : Steady (x >>= f) := by
  intro s t hst
  rcases hx s t hst with ⟨hagree, hafter⟩
  rw [on_bind, on_bind]
  generalize x.on s = out at hagree hafter ⊢
  generalize x.on t = out' at hagree hafter ⊢
  rcases out with ⟨r, s'⟩
  rcases out' with ⟨r', t'⟩
  cases hagree with
  | ok h =>
      rw [h]
      exact hf _ s' t' hafter
  | error e => exact hafter

variable [Stack]

/-- **A request is made ready without a look at the replies.** -/
lemma prepare_alike (method params : Json) (id : ℕ) :
    Alike SameButReplies Eq (prepare method params id) (prepare method params id) := by
  refine (Alike.ofExcept (Agree.of_eq rfl)).bind fun body _ hbody => ?_
  rw [hbody]
  refine (headers_alike _).bind fun unchecked _ hunchecked => ?_
  rw [hunchecked]
  refine (modifyTrace_alike _).bind fun _ _ _ => Alike.get.bind fun s t hst => ?_
  rw [hst.1]
  refine (Alike.ofExcept (Agree.of_eq rfl)).bind fun target _ htarget => ?_
  rw [htarget]
  refine (Alike.ofExcept (Agree.of_eq rfl)).bind fun checked _ hchecked => ?_
  rw [hchecked]
  refine (Alike.ofExcept (Agree.of_eq rfl)).bind fun _ _ _ => ?_
  exact Alike.pure rfl

/-- **A call leaves the same behind, whatever is replied.** -/
theorem request_steady (method params : Json) : Steady (request method params) := by
  rw [request_eq]
  refine takeId_alike.bind_steady fun id => (prepare_alike _ _ _).bind_steady fun out => ?_
  exact (send_steady out.2).bind_ofExcept _

lemma Method.call_steady (m : Method) (arguments : List (Text × Json)) :
    Steady (m.call arguments) := by
  rw [call_eq]
  refine Alike.bind_steady ?_ fun _ => (request_steady _ _).bind_ofExcept _
  unfold announce
  cases m.warning with
  | some text => exact modifyTrace_alike _
  | none => exact Alike.pure rfl

end

end Rpc

open Rpc Rpc.Action

/-! ## One session -/

/-- A step makes just one call and hands out what is in the reply: it calls a method of the server, by
name or any. -/
def Step.IsCall : Step → Prop
  | .method _ _ => True
  | .request _ _ => True
  | _ => False

namespace Session

lemma nextSponsor_bind_pure {α : Type} {sponsor : Option Sponsor} {f : α → Outcome}
    (hf : ∀ a, nextSponsor sponsor (.ok (f a)) = sponsor) (x : Action α) (s : Exchange) :
    nextSponsor sponsor ((x >>= fun a => pure (f a)).on s).1 = sponsor := by
  rw [on_bind]
  rcases x.on s with ⟨e | a, t⟩
  · rfl
  · exact hf a

section Turns

variable [Stack]

lemma perform_steady (sponsor : Option Sponsor) {step : Step} (h : step.IsCall) :
    Steady (perform sponsor step) := by
  cases step with
  | method m arguments =>
      refine (Alike.ofExcept (Agree.of_eq rfl)).bind_steady fun _ => ?_
      exact (m.call_steady arguments).bind_ofExcept fun r => .ok (Outcome.record m.reply r)
  | request method params =>
      exact (request_steady method params).bind_ofExcept fun v => .ok (Outcome.value v)
  | _ => exact h.elim

/-- A call sets up no sponsor. -/
lemma nextSponsor_perform (sponsor : Option Sponsor) {step : Step} (h : step.IsCall)
    (s : Exchange) : nextSponsor sponsor ((perform sponsor step).on s).1 = sponsor := by
  cases step with
  | method m arguments =>
      rw [perform, on_bind, checkArguments, on_ofExcept]
      cases (m.operation.check (arguments.map (·.1))).mapError Error.arguments with
      | error e => rfl
      | ok _ => exact nextSponsor_bind_pure (fun _ => rfl) (m.call arguments) s
  | request method params => exact nextSponsor_bind_pure (fun _ => rfl) _ s
  | _ => exact h.elim

/-- **A reply is forgotten**: after a call the session is the same, and so is what the call has shown
of itself. -/
lemma step_withReplies (s : Session) {turn : Turn} (h : turn.step.IsCall)
    (replies : List Response) :
    (s.step { turn with replies }).2 = (s.step turn).2
      ∧ (s.step { turn with replies }).1.trace = (s.step turn).1.trace := by
  have hsteady := perform_steady s.sponsor h (s.exchangeFor { turn with replies })
    (s.exchangeFor turn) ⟨rfl, rfl⟩
  rw [step_eq, step_eq]
  simp only [nextSponsor_perform s.sponsor h]
  exact ⟨congrArg (Session.mk · s.sponsor) hsteady.1, hsteady.2⟩

/-- A turn that leaves the same session behind can take the place of another: no other report
changes. -/
lemma run_set_of_ne {turns : List Turn} {k : ℕ} {turn other : Turn} (s : Session)
    (hturn : turns[k]? = some turn)
    (hsame : ((s.after (turns.take k)).step other).2 = ((s.after (turns.take k)).step turn).2)
    {i : ℕ} (hi : i ≠ k) : (s.run (turns.set k other))[i]? = (s.run turns)[i]? := by
  induction turns generalizing s k i with
  | nil => cases hturn
  | cons first rest ih =>
      cases k with
      | zero =>
          obtain rfl : first = turn := Option.some.inj hturn
          cases i with
          | zero => exact absurd rfl hi
          | succ i =>
              show (run (s.step other).2 rest)[i]? = (run (s.step first).2 rest)[i]?
              rw [show (s.step other).2 = (s.step first).2 from hsame]
      | succ k =>
          cases i with
          | zero => rfl
          | succ i => exact ih (s.step first).2 hturn hsame (fun h => hi (congrArg _ h))

/-- **A reply affects only its own call.**

Take any turn of any session whose step is a single call, and let the server have other replies ready
for it.  Then every other report of the session stays as it was, with its outcome, its requests, its
notes and its warnings.  In the report of the turn itself only the outcome can change. -/
theorem other_reports_unchanged (s : Session) {turns : List Turn} {k : ℕ} {turn : Turn}
    (hturn : turns[k]? = some turn) (hcall : turn.step.IsCall) (replies : List Response) :
    (∀ i, i ≠ k → (s.run (turns.set k { turn with replies }))[i]? = (s.run turns)[i]?)
      ∧ ((s.run (turns.set k { turn with replies }))[k]?).map (·.trace)
        = ((s.run turns)[k]?).map (·.trace) := by
  obtain ⟨hafter, htrace⟩ := (s.after (turns.take k)).step_withReplies hcall replies
  refine ⟨fun i hi => s.run_set_of_ne hturn hafter hi, ?_⟩
  have hlt : k < turns.length := (List.getElem?_eq_some_iff.mp hturn).1
  rw [getElem?_run, getElem?_run, List.getElem?_set_self hlt, hturn, List.take_set_of_le le_rfl]
  exact congrArg some htrace

end Turns

/-- A client with two answers to the challenge. -/
def challenged : Session where
  connection :=
    .fresh
      { url := .str defaultUrl, apiKey := .null, hmacSecret := .null
        challenge := some (.answers [.str "a", .str "b"]) }
      false (.whole 0)
  sponsor := none

/-- A call for the version of the server, with a reply. -/
def askVersion (reply : Response) : Turn where
  step := .method Method.getVersion []
  replies := [reply]
  clock := none

/-- Two calls, each with the version as its reply. -/
def askTwice : List Turn :=
  [askVersion (Payment.replyWith (.obj [("version", .str "2")])),
   askVersion (Payment.replyWith (.obj [("version", .str "2")]))]

section Usual

open scoped Stack

/-- Bytes that are no JSON make the first call fail, and the second goes on as before, with the second
answer to the challenge. -/
theorem other_reports_unchanged_of_garbage :
    (challenged.run askTwice)[0]?.map (·.outcome.isOk) = some true
      ∧ (challenged.run (askTwice.set 0 (askVersion (.body [0x7B]))))[0]?.map (·.outcome.isOk)
        = some false
      ∧ (challenged.run (askTwice.set 0 (askVersion (.body [0x7B]))))[1]?
        = (challenged.run askTwice)[1]?
      ∧ (challenged.run askTwice)[1]?.map
          (fun r => (r.outcome.isOk, r.trace.requests.map (·.headers.lookup "x-recaptcha-token")))
        = some (true, [some "b"]) := by
  have hfirst : askTwice[0]? = some (askVersion (Payment.replyWith (.obj [("version", .str "2")]))) :=
    rfl
  have hcall : (Step.method Method.getVersion []).IsCall := trivial
  have hothers := (challenged.other_reports_unchanged hfirst hcall [.body [0x7B]]).1
  exact ⟨by decide +kernel, by decide +kernel, hothers 1 one_ne_zero, by decide +kernel⟩

end Usual

end Session

end Paymaster
