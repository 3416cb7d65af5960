import Mathlib
import Paymaster.Proofs.Delivery
import Paymaster.Proofs.Isolation

/-!
# Numbers and sends of a session

The calls of a client are numbered one by one, whatever comes of them, and each of them sends its
one request or none.

**Calls of a run.**  `Invokes` lists the calls that a run of an action makes, each with the exchange
that it starts from.  The list leaves nothing out: what is not a call takes no number and sends
nothing.  Every flow has such a list (`Flow.exists_invokes`), and from it one reads off where the
run leads: `Leads` counts the numbers and collects the requests, and it composes along a sequence
(`Leads.trans`).

**Calls of a session.**  The same is said of the turns of a session (`Session.Invokes`), so the
calls of a new client are numbered from one on, and the requests that go out have increasing numbers.

**Closing.**  A closed connection stays closed, and on it no call reaches the network.  The main
statement is `calls_numbered_and_sent_once`.
-/

namespace Paymaster

namespace Rpc

open Paymaster.Rpc.Action

/-- A connection that was given is not closed. -/
lemma Connection.close_of_given {c : Connection} (h : c.isOwn = false) : c.close = c := by
  obtain ⟨settings, isOwn, isClosed, nextId, answers, clock⟩ := c
  obtain rfl : isOwn = false := h
  rw [close, Bool.or_false]

/-! ## Calls of a run -/

/-- From one exchange to another no number was taken and nothing sent.  The connection may have been
closed. -/
structure Idles (s t : Exchange) : Prop where
  nextId : t.connection.nextId = s.connection.nextId
  requests : t.trace.requests = s.trace.requests
  settings : t.connection.settings = s.connection.settings
  isOwn : t.connection.isOwn = s.connection.isOwn
  isClosed : s.connection.isClosed = true → t.connection.isClosed = true

lemma Advances.idles {s t : Exchange} (h : Advances s t 0 [] []) : Idles s t where
  nextId := h.nextId
  requests := h.requests.trans (List.append_nil _)
  settings := h.settings
  isOwn := h.isOwn
  isClosed := h.isClosed.trans

variable [Stack]

/-- A call that was made, and the exchange that it was made on. -/
structure Invocation where
  call : Call
  start : Exchange

namespace Invocation

/-- The number of the call. -/
def number (i : Invocation) : ℕ := i.start.connection.nextId

/-- The exchange behind the call. -/
def finish (i : Invocation) : Exchange := ((request i.call.method i.call.params).on i.start).2

/-- The requests that were sent for the call. -/
def sent (i : Invocation) : List Request :=
  i.finish.trace.requests.drop i.start.trace.requests.length

/-- The call sent its one request if it could reach the network, and nothing otherwise. -/
structure Delivers (i : Invocation) : Prop where
  once : i.call.Reaches i.start.connection →
    ∃ r, i.sent = [r] ∧ r.IsFor i.start.connection.settings i.number i.call
  none : ¬ i.call.Reaches i.start.connection → i.sent = []

lemma exists_advances (i : Invocation) :
    ∃ served, Advances i.start i.finish 1 i.sent served ∧ i.Delivers := by
  obtain ⟨sent, served, hadv, honce, hnone⟩ := request_delivers i.call.method i.call.params i.start
  obtain rfl : i.sent = sent := by
    rw [Invocation.sent, finish, hadv.requests, List.drop_left]
  exact ⟨served, hadv, honce, hnone⟩

lemma delivers (i : Invocation) : i.Delivers := by
  obtain ⟨-, -, h⟩ := i.exists_advances
  exact h

/-- On a closed connection nothing is sent. -/
lemma Delivers.of_isClosed {i : Invocation} (h : i.Delivers)
    (hclosed : i.start.connection.isClosed = true) : i.sent = [] := by
  apply h.none
  intro hreaches
  rw [hreaches.isOpen] at hclosed
  cases hclosed

end Invocation

/-- A run of an action makes just these calls, in order.  A sequence stops where its first part
fails. -/
inductive Invokes : {α : Type} → Action α → Exchange → List Invocation → Prop
  | idle {α : Type} {x : Action α} {s : Exchange} : Idles s (x.on s).2 → Invokes x s []
  | request (method params : Json) (s : Exchange) :
    Invokes (request method params) s [⟨⟨method, params⟩, s⟩]
  | bind {α β : Type} {x : Action α} {f : α → Action β} {s t : Exchange} {a : α}
    {calls more : List Invocation} :
    Invokes x s calls → x.on s = (.ok a, t) → Invokes (f a) t more →
    Invokes (x >>= f) s (calls ++ more)
  | stop {α β : Type} {x : Action α} {f : α → Action β} {s t : Exchange} {e : Error}
    {calls : List Invocation} :
    Invokes x s calls → x.on s = (.error e, t) → Invokes (x >>= f) s calls

/-- **Every run of a flow makes some calls**, and nothing else that takes a number or is sent. -/
theorem Flow.exists_invokes {α : Type} {x : Action α} (h : Flow x) (s : Exchange) :
    ∃ calls, Invokes x s calls := by
  induction h generalizing s with
  | ofExcept r => exact ⟨[], .idle (Quiet.ofExcept r s).idles⟩
  | note n => exact ⟨[], .idle (Quiet.note n s).idles⟩
  | warn text => exact ⟨[], .idle (Quiet.warn text s).idles⟩
  | request method params => exact ⟨_, .request method params s⟩
  | close =>
      refine ⟨[], .idle ⟨rfl, rfl, rfl, rfl, ?_⟩⟩
      intro hclosed
      exact Bool.or_eq_true_iff.mpr (Or.inl hclosed)
  | @bind _ _ x f _ _ ihx ihf =>
      obtain ⟨calls, hcalls⟩ := ihx s
      cases hx : x.on s with
      | mk r t =>
          cases r with
          | ok a =>
              obtain ⟨more, hmore⟩ := ihf a t
              exact ⟨calls ++ more, .bind hcalls hx hmore⟩
          | error e => exact ⟨calls, .stop hcalls hx⟩

lemma Invokes.bind_quiet {α β : Type} {x : Action α} {f : α → Action β} {s : Exchange}
    {calls : List Invocation} (h : Invokes x s calls) (hf : ∀ a, Quiet (f a)) :
    Invokes (x >>= f) s calls := by
  cases hx : x.on s with
  | mk r t =>
      cases r with
      | ok a =>
          rw [← List.append_nil calls]
          exact .bind h hx (.idle (hf a t).idles)
      | error e => exact .stop h hx

/-- Some calls lead from one exchange to another: they took the next numbers and sent all that was
sent, and each started under the settings, and behind a closing if there was one. -/
structure Leads (s t : Exchange) (calls : List Invocation) : Prop where
  nextId : t.connection.nextId = s.connection.nextId + calls.length
  numbers : calls.map (·.number) = List.range' s.connection.nextId calls.length
  requests : t.trace.requests = s.trace.requests ++ calls.flatMap (·.sent)
  settings : t.connection.settings = s.connection.settings
  isOwn : t.connection.isOwn = s.connection.isOwn
  isClosed : s.connection.isClosed = true → t.connection.isClosed = true
  started : ∀ i ∈ calls, i.start.connection.settings = s.connection.settings
    ∧ (s.connection.isClosed = true → i.start.connection.isClosed = true)

lemma Idles.leads {s t : Exchange} (h : Idles s t) : Leads s t [] :=
  ⟨h.nextId, rfl, h.requests.trans (List.append_nil _).symm, h.settings, h.isOwn, h.isClosed,
    List.forall_mem_nil _⟩

lemma Invocation.leads (i : Invocation) : Leads i.start i.finish [i] := by
  obtain ⟨served, hadv, -⟩ := i.exists_advances
  refine ⟨hadv.nextId, rfl, ?_, hadv.settings, hadv.isOwn, hadv.isClosed.trans, ?_⟩
  · rw [hadv.requests, List.flatMap_singleton]
  · intro j hj
    rw [List.mem_singleton.mp hj]
    exact ⟨rfl, id⟩

/-- **Calls lead on from where the calls before them have led.** -/
lemma Leads.trans {s t u : Exchange} {calls more : List Invocation} (h : Leads s t calls)
    (h' : Leads t u more) : Leads s u (calls ++ more) where
  nextId := by rw [h'.nextId, h.nextId, List.length_append, Nat.add_assoc]
  numbers := by
    rw [List.map_append, h.numbers, h'.numbers, h.nextId, List.length_append, List.range'_append_1]
  requests := by rw [h'.requests, h.requests, List.flatMap_append, List.append_assoc]
  settings := h'.settings.trans h.settings
  isOwn := h'.isOwn.trans h.isOwn
  isClosed := h'.isClosed ∘ h.isClosed
  started := by
    refine List.forall_mem_append.mpr ⟨h.started, ?_⟩
    intro i hi
    obtain ⟨hsettings, hclosed⟩ := h'.started i hi
    exact ⟨hsettings.trans h.settings, hclosed ∘ h.isClosed⟩

/-- **The calls of a run lead to where it ends.** -/
theorem Invokes.leads {α : Type} {x : Action α} {s : Exchange} {calls : List Invocation}
    (h : Invokes x s calls) : Leads s (x.on s).2 calls := by
  induction h with
  | idle h => exact h.leads
  | request method params s => exact Invocation.leads ⟨⟨method, params⟩, s⟩
  | bind _ hx _ ihx ihf =>
      rw [on_bind, hx]
      rw [hx] at ihx
      exact ihx.trans ihf
  | stop _ hx ihx =>
      rw [on_bind, hx]
      rw [hx] at ihx
      exact ihx

/-- What was sent for some calls has their numbers, those of the calls that sent nothing left out. -/
lemma exists_ids_of_sent {settings : Settings} {calls : List Invocation}
    (h : ∀ i ∈ calls, i.start.connection.settings = settings) :
    ∃ ids, ids.Sublist (calls.map (·.number))
      ∧ List.Forall₂ (fun (r : Request) id => ∃ call, r.IsFor settings id call)
        (calls.flatMap (·.sent)) ids := by
  induction calls with
  | nil => exact ⟨[], List.Sublist.refl _, List.Forall₂.nil⟩
  | cons i rest ih =>
      obtain ⟨hi, hrest⟩ := List.forall_mem_cons.mp h
      obtain ⟨ids, hsub, hsent⟩ := ih hrest
      by_cases hreaches : i.call.Reaches i.start.connection
      · obtain ⟨r, hr, hfor⟩ := i.delivers.once hreaches
        rw [hi] at hfor
        refine ⟨i.number :: ids, hsub.cons_cons _, ?_⟩
        rw [List.flatMap_cons, hr]
        exact List.Forall₂.cons ⟨i.call, hfor⟩ hsent
      · refine ⟨ids, hsub.cons _, ?_⟩
        rw [List.flatMap_cons, i.delivers.none hreaches]
        exact hsent

end Rpc

open Rpc Rpc.Action

/-! ## Calls of a session -/

/-- A step closes the client: it is closed as such, or left as a scope. -/
def Step.Closes : Step → Prop
  | .close arguments => arguments = []
  | .scope => True
  | _ => False

namespace Session

section Turns

variable [Stack]

/-- The turns of a session make just these calls, turn by turn. -/
inductive Invokes : Session → List Turn → List (List Invocation) → Prop
  | nil (s : Session) : Invokes s [] []
  | cons {s : Session} {turn : Turn} {rest : List Turn} {calls : List Invocation}
    {others : List (List Invocation)} :
    Rpc.Invokes (perform s.sponsor turn.step) (s.exchangeFor turn) calls →
    Invokes (s.step turn).2 rest others → Invokes s (turn :: rest) (calls :: others)

theorem exists_invokes (s : Session) (turns : List Turn) : ∃ invoked, s.Invokes turns invoked := by
  induction turns generalizing s with
  | nil => exact ⟨[], .nil s⟩
  | cons turn rest ih =>
      obtain ⟨others, hothers⟩ := ih (s.step turn).2
      have hturn : ∃ calls,
          Rpc.Invokes (perform s.sponsor turn.step) (s.exchangeFor turn) calls := by
        by_cases hsettings : turn.step = .settings
        · rw [hsettings]
          exact ⟨[], .idle ⟨rfl, rfl, rfl, rfl, id⟩⟩
        · exact (perform_flow s.sponsor hsettings).exists_invokes _
      obtain ⟨calls, hcalls⟩ := hturn
      exact ⟨calls :: others, .cons hcalls hothers⟩

section Invokes

variable {s : Session} {turn : Turn} {turns : List Turn} {calls : List Invocation}
  {invoked : List (List Invocation)}

/-- What a turn sends was sent for its calls. -/
lemma requests_of_invokes
    (h : Rpc.Invokes (perform s.sponsor turn.step) (s.exchangeFor turn) calls) :
    (s.step turn).1.trace.requests = calls.flatMap (·.sent) :=
  h.leads.requests

/-- The calls of a turn lead from the session to the one behind it. -/
lemma leads_of_invokes (h : Rpc.Invokes (perform s.sponsor turn.step) (s.exchangeFor turn) calls)
    (requests : List Request) :
    Leads ⟨s.connection, [], ⟨requests, [], []⟩⟩
      ⟨(s.step turn).2.connection, [], ⟨requests ++ (s.step turn).1.trace.requests, [], []⟩⟩
      calls where
  nextId := h.leads.nextId
  numbers := h.leads.numbers
  requests := by rw [requests_of_invokes h]
  settings := h.leads.settings
  isOwn := h.leads.isOwn
  isClosed := h.leads.isClosed
  started := h.leads.started

/-- **The calls of a session lead to where its turns do.** -/
theorem Invokes.leads (h : s.Invokes turns invoked) (requests : List Request) :
    Leads ⟨s.connection, [], ⟨requests, [], []⟩⟩
      ⟨(s.after turns).connection, [],
        ⟨requests ++ (s.run turns).flatMap (·.trace.requests), [], []⟩⟩ invoked.flatten := by
  induction h generalizing requests with
  | nil s => exact Idles.leads ⟨rfl, List.append_nil _, rfl, rfl, id⟩
  | @cons s turn rest calls others hturn _ ih =>
      have hrest := ih (requests ++ (s.step turn).1.trace.requests)
      rw [List.append_assoc] at hrest
      exact (leads_of_invokes hturn requests).trans hrest

/-- Each report shows what was sent for the calls of its turn. -/
lemma Invokes.requests (h : s.Invokes turns invoked) :
    (s.run turns).map (·.trace.requests) = invoked.map (·.flatMap (·.sent)) := by
  induction h with
  | nil s => rfl
  | cons hturn _ ih => exact congrArg₂ List.cons (requests_of_invokes hturn) ih

lemma Invokes.take (h : s.Invokes turns invoked) (i : ℕ) :
    s.Invokes (turns.take i) (invoked.take i) := by
  induction h generalizing i with
  | nil s =>
      rw [List.take_nil, List.take_nil]
      exact .nil s
  | @cons s turn rest calls others hturn hrest ih =>
      cases i with
      | zero => exact .nil s
      | succ i => exact .cons hturn (ih i)

end Invokes

/-! ## Closing -/

lemma isOwn_after (s : Session) (turns : List Turn) :
    (s.after turns).connection.isOwn = s.connection.isOwn := by
  obtain ⟨invoked, h⟩ := s.exists_invokes turns
  exact (h.leads []).isOwn

/-- **A closed connection stays closed**, and nothing is sent on it. -/
lemma closed_after {s : Session} (hclosed : s.connection.isClosed = true) (turns : List Turn) :
    (s.after turns).connection.isClosed = true
      ∧ ∀ report ∈ s.run turns, report.trace.requests = [] := by
  obtain ⟨invoked, h⟩ := s.exists_invokes turns
  have hleads := h.leads []
  refine ⟨hleads.isClosed hclosed, ?_⟩
  have hnone : invoked.flatten.flatMap (·.sent) = [] := by
    rw [List.flatMap_eq_nil_iff]
    intro i hi
    exact i.delivers.of_isClosed ((hleads.started i hi).2 hclosed)
  have hall : (s.run turns).flatMap (·.trace.requests) = [] := hleads.requests.trans hnone
  exact List.flatMap_eq_nil_iff.mp hall

/-- A step that closes the client does nothing else. -/
lemma step_of_closes (s : Session) {turn : Turn} (h : turn.step.Closes) :
    (s.step turn).2 = ⟨(s.exchangeFor turn).connection.close, s.sponsor⟩ := by
  obtain ⟨step, replies, clock⟩ := turn
  cases step with
  | close arguments =>
      obtain rfl : arguments = [] := h
      rfl
  | scope => rfl
  | _ => exact h.elim

lemma after_take_succ (s : Session) {turns : List Turn} {i : ℕ} {turn : Turn}
    (hturn : turns[i]? = some turn) :
    s.after (turns.take (i + 1)) = ((s.after (turns.take i)).step turn).2 := by
  rw [List.take_add_one, hturn]
  exact List.foldl_append

/-- The reports behind some turns are those of the session that these lead to. -/
lemma drop_run (s : Session) (turns : List Turn) (k : ℕ) :
    (s.run turns).drop k = (s.after (turns.take k)).run (turns.drop k) := by
  induction turns generalizing s k with
  | nil => rw [List.take_nil, List.drop_nil, run, List.drop_nil]; rfl
  | cons turn rest ih =>
      cases k with
      | zero => rfl
      | succ k => exact ih (s.step turn).2 k

/-- **Behind the closing of its own connection** a client sends nothing. -/
lemma requests_behind_closing {s : Session} (hown : s.connection.isOwn = true) {turns : List Turn}
    {i j : ℕ} {turn : Turn} {report : Report} (hturn : turns[i]? = some turn)
    (hcloses : turn.step.Closes) (hlt : i < j) (hreport : (s.run turns)[j]? = some report) :
    report.trace.requests = [] := by
  have hclosed : (s.after (turns.take (i + 1))).connection.isClosed = true := by
    rw [s.after_take_succ hturn, step_of_closes _ hcloses]
    show (_ || (s.after (turns.take i)).connection.isOwn) = true
    rw [isOwn_after, hown, Bool.or_true]
  refine (closed_after hclosed (turns.drop (i + 1))).2 report ?_
  rw [← drop_run]
  apply List.mem_of_getElem? (i := j - (i + 1))
  rwa [List.getElem?_drop, Nat.add_sub_cancel' hlt]

/-- **Closing a client with a connection that it was given** does as little as reading the settings
back. -/
lemma run_set_of_closes {s : Session} (hown : s.connection.isOwn = false) {turns : List Turn}
    {i j : ℕ} {turn : Turn} (hturn : turns[i]? = some turn) (hcloses : turn.step.Closes)
    (hne : j ≠ i) :
    (s.run (turns.set i { turn with step := .settings }))[j]? = (s.run turns)[j]? := by
  refine s.run_set_of_ne hturn ?_ hne
  have hgiven : ((s.after (turns.take i)).exchangeFor turn).connection.isOwn = false :=
    (s.isOwn_after _).trans hown
  rw [step_of_closes _ hcloses, Connection.close_of_given hgiven]
  rfl

/-- **The calls of a session are numbered one by one, and each sends its one request or none.**

Take any settings, and a client that starts with them and takes any turns.  It makes some calls,
turn by turn, and nothing else takes a number or is sent.

* The `k`-th call has the number `k`, and the number behind it is the next one, whatever comes of
  the call.  A turn that makes no call leaves the number as it was.
* Each call sends the one request for it, under its number, if it reaches the network, and nothing
  otherwise.  All requests are sent so, and their numbers increase.
* From the first closing on, a client with a connection of its own sends nothing.  If it was given
  its connection, no later report would be another had the settings been read back instead. -/
theorem calls_numbered_and_sent_once (settings : Settings) (isOwn : Bool) (clock : Clock)
    (turns : List Turn) :
    ∃ invoked, (opened settings isOwn clock).Invokes turns invoked
      ∧ (∀ k i, invoked.flatten[k]? = some i → i.number = k + 1
        ∧ i.finish.connection.nextId = k + 2 ∧ i.start.connection.settings = settings ∧ i.Delivers)
      ∧ (∀ k, ((opened settings isOwn clock).after (turns.take k)).connection.nextId
        = (invoked.take k).flatten.length + 1)
      ∧ ((opened settings isOwn clock).run turns).map (·.trace.requests)
        = invoked.map (·.flatMap (·.sent))
      ∧ (∃ ids : List ℕ, ids.Pairwise (· < ·)
        ∧ List.Forall₂ (fun (r : Request) id => ∃ call, r.IsFor settings id call)
          (((opened settings isOwn clock).run turns).flatMap (·.trace.requests)) ids)
      ∧ ∀ i j turn, turns[i]? = some turn → turn.step.Closes → i < j →
        (isOwn = true → ∀ report, ((opened settings isOwn clock).run turns)[j]? = some report →
          report.trace.requests = [])
        ∧ (isOwn = false →
          ((opened settings isOwn clock).run (turns.set i { turn with step := .settings }))[j]?
            = ((opened settings isOwn clock).run turns)[j]?) := by
  obtain ⟨invoked, h⟩ := (opened settings isOwn clock).exists_invokes turns
  have hleads := h.leads []
  have hnumbers : invoked.flatten.map (·.number) = List.range' 1 invoked.flatten.length :=
    hleads.numbers
  refine ⟨invoked, h, ?_, ?_, h.requests, ?_, ?_⟩
  · intro k i hi
    obtain ⟨served, hadv, hdelivers⟩ := i.exists_advances
    have hnumber : i.number = k + 1 := by
      have hk := congrArg (·[k]?) hnumbers
      simp only [List.getElem?_map, hi, Option.map_some] at hk
      obtain ⟨hlt, -⟩ := List.getElem?_eq_some_iff.mp hi
      rw [List.getElem?_range' hlt] at hk
      rw [Option.some.inj hk]
      omega
    exact ⟨hnumber, hadv.nextId.trans (congrArg (· + 1) hnumber),
      (hleads.started i (List.mem_of_getElem? hi)).1, hdelivers⟩
  · intro k
    rw [((h.take k).leads []).nextId]
    exact Nat.add_comm 1 _
  · obtain ⟨ids, hsub, hsent⟩ := exists_ids_of_sent fun i hi => (hleads.started i hi).1
    have hall : ((opened settings isOwn clock).run turns).flatMap (·.trace.requests)
        = invoked.flatten.flatMap (·.sent) := hleads.requests
    rw [hnumbers] at hsub
    rw [hall]
    exact ⟨ids, (List.pairwise_lt_range' _ one_pos).sublist hsub, hsent⟩
  · intro i j turn hturn hcloses hlt
    exact ⟨fun hown _ => requests_behind_closing hown hturn hcloses hlt,
      fun hown => run_set_of_closes hown hturn hcloses hlt.ne'⟩

end Turns

/-- A client for an address that shows no credentials and needs none. -/
def anonymous (url : String) : Session :=
  opened { url := .str url, apiKey := .null, hmacSecret := .null, challenge := none } true (.whole 0)

lemma anonymous_proves (url : String) : (anonymous url).connection.Proves :=
  ⟨Or.inl rfl, Or.inl rfl, Or.inl rfl⟩

/-- Parameters that use up the stack leave no room for the object around them. -/
lemma unwritable?_envelope [Stack] {method params : Json} {id : ℕ}
    (h : Stack.writing ≤ params.height false) :
    (envelope method params (.int id)).unwritable? ≠ none := by
  intro hnone
  obtain ⟨members, henvelope, optional, rfl, -, hsome⟩ := envelope_eq ⟨method, params⟩ id
  have hparams : params ≠ .null := by
    rintro rfl
    exact absurd (Stack.le_writing.trans h) (by decide)
  obtain ⟨hheight, -⟩ := (Json.obstacle?_eq_none_iff _).mp hnone
  rw [henvelope, hsome hparams] at hheight
  simp only [List.cons_append, List.nil_append, Json.height, Json.heightOfMembers] at hheight
  omega

/-- A call of a method, for which no reply is ready. -/
def callOf (params : Json) : Turn where
  step := .request (.str "getConfig") params
  replies := []
  clock := none

lemma invokes_callOf [Stack] (s : Session) (params : Json) :
    Rpc.Invokes (perform s.sponsor (callOf params).step) (s.exchangeFor (callOf params))
      [⟨⟨.str "getConfig", params⟩, s.exchangeFor (callOf params)⟩] :=
  (Rpc.Invokes.request _ _ _).bind_quiet fun _ => Quiet.pure _

/-- Whatever the stack, a tower of parameters that uses it up is not sent. -/
lemma sent_of_tower [Stack] (s : Session) :
    (⟨⟨.str "getConfig", .tower Stack.writing⟩, s.exchangeFor (callOf (.tower Stack.writing))⟩ :
      Invocation).sent = [] := by
  apply (Invocation.delivers _).none
  intro h
  refine unwritable?_envelope ?_ h.fits
  rw [Json.height_tower]
  exact Nat.le_succ _

section Usual

open scoped Stack

/-- No request goes to an address whose port is no number, and none whose parameters stand too deep
inside each other, although the connection is open and nothing is missing that proves who is
calling. -/
theorem nothing_sent_to_bad_port_or_of_deep_nesting :
    (∃ i, Rpc.Invokes (perform none (callOf .null).step)
        ((anonymous "http://h:x/").exchangeFor (callOf .null)) [i]
      ∧ i.start.connection.Proves ∧ i.start.connection.isClosed = false ∧ i.sent = [])
    ∧ ∃ i, Rpc.Invokes (perform none (callOf (.tower Stack.writing)).step)
        ((anonymous defaultUrl).exchangeFor (callOf (.tower Stack.writing))) [i]
      ∧ i.start.connection.Proves ∧ i.start.connection.isClosed = false ∧ i.sent = [] := by
  constructor
  · refine ⟨_, invokes_callOf (anonymous "http://h:x/") .null, anonymous_proves _, rfl, ?_⟩
    decide +kernel
  · exact ⟨_, invokes_callOf (anonymous defaultUrl) (.tower Stack.writing), anonymous_proves _, rfl,
      sent_of_tower _⟩

end Usual

end Session

end Paymaster
