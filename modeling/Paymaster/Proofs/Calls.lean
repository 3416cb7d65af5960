import Mathlib
import Paymaster.Proofs.Signatures

/-!
# What a call does

**Calls.**  `request` takes one number, and everything before and behind its one `send` is quiet
(`prepare_quiet`, `request_eq`).  What it takes for a request to be ready is in `prepare_eq_ok_iff`.
It is sent if it is ready, and else nothing is (`request_advances`).  So a call sends at most one
request, the one for it under its number (`request_posts`), and it succeeds only with what the next
reply holds (`request_completes`).
Calling a method adds a warning and a reading of the result.

**Flows.**  `Completes` says that some calls were all made and answered.  `Posts` says that they were
made in order up to one that failed, and that each request is the one for its call; `Attempts` says
no more of the requests than their bodies.  Both compose along a sequence, even where the calls of
its second part follow from the result of the first (`posts_bind`).
-/

namespace Paymaster.Rpc

open Paymaster.Rpc.Action

/-! ## The steps of a call -/

/-- A call of the server. -/
structure Call where
  method : Json
  params : Json

lemma takeAnswer_quiet (challenge : Challenge) : Quiet (takeAnswer challenge) := by
  cases challenge with
  | failing text => exact Quiet.throw _
  | answers values =>
      refine Quiet.get.bind fun s => ?_
      cases s.connection.answers with
      | nil => exact Quiet.throw _
      | cons answer others =>
          refine Quiet.bind (fun t => ?_) fun _ => Quiet.pure _
          exact ⟨(List.append_nil _).symm, rfl, rfl, rfl, rfl, rfl, rfl⟩

lemma headers_quiet (body : String) : Quiet (headers body) := by
  refine Quiet.get.bind fun s => (Quiet.ofExcept _).bind fun signed => ?_
  refine Quiet.bind ?_ fun _ => Quiet.pure _
  cases s.connection.settings.challenge with
  | none => exact Quiet.pure _
  | some challenge => exact (takeAnswer_quiet challenge).bind fun _ => Quiet.pure _

/-- The headers of a body: those of the signature stand behind the kind of the body and the key. -/
lemma headers_eq_ok_iff {body : String} {unchecked : List (String × Json)} {s s' : Exchange} :
    (headers body).on s = (.ok unchecked, s') ↔ ∃ signed challenged,
      signatureHeaders s.connection.settings.hmacSecret s.connection.clock body = .ok signed
      ∧ (challengeHeaders s.connection.settings.challenge).on s = (.ok challenged, s')
      ∧ unchecked = ("content-type", Json.str "application/json")
        :: keyHeaders s.connection.settings.apiKey ++ signed ++ challenged := by
  simp only [headers, on_bind_eq_ok_iff, on_get, on_ofExcept_eq_ok_iff, on_pure_eq_ok_iff,
    Prod.mk.injEq, Except.ok.injEq]
  constructor
  · rintro ⟨_, _, ⟨rfl, rfl⟩, signed, _, ⟨hsigned, rfl⟩, challenged, _, hchallenged, rfl, rfl⟩
    exact ⟨signed, challenged, hsigned, hchallenged, rfl⟩
  · rintro ⟨signed, challenged, hsigned, hchallenged, rfl⟩
    exact ⟨s, s, ⟨rfl, rfl⟩, signed, s, ⟨hsigned, rfl⟩, challenged, s', hchallenged, rfl, rfl⟩

/-- **Sending** shows the request unless the connection is closed, and gives bytes only if they
are the next reply. -/
lemma send_advances (r : Request) (s : Exchange) :
    ∃ served, Advances s ((send r).on s).2 0 (if s.connection.isClosed then [] else [r]) served
      ∧ ∀ bytes, ((send r).on s).1 = .ok bytes →
        s.connection.isClosed = false ∧ served = [.body bytes] := by
  unfold send
  rw [on_bind, on_get]
  cases hclosed : s.connection.isClosed with
  | true =>
      simp only [hclosed, if_true]
      refine ⟨[], Advances.refl s, ?_⟩
      intro bytes h
      cases h
  | false =>
      simp only [hclosed]
      cases hreplies : s.replies with
      | nil =>
          refine ⟨[], ⟨rfl, rfl, rfl, rfl, rfl, rfl, rfl⟩, ?_⟩
          intro bytes h
          cases h
      | cons reply others =>
          cases reply with
          | body bytes =>
              refine ⟨[.body bytes], ⟨rfl, hreplies, rfl, rfl, rfl, rfl, rfl⟩, ?_⟩
              intro other h
              cases h
              exact ⟨trivial, rfl⟩
          | failure fault text =>
              refine ⟨[.failure fault text], ⟨rfl, hreplies, rfl, rfl, rfl, rfl, rfl⟩, ?_⟩
              intro bytes h
              cases h

/-- An exchange whose next number is taken. -/
def Exchange.numbered (s : Exchange) : Exchange :=
  { s with connection := { s.connection with nextId := s.connection.nextId + 1 } }

lemma on_takeId (s : Exchange) : takeId.on s = (.ok s.connection.nextId, s.numbered) := rfl

lemma numbered_advances (s : Exchange) : Advances s s.numbered 1 [] [] :=
  ⟨(List.append_nil _).symm, rfl, rfl, rfl, rfl, rfl, rfl⟩

/-! ## Calls that were made -/

/-- The bodies of some calls, which are numbered from `first` on. -/
def bodies (first : ℕ) : List Call → List String
  | [] => []
  | call :: rest =>
    (envelope call.method call.params (.int first)).write :: bodies (first + 1) rest

lemma length_bodies (first : ℕ) (calls : List Call) : (bodies first calls).length = calls.length := by
  induction calls generalizing first with
  | nil => rfl
  | cons call rest ih => rw [bodies, List.length_cons, List.length_cons, ih]

lemma bodies_append (first : ℕ) (calls more : List Call) :
    bodies first (calls ++ more) = bodies first calls ++ bodies (first + calls.length) more := by
  induction calls generalizing first with
  | nil => rfl
  | cons call rest ih =>
      rw [List.cons_append, bodies, bodies, ih, List.cons_append, List.length_cons,
        Nat.add_right_comm, Nat.add_assoc]

lemma getElem?_bodies (first : ℕ) (calls : List Call) (j : ℕ) :
    (bodies first calls)[j]? = (calls[j]?).map fun call =>
      (envelope call.method call.params (.int (first + j : ℕ))).write := by
  induction calls generalizing first j with
  | nil => rfl
  | cons call rest ih =>
      cases j with
      | zero => rfl
      | succ j =>
          rw [bodies, List.getElem?_cons_succ, List.getElem?_cons_succ, ih, Nat.add_assoc,
            Nat.add_comm 1 j]

/-- From one exchange to another the client made some calls, each of them by one request, and
`served` are the replies to them. -/
def Completes (s s' : Exchange) (calls : List Call) (served : List Response) : Prop :=
  ∃ sent, Advances s s' calls.length sent served ∧ served.length = calls.length
    ∧ sent.map (·.body) = bodies s.connection.nextId calls

/-- From one exchange to another the client made some calls in order, or stopped at one of them:
what it sent are the first requests for these calls, and nothing else. -/
def Attempts (s s' : Exchange) (calls : List Call) : Prop :=
  ∃ ids sent served, Advances s s' ids sent served ∧ ids ≤ calls.length
    ∧ sent.map (·.body) <+: bodies s.connection.nextId calls

variable {s t u : Exchange} {calls more : List Call} {served others : List Response}

lemma Advances.completes (h : Advances s t 0 [] []) : Completes s t [] [] :=
  ⟨[], h, rfl, rfl⟩

/-- The replies to calls that were made are those that waited first. -/
lemma Completes.served_eq (h : Completes s t calls served) :
    served = s.replies.take calls.length := by
  obtain ⟨sent, hadv, hlength, -⟩ := h
  rw [hadv.replies, ← hlength, List.take_left]

lemma Completes.head?_replies {call : Call} {reply : Response}
    (h : Completes s t [call] [reply]) : s.replies.head? = some reply := by
  obtain ⟨sent, hadv, -, -⟩ := h
  rw [hadv.replies]
  rfl

lemma Completes.trans (h : Completes s t calls served) (h' : Completes t u more others) :
    Completes s u (calls ++ more) (served ++ others) := by
  obtain ⟨sent, hadv, hlength, hbodies⟩ := h
  obtain ⟨sent', hadv', hlength', hbodies'⟩ := h'
  refine ⟨sent ++ sent', ?_, ?_, ?_⟩
  · rw [List.length_append]
    exact hadv.trans hadv'
  · rw [List.length_append, List.length_append, hlength, hlength']
  · rw [List.map_append, bodies_append, hbodies, hbodies', hadv.nextId]

lemma Completes.trans_quiet (h : Completes s t calls served) (h' : Advances t u 0 [] []) :
    Completes s u calls served := by
  simpa only [List.append_nil] using h.trans h'.completes

variable [Stack]

/-! ## One call -/

/-- A request is the one for a call under a number: its body is that of the call, nothing stands in
the way of writing it, and it is signed if there is a secret. -/
structure Request.IsFor (r : Request) (settings : Settings) (id : ℕ) (call : Call) : Prop where
  body : r.body = (envelope call.method call.params (.int id)).write
  fits : (envelope call.method call.params (.int id)).unwritable? = none
  signed : r.Signed settings.hmacSecret

/-- Makes a request ready: its body, its headers, and where it goes. -/
def prepare (method params : Json) (id : ℕ) : Action (Url.Target × Request) := do
  let body ← ofExcept (bodyOf method params id)
  let unchecked ← headers body
  note (.calling id method)
  let target ← ofExcept (targetOf (← get).connection.settings.url)
  let headers ← ofExcept (unchecked.mapM checkHeader)
  ofExcept (checkHost target)
  return (target, { url := String.ofList target.url, headers, body })

/-- Reads the reply of a server. -/
def receive (target : Url.Target) (bytes : Bytes) : Except Error Json := do
  if target.host.isNone then throw (.noServer target.url)
  let v ← (Json.ofBytes? Stack.reading bytes).mapError .badReply
  readResponse v

/-- **A call in four steps**: it takes a number, makes its request ready, sends it, and reads the
reply. -/
lemma request_eq (method params : Json) :
    request method params = (do
      let id ← takeId
      let (target, r) ← prepare method params id
      let bytes ← send r
      ofExcept (receive target bytes)) := by
  have htail : ∀ (target : Url.Target) (bytes : Bytes),
      (ofExcept (receive target bytes) : Action Json)
        = (do
          if target.host.isNone then throw (.noServer target.url)
          let v ← ofExcept ((Json.ofBytes? Stack.reading bytes).mapError .badReply)
          ofExcept (readResponse v)) := by
    intro target bytes
    cases hhost : target.host.isNone with
    | true => simp [receive, hhost]; rfl
    | false =>
        simp only [receive, hhost]
        cases (Json.ofBytes? Stack.reading bytes).mapError Error.badReply <;> rfl
  simp only [htail, request, prepare, bind_assoc, pure_bind]

/-- A body is that of the call, and is had when nothing stands in the way of writing it. -/
lemma bodyOf_eq_ok_iff {method params : Json} {id : ℕ} {body : String} :
    bodyOf method params id = .ok body ↔
      body = (envelope method params (.int id)).write
        ∧ (envelope method params (.int id)).unwritable? = none := by
  unfold bodyOf
  cases hobstacle : (envelope method params (.int id)).unwritable? with
  | some obstacle => simp [hobstacle]
  | none => simp [hobstacle, eq_comm]

/-- **A request is ready** when its body is written, its headers are had, its address is one that a
request can go to, and all headers pass the check. -/
lemma prepare_eq_ok_iff {method params : Json} {id : ℕ} {target : Url.Target} {r : Request}
    {s s' : Exchange} :
    (prepare method params id).on s = (.ok (target, r), s') ↔ ∃ unchecked t,
      bodyOf method params id = .ok r.body ∧ (headers r.body).on s = (.ok unchecked, t)
      ∧ targetOf s.connection.settings.url = .ok target
      ∧ unchecked.mapM checkHeader = .ok r.headers ∧ checkHost target = .ok ()
      ∧ r.url = String.ofList target.url ∧ s' = ((note (.calling id method)).on t).2 := by
  simp only [prepare, on_bind_eq_ok_iff, on_ofExcept_eq_ok_iff, on_pure_eq_ok_iff, Prod.mk.injEq]
  constructor
  · rintro ⟨body, _, ⟨hbody, rfl⟩, unchecked, t, hheaders, _, _, hnote, _, _, hget, target, _,
      ⟨htarget, rfl⟩, checked, _, ⟨hchecked, rfl⟩, _, _, ⟨hhost, rfl⟩, ⟨rfl, rfl⟩, rfl⟩
    cases hnote
    cases hget
    rw [← ((headers_quiet body).advances hheaders).settings]
    exact ⟨unchecked, t, hbody, hheaders, htarget, hchecked, hhost, rfl, rfl⟩
  · rintro ⟨unchecked, t, hbody, hheaders, htarget, hchecked, hhost, hurl, rfl⟩
    rw [← ((headers_quiet r.body).advances hheaders).settings] at htarget
    refine ⟨_, s, ⟨hbody, rfl⟩, unchecked, t, hheaders, _, _, rfl, _, _, rfl, target, _,
      ⟨htarget, rfl⟩, _, _, ⟨hchecked, rfl⟩, (), _, ⟨hhost, rfl⟩, ⟨rfl, ?_⟩, rfl⟩
    rw [← hurl]

/-- **A request that is ready** is the one for its call. -/
lemma isFor_of_prepare {method params : Json} {id : ℕ} {target : Url.Target} {r : Request}
    {s s' : Exchange} (h : (prepare method params id).on s = (.ok (target, r), s')) :
    r.IsFor s.connection.settings id ⟨method, params⟩ := by
  obtain ⟨unchecked, _, hbody, hheaders, -, hchecked, -⟩ := prepare_eq_ok_iff.mp h
  obtain ⟨signed, challenged, hsigned, -, rfl⟩ := headers_eq_ok_iff.mp hheaders
  obtain ⟨htext, hfits⟩ := bodyOf_eq_ok_iff.mp hbody
  exact ⟨htext, hfits, signed_of_headers hsigned hchecked⟩

lemma prepare_quiet (method params : Json) (id : ℕ) : Quiet (prepare method params id) := by
  refine (Quiet.ofExcept _).bind fun body => (headers_quiet body).bind fun unchecked => ?_
  refine (Quiet.note _).bind fun _ => Quiet.get.bind fun s => (Quiet.ofExcept _).bind fun _ => ?_
  exact (Quiet.ofExcept _).bind fun _ => (Quiet.ofExcept _).bind fun _ => Quiet.pure _

/-! ## Flows of calls -/

/-- From one exchange to another the client made some calls in order, or stopped at one of them:
each request that it sent is the one for the call in its place, under the next number. -/
def Posts (s s' : Exchange) (calls : List Call) : Prop :=
  ∃ ids sent served, Advances s s' ids sent served ∧ ids ≤ calls.length
    ∧ ∀ (j : ℕ) (r : Request), sent[j]? = some r → ∃ call, calls[j]? = some call
      ∧ r.IsFor s.connection.settings (s.connection.nextId + j) call

lemma Advances.posts (h : Advances s t 0 [] []) (calls : List Call) : Posts s t calls := by
  refine ⟨0, [], [], h, Nat.zero_le _, ?_⟩
  intro j r hr
  cases hr

/-- What is posted for some calls has their bodies. -/
lemma Posts.attempts (h : Posts s t calls) : Attempts s t calls := by
  obtain ⟨ids, sent, served, hadv, hids, hsent⟩ := h
  refine ⟨ids, sent, served, hadv, hids, ?_⟩
  rw [List.prefix_iff_getElem?]
  intro j hj
  rw [List.length_map] at hj
  obtain ⟨call, hcall, hfor⟩ := hsent j _ (List.getElem?_eq_getElem hj)
  rw [getElem?_bodies, hcall, List.getElem_map, hfor.body]
  rfl

/-- Calls that were made, and then some that were perhaps made. -/
lemma Posts.trans (h : Posts s t calls) (hall : Completes s t calls served)
    (h' : Posts t u more) : Posts s u (calls ++ more) := by
  obtain ⟨_, sent, _, hadv, -, hsent⟩ := h
  obtain ⟨sent', hadv', -, hbodies⟩ := hall
  obtain ⟨ids, sentMore, servedMore, hmore, hids, hsentMore⟩ := h'
  obtain rfl : sent = sent' := List.append_cancel_left (hadv.requests.symm.trans hadv'.requests)
  -- all calls of the first part were made, so the places of the second start behind them
  have hlength : sent.length = calls.length := by
    rw [← List.length_map (f := (·.body)), hbodies, length_bodies]
  refine ⟨calls.length + ids, sent ++ sentMore, served ++ servedMore, hadv'.trans hmore, ?_, ?_⟩
  · rw [List.length_append]
    omega
  · intro j r hr
    rcases Nat.lt_or_ge j sent.length with hj | hj
    · rw [List.getElem?_append_left hj] at hr
      rw [List.getElem?_append_left (hlength ▸ hj)]
      exact hsent j r hr
    · rw [List.getElem?_append_right hj] at hr
      rw [List.getElem?_append_right (hlength ▸ hj), ← hlength]
      obtain ⟨call, hcall, hfor⟩ := hsentMore _ r hr
      rw [hadv'.settings, hadv'.nextId, ← hlength, Nat.add_assoc, Nat.add_sub_cancel' hj] at hfor
      exact ⟨call, hcall, hfor⟩

lemma Posts.weaken (h : Posts s t calls) (more : List Call) : Posts s t (calls ++ more) := by
  obtain ⟨ids, sent, served, hadv, hids, hsent⟩ := h
  refine ⟨ids, sent, served, hadv, ?_, ?_⟩
  · rw [List.length_append]
    omega
  · intro j r hr
    obtain ⟨call, hcall, hfor⟩ := hsent j r hr
    have hj := (List.getElem?_eq_some_iff.mp hcall).1
    exact ⟨call, (List.getElem?_append_left hj).trans hcall, hfor⟩

/-- **A sequence makes the calls of its parts**, if the first part makes all of its own whenever
the second runs. -/
lemma posts_bind {α β : Type} {x : Action α} {f : α → Action β} {s : Exchange}
    {calls more : List Call} (hx : Posts s (x.on s).2 calls)
    (hf : ∀ a t, x.on s = (.ok a, t) →
      (∃ served, Completes s t calls served) ∧ Posts t ((f a).on t).2 more) :
    Posts s ((x >>= f).on s).2 (calls ++ more) := by
  rw [on_bind]
  cases h : x.on s with
  | mk r t =>
      rw [h] at hx
      cases r with
      | ok a =>
          obtain ⟨⟨served, hall⟩, hrest⟩ := hf a t h
          exact hx.trans hall hrest
      | error e => exact hx.weaken more

lemma Posts.trans_quiet (h : Posts s t calls) (h' : Advances t u 0 [] []) : Posts s u calls := by
  obtain ⟨ids, sent, served, hadv, hids, hsent⟩ := h
  refine ⟨ids, sent, served, ?_, hids, hsent⟩
  simpa only [Nat.add_zero, List.append_nil] using hadv.trans h'

lemma Quiet.bind_posts {α β : Type} {x : Action α} {f : α → Action β} {s : Exchange}
    {calls : List Call} (hx : Quiet x)
    (hf : ∀ a t, x.on s = (.ok a, t) → Posts t ((f a).on t).2 calls) :
    Posts s ((x >>= f).on s).2 calls := by
  rw [← List.nil_append calls]
  exact posts_bind ((hx s).posts []) fun a t h => ⟨⟨[], (hx.advances h).completes⟩, hf a t h⟩

lemma Posts.bind_quiet {α β : Type} {x : Action α} {f : α → Action β} {s t : Exchange}
    {calls : List Call} (hx : Posts s (x.on t).2 calls) (hf : ∀ a, Quiet (f a)) :
    Posts s ((x >>= f).on t).2 calls := by
  obtain ⟨ids, sent, served, hadv, hids, hsent⟩ := hx
  exact ⟨ids, sent, served, hadv.bind_quiet hf, hids, hsent⟩

/-- What a server's reply says: the result in it, or why there is none. -/
def resultIn : Response → Except Error Json
  | .body bytes => do
    let v ← (Json.ofBytes? Stack.reading bytes).mapError .badReply
    readResponse v
  | .failure fault text => .error (.connection fault text)

/-- A reply is of use when it came from a server, and gives the result in it. -/
lemma receive_eq_ok_iff {target : Url.Target} {bytes : Bytes} {v : Json} :
    receive target bytes = .ok v ↔ target.host.isSome = true ∧ resultIn (.body bytes) = .ok v := by
  unfold receive
  cases hhost : target.host with
  | none =>
      constructor
      · intro h
        cases h
      · rintro ⟨h, -⟩
        cases h
  | some host =>
      constructor
      · intro h
        exact ⟨rfl, h⟩
      · rintro ⟨-, h⟩
        exact h

/-- A call is ready to be sent: its request can be made ready, and the connection is open. -/
def Call.IsReady (call : Call) (s : Exchange) : Prop :=
  s.connection.isClosed = false ∧ ∃ ready u,
    (prepare call.method call.params s.connection.nextId).on s.numbered = (.ok ready, u)

/-- **A call takes a number**, and sends its one request if it is ready, and nothing otherwise. -/
lemma request_advances (method params : Json) (s : Exchange) :
    ∃ sent served, Advances s ((request method params).on s).2 1 sent served
      ∧ (Call.IsReady ⟨method, params⟩ s →
        ∃ r, sent = [r] ∧ r.IsFor s.connection.settings s.connection.nextId ⟨method, params⟩)
      ∧ (¬ Call.IsReady ⟨method, params⟩ s → sent = []) := by
  have htaken := numbered_advances s
  rw [request_eq, on_bind, on_takeId]
  simp only [on_bind (prepare _ _ _)]
  cases hprepare : (prepare method params s.connection.nextId).on s.numbered with
  | mk out u =>
      have hadv := htaken.trans ((prepare_quiet _ _ _).advances hprepare)
      cases out with
      | error e =>
          refine ⟨[], [], hadv, ?_, fun _ => rfl⟩
          rintro ⟨-, ready, v, hv⟩
          rw [hprepare] at hv
          cases hv
      | ok ready =>
          obtain ⟨served, hsent, -⟩ := send_advances ready.2 u
          have hfor := isFor_of_prepare hprepare
          rw [htaken.settings] at hfor
          refine ⟨_, served, (hadv.trans hsent).bind_quiet fun _ => Quiet.ofExcept _, ?_, ?_⟩
          · rintro ⟨hopen, -⟩
            refine ⟨ready.2, ?_, hfor⟩
            rw [hadv.isClosed, hopen]
            rfl
          · intro h
            cases hclosed : u.connection.isClosed with
            | true => rfl
            | false => exact absurd ⟨hadv.isClosed.symm.trans hclosed, ready, u, hprepare⟩ h

/-- **A call sends at most its one request.** -/
theorem request_posts (method params : Json) (s : Exchange) :
    Posts s ((request method params).on s).2 [⟨method, params⟩] := by
  obtain ⟨sent, served, hadv, honce, hnone⟩ := request_advances method params s
  refine ⟨1, sent, served, hadv, le_rfl, ?_⟩
  intro j r hr
  by_cases hready : Call.IsReady ⟨method, params⟩ s
  · obtain ⟨r', rfl, hfor⟩ := honce hready
    obtain ⟨hj, rfl⟩ := List.getElem?_eq_some_iff.mp hr
    obtain rfl : j = 0 := Nat.lt_one_iff.mp hj
    exact ⟨_, rfl, hfor⟩
  · rw [hnone hready] at hr
    cases hr

/-- **A call succeeds** when its request is made ready and sent, and bytes come back that say so. -/
lemma request_eq_ok_iff {method params v : Json} {s s' : Exchange} :
    (request method params).on s = (.ok v, s') ↔ ∃ target r u bytes,
      (prepare method params s.connection.nextId).on s.numbered = (.ok (target, r), u)
      ∧ (send r).on u = (.ok bytes, s') ∧ receive target bytes = .ok v := by
  rw [request_eq, on_bind, on_takeId]
  simp only [on_bind_eq_ok_iff, on_ofExcept_eq_ok_iff]
  constructor
  · rintro ⟨⟨target, r⟩, u, hprepare, bytes, _, hsend, hreceive, rfl⟩
    exact ⟨target, r, u, bytes, hprepare, hsend, hreceive⟩
  · rintro ⟨target, r, u, bytes, hprepare, hsend, hreceive⟩
    exact ⟨(target, r), u, hprepare, bytes, s', hsend, hreceive, rfl⟩

/-- **A call that succeeds** has sent its request, and gives the result in the next reply. -/
theorem request_completes {method params v : Json} {s s' : Exchange}
    (h : (request method params).on s = (.ok v, s')) :
    ∃ reply, Completes s s' [⟨method, params⟩] [reply] ∧ resultIn reply = .ok v := by
  obtain ⟨target, r, u, bytes, hprepare, hsend, hreceive⟩ := request_eq_ok_iff.mp h
  have hready := (prepare_quiet method params s.connection.nextId).advances hprepare
  obtain ⟨served, hsent, hok⟩ := send_advances r u
  rw [hsend] at hsent hok
  obtain ⟨hopen, rfl⟩ := hok bytes rfl
  rw [hopen] at hsent
  refine ⟨.body bytes, ⟨[r], ((numbered_advances s).trans hready).trans hsent, rfl, ?_⟩,
    (receive_eq_ok_iff.mp hreceive).2⟩
  rw [List.map_singleton, (isFor_of_prepare hprepare).body]
  rfl

namespace Method

/-- The call of a method with some arguments. -/
def callOf (m : Method) (arguments : List (Text × Json)) : Call :=
  { method := .str m.name, params := m.paramsOf arguments }

/-- What a caller is warned of, if anything. -/
def announce (m : Method) : Action Unit :=
  match m.warning with
  | some text => warn text
  | none => pure ()

omit [Stack] in
lemma announce_quiet (m : Method) : Quiet m.announce := by
  unfold announce
  cases m.warning with
  | some text => exact Quiet.warn text
  | none => exact Quiet.pure ()

lemma call_eq (m : Method) (arguments : List (Text × Json)) :
    m.call arguments = (do
      m.announce
      let v ← request (.str m.name) (m.paramsOf arguments)
      ofExcept (Reply.decode m.reply.fields v)) := by
  unfold call announce
  cases m.warning <;> rfl

/-- **Calling a method** sends at most its one request. -/
theorem call_posts (m : Method) (arguments : List (Text × Json)) (s : Exchange) :
    Posts s ((m.call arguments).on s).2 [m.callOf arguments] := by
  rw [call_eq]
  refine (announce_quiet m).bind_posts fun _ t _ => ?_
  exact (request_posts _ _ t).bind_quiet fun _ => Quiet.ofExcept _

/-- **Calling a method with success** sends its request and gives the record of the result in the
next reply. -/
theorem call_completes {m : Method} {arguments : List (Text × Json)}
    {r : Reply.Record m.reply.fields} {s s' : Exchange}
    (h : (m.call arguments).on s = (.ok r, s')) :
    ∃ reply v, Completes s s' [m.callOf arguments] [reply] ∧ resultIn reply = .ok v
      ∧ Reply.decode m.reply.fields v = .ok r := by
  rw [call_eq] at h
  obtain ⟨_, t, ht, h⟩ := on_bind_eq_ok_iff.mp h
  obtain ⟨v, u, hrequest, h⟩ := on_bind_eq_ok_iff.mp h
  obtain ⟨hdecode, rfl⟩ := on_ofExcept_eq_ok_iff.mp h
  have hquiet := (announce_quiet m).advances ht
  obtain ⟨reply, hcompletes, hresult⟩ := request_completes hrequest
  exact ⟨reply, v, hquiet.completes.trans hcompletes, hresult, hdecode⟩

end Method

end Paymaster.Rpc
