import Mathlib
import Paymaster.Proofs.Delivery
import Paymaster.Proofs.Flow
import Paymaster.Proofs.SentRequests

/-!
# Secrets stay in their headers

Whoever knows all that a client shows, three headers apart, does not learn its key, its secret or
its answers to the challenge.

**Two clients.**  Settings are `SameButSecrets` if they differ at most in these values, where each
may be exchanged for another text that can be sent (`Json.SameButSecret`).  What is compared of two
requests is what is left of them when the values of the three headers are masked.

**Two runs.**  The headers of two such clients can be had and sent in the same cases, and differ
only in what is masked (`headers_sameButSecrets`, `checkHeader_agree`), so a call runs alike
(`request_sameButSecrets`), and with it every flow.  The main statement is
`secrets_only_in_their_headers`.
-/

namespace Paymaster

/-! ## Two clients -/

/-- Two values are the same, or both are texts that are not empty and can be sent. -/
def Json.SameButSecret (v w : Json) : Prop :=
  v = w ∨ (v.isBlank = false ∧ v.IsAscii) ∧ w.isBlank = false ∧ w.IsAscii

namespace Rpc

open Paymaster.Rpc.Action

/-- Two challenges have as many answers, which differ only as secrets, or fail in the same way. -/
inductive Challenge.SameButSecrets : Challenge → Challenge → Prop
  | answers {values others : List Json} : List.Forall₂ Json.SameButSecret values others →
    SameButSecrets (.answers values) (.answers others)
  | failing (text : Text) : SameButSecrets (.failing text) (.failing text)

/-- Two settings differ at most in the values of their secrets. -/
structure Settings.SameButSecrets (s t : Settings) : Prop where
  url : s.url = t.url
  apiKey : s.apiKey.SameButSecret t.apiKey
  hmacSecret : s.hmacSecret.SameButSecret t.hmacSecret
  challenge : Option.Rel Challenge.SameButSecrets s.challenge t.challenge

/-- Two connections differ at most in the values of their secrets. -/
structure Connection.SameButSecrets (c d : Connection) : Prop where
  settings : c.settings.SameButSecrets d.settings
  isOwn : c.isOwn = d.isOwn
  isClosed : c.isClosed = d.isClosed
  nextId : c.nextId = d.nextId
  answers : List.Forall₂ Json.SameButSecret c.answers d.answers
  clock : c.clock = d.clock

/-- The headers that a secret has a part in. -/
def secretHeaders : List String := ["x-api-key", "x-hmac-signature", "x-recaptcha-token"]

/-- A header without its value, if a secret has a part in this. -/
def maskHeader (header : String × String) : String × String :=
  if header.1 ∈ secretHeaders then (header.1, "") else header

/-- A request without the values of the headers that a secret has a part in. -/
def Request.masked (r : Request) : Request :=
  { r with headers := r.headers.map maskHeader }

/-- A trace with its requests masked. -/
def Trace.masked (t : Trace) : Trace :=
  { t with requests := t.requests.map (·.masked) }

/-- Two exchanges differ at most in the values of the secrets, and show the same but for these. -/
structure SameButSecrets (s t : Exchange) : Prop where
  connection : s.connection.SameButSecrets t.connection
  replies : s.replies = t.replies
  trace : s.trace.masked = t.trace.masked

/-! ## Two runs -/

/-- Two headers that are to be checked have the same name, and the same value unless it is a secret
that can be sent. -/
structure SameHeader (h k : String × Json) : Prop where
  name : h.1 = k.1
  value : h.2 = k.2 ∨ h.1 ∈ secretHeaders ∧ h.2.IsAscii ∧ k.2.IsAscii

lemma SameHeader.refl (h : String × Json) : SameHeader h h := ⟨rfl, Or.inl rfl⟩

lemma SameHeader.of_mem {name : String} (h : name ∈ secretHeaders) {v w : Json} (hv : v.IsAscii)
    (hw : w.IsAscii) : SameHeader (name, v) (name, w) :=
  ⟨rfl, Or.inr ⟨h, hv, hw⟩⟩

lemma sameHeaders_refl (headers : List (String × Json)) :
    List.Forall₂ SameHeader headers headers :=
  List.forall₂_same.mpr fun h _ => SameHeader.refl h

/-- **A check passes both headers**, and what is sent of them is the same behind the mask. -/
lemma checkHeader_agree {h k : String × Json} (hsame : SameHeader h k) :
    Agree (fun sent other => maskHeader sent = maskHeader other) (checkHeader h)
      (checkHeader k) := by
  obtain ⟨name, v⟩ := h
  obtain ⟨other, w⟩ := k
  obtain ⟨rfl : name = other, rfl | ⟨hsecret, ⟨cs, rfl, hcs⟩, ds, rfl, hds⟩⟩ := hsame
  · cases hchecked : checkHeader (name, v) with
    | ok sent => exact Agree.ok rfl
    | error e => exact Agree.error e
  · rw [checkHeader_eq_ok_iff.mpr ⟨cs, rfl, hcs, rfl⟩,
      checkHeader_eq_ok_iff.mpr ⟨ds, rfl, hds, rfl⟩]
    refine Agree.ok ?_
    rw [maskHeader, maskHeader, if_pos hsecret, if_pos hsecret]

/-- **A secret shows in its digest only.** -/
lemma signatureHeaders_agree {secret other : Json} (h : secret.SameButSecret other) (clock : Clock)
    (body : String) :
    Agree (List.Forall₂ SameHeader) (signatureHeaders secret clock body)
      (signatureHeaders other clock body) := by
  rcases h with rfl | ⟨⟨hblank, key, rfl, -⟩, hother, otherKey, rfl, -⟩
  · cases signatureHeaders secret clock body with
    | ok headers => exact Agree.ok (sameHeaders_refl headers)
    | error e => exact Agree.error e
  · rw [signatureHeaders_of_key (key_ne_nil hblank), signatureHeaders_of_key (key_ne_nil hother)]
    refine (Agree.of_eq rfl).bind fun seconds _ hseconds => ?_
    rw [hseconds]
    refine Agree.ok (List.Forall₂.cons (SameHeader.refl _) (List.Forall₂.cons ?_ .nil))
    exact .of_mem (by decide) (Json.printable_toHex _).isAscii (Json.printable_toHex _).isAscii

lemma keyHeaders_same {apiKey other : Json} (h : apiKey.SameButSecret other) :
    List.Forall₂ SameHeader (keyHeaders apiKey) (keyHeaders other) := by
  rcases h with rfl | ⟨⟨hblank, hascii⟩, hother, hotherAscii⟩
  · exact sameHeaders_refl _
  · rw [keyHeaders, keyHeaders, hblank, hother]
    exact List.Forall₂.cons (.of_mem (by decide) hascii hotherAscii) .nil

lemma takeAnswer_sameButSecrets {challenge other : Challenge} (h : challenge.SameButSecrets other) :
    Alike SameButSecrets Json.SameButSecret (takeAnswer challenge) (takeAnswer other) := by
  cases h with
  | failing text => exact Alike.ofExcept (Agree.error _)
  | answers _ =>
      refine Alike.get.bind fun s t hst => ?_
      have hanswers := hst.connection.answers
      generalize s.connection.answers = left at hanswers
      generalize t.connection.answers = right at hanswers
      cases hanswers with
      | nil => exact Alike.ofExcept (Agree.error _)
      | cons hanswer hothers =>
          refine Alike.bind (Q := Eq) ?_ fun _ _ _ => Alike.pure hanswer
          rintro s t ⟨⟨hsettings, hown, hclosed, hid, -, hclock⟩, hreplies, htrace⟩
          exact ⟨Agree.ok rfl, ⟨⟨hsettings, hown, hclosed, hid, hothers, hclock⟩, hreplies, htrace⟩⟩

lemma challengeHeaders_sameButSecrets {challenge other : Option Challenge}
    (h : Option.Rel Challenge.SameButSecrets challenge other) :
    Alike SameButSecrets (List.Forall₂ SameHeader) (challengeHeaders challenge)
      (challengeHeaders other) := by
  cases h with
  | none => exact Alike.pure .nil
  | some h =>
      refine (takeAnswer_sameButSecrets h).bind fun answer other hanswer => ?_
      refine Alike.pure (List.Forall₂.cons ?_ .nil)
      rcases hanswer with rfl | ⟨⟨-, hascii⟩, -, hother⟩
      · exact SameHeader.refl _
      · exact .of_mem (by decide) hascii hother

lemma headers_sameButSecrets (body : String) :
    Alike SameButSecrets (List.Forall₂ SameHeader) (headers body) (headers body) := by
  refine Alike.get.bind fun s t hst => ?_
  obtain ⟨hsettings, -, -, -, -, hclock⟩ := hst.connection
  have hagree := signatureHeaders_agree hsettings.hmacSecret s.connection.clock body
  nth_rewrite 2 [hclock] at hagree
  refine (Alike.ofExcept hagree).bind fun signed _ hsigned => ?_
  refine (challengeHeaders_sameButSecrets hsettings.challenge).bind
    fun challenged _ hchallenged => ?_
  have hkind := List.Forall₂.cons (SameHeader.refl ("content-type", .str "application/json"))
    (keyHeaders_same hsettings.apiKey)
  exact Alike.pure (List.rel_append (List.rel_append hkind hsigned) hchallenged)

/-- A change of the trace that is the same behind the mask. -/
lemma modifyTrace_sameButSecrets {f g : Trace → Trace}
    (h : ∀ s t : Trace, s.masked = t.masked → (f s).masked = (g t).masked) :
    Alike SameButSecrets Eq (modifyTrace f) (modifyTrace g) := by
  rintro s t ⟨hconnection, hreplies, htrace⟩
  exact ⟨Agree.ok rfl, hconnection, hreplies, h _ _ htrace⟩

lemma note_sameButSecrets (n : Note) : Alike SameButSecrets Eq (note n) (note n) := by
  refine modifyTrace_sameButSecrets fun s t h => ?_
  simp only [Trace.masked, Trace.mk.injEq] at h ⊢
  exact ⟨h.1, congrArg (· ++ [n]) h.2.1, h.2.2⟩

lemma warn_sameButSecrets (text : String) : Alike SameButSecrets Eq (warn text) (warn text) := by
  refine modifyTrace_sameButSecrets fun s t h => ?_
  simp only [Trace.masked, Trace.mk.injEq] at h ⊢
  exact ⟨h.1, h.2.1, congrArg (· ++ [text]) h.2.2⟩

lemma takeId_sameButSecrets : Alike SameButSecrets Eq takeId takeId := by
  rintro s t ⟨⟨hsettings, hown, hclosed, hid, hanswers, hclock⟩, hreplies, htrace⟩
  refine ⟨Agree.of_eq (congrArg Except.ok hid), ⟨?_, hreplies, htrace⟩⟩
  exact ⟨hsettings, hown, hclosed, congrArg (· + 1) hid, hanswers, hclock⟩

lemma send_sameButSecrets {r r' : Request} (h : r.masked = r'.masked) :
    Alike SameButSecrets Eq (send r) (send r') := by
  refine Alike.get.bind fun s t hst => ?_
  rw [hst.connection.isClosed, hst.replies]
  cases t.connection.isClosed with
  | true => exact Alike.ofExcept (Agree.error _)
  | false =>
      have hshown : Alike SameButSecrets Eq
          (modifyTrace fun t => { t with requests := t.requests ++ [r] })
          (modifyTrace fun t => { t with requests := t.requests ++ [r'] }) := by
        refine modifyTrace_sameButSecrets fun s t hst => ?_
        simp only [Trace.masked, Trace.mk.injEq, List.map_append, List.map_singleton] at hst ⊢
        exact ⟨by rw [hst.1, h], hst.2⟩
      have htaken : ∀ others : List Response, Alike SameButSecrets Eq
          (modify fun s : Exchange => { s with replies := others } : Action Unit)
          (modify fun s : Exchange => { s with replies := others }) := by
        rintro others s t ⟨hconnection, -, htrace⟩
        exact ⟨Agree.ok rfl, hconnection, rfl, htrace⟩
      refine hshown.bind fun _ _ _ => ?_
      rcases t.replies with _ | ⟨bytes | ⟨fault, text⟩, others⟩
      · exact Alike.ofExcept (Agree.error _)
      · exact (htaken others).bind fun _ _ _ => Alike.pure rfl
      · exact (htaken others).bind fun _ _ _ => Alike.ofExcept (Agree.error _)

lemma close_sameButSecrets : Alike SameButSecrets Eq (modifyConnection Connection.close)
    (modifyConnection Connection.close) := by
  rintro s t ⟨⟨hsettings, hown, hclosed, hid, hanswers, hclock⟩, hreplies, htrace⟩
  refine ⟨Agree.ok rfl, ?_, hreplies, htrace⟩
  exact ⟨hsettings, hown, congrArg₂ or hclosed hown, hid, hanswers, hclock⟩

/-- Two new connections differ only as their settings do. -/
lemma sameButSecrets_fresh {settings others : Settings} (h : settings.SameButSecrets others)
    (isOwn : Bool) (clock : Clock) :
    (Connection.fresh settings isOwn clock).SameButSecrets (.fresh others isOwn clock) := by
  refine ⟨h, rfl, rfl, rfl, ?_, rfl⟩
  obtain ⟨url, apiKey, hmacSecret, challenge⟩ := settings
  obtain ⟨url', apiKey', hmacSecret', challenge'⟩ := others
  have hchallenge : Option.Rel Challenge.SameButSecrets challenge challenge' := h.challenge
  cases hchallenge with
  | none => exact .nil
  | some hsome =>
      cases hsome with
      | answers hanswers => exact hanswers
      | failing text => exact .nil

variable [Stack]

/-- **A request is made ready alike**, for the same address and with the same body. -/
lemma prepare_sameButSecrets (method params : Json) (id : ℕ) :
    Alike SameButSecrets (fun out other => out.1 = other.1 ∧ out.2.masked = other.2.masked)
      (prepare method params id) (prepare method params id) := by
  refine (Alike.ofExcept (Agree.of_eq rfl)).bind fun body _ hbody => ?_
  rw [← hbody]
  refine (headers_sameButSecrets body).bind fun unchecked other hunchecked => ?_
  refine (note_sameButSecrets _).bind fun _ _ _ => Alike.get.bind fun s t hst => ?_
  rw [hst.connection.settings.url]
  refine (Alike.ofExcept (Agree.of_eq rfl)).bind fun target _ htarget => ?_
  rw [← htarget]
  refine (Alike.ofExcept (Agree.mapM hunchecked fun _ _ => checkHeader_agree)).bind
    fun sent otherSent hsent => ?_
  refine (Alike.ofExcept (Agree.of_eq rfl)).bind fun _ _ _ => Alike.pure ⟨rfl, ?_⟩
  have hmasked : sent.map maskHeader = otherSent.map maskHeader :=
    List.forall₂_eq_eq_eq ▸ (List.forall₂_map_left_iff.mpr (List.forall₂_map_right_iff.mpr hsent))
  simp only [Request.masked, hmasked]

/-- **A call runs alike**, with the same result and all the same but what is masked. -/
theorem request_sameButSecrets (method params : Json) :
    Alike SameButSecrets Eq (request method params) (request method params) := by
  rw [request_eq]
  refine takeId_sameButSecrets.bind fun id _ hid => ?_
  rw [← hid]
  refine (prepare_sameButSecrets method params id).bind fun out other hout => ?_
  refine (send_sameButSecrets hout.2).bind fun bytes _ hbytes => ?_
  rw [← hbytes, hout.1]
  exact Alike.ofExcept (Agree.of_eq rfl)

lemma kept_sameButSecrets : Kept SameButSecrets :=
  ⟨note_sameButSecrets, warn_sameButSecrets, request_sameButSecrets, close_sameButSecrets⟩

end Rpc

open Rpc Rpc.Action

namespace Session

/-- A report with its requests masked. -/
def Report.masked (r : Report) : Report :=
  { r with trace := r.trace.masked }

/-- Two sessions have the same sponsor, and connections that differ at most in the values of their
secrets. -/
structure SameButSecrets (s t : Session) : Prop where
  connection : s.connection.SameButSecrets t.connection
  sponsor : s.sponsor = t.sponsor

section SameButSecrets

variable {s t : Session}

lemma SameButSecrets.exchangeFor (h : s.SameButSecrets t) (turn : Turn) :
    Rpc.SameButSecrets (s.exchangeFor turn) (t.exchangeFor turn) := by
  obtain ⟨hsettings, hown, hclosed, hid, hanswers, hclock⟩ := h.connection
  exact ⟨⟨hsettings, hown, hclosed, hid, hanswers, congrArg turn.clock.getD hclock⟩, rfl, rfl⟩

variable [Stack]

/-- **One turn** gives the same report behind the mask, unless it reads the settings back, and keeps
the sessions the same but for their secrets. -/
lemma SameButSecrets.step (h : s.SameButSecrets t) (turn : Turn) :
    (s.step turn).2.SameButSecrets (t.step turn).2
      ∧ (turn.step ≠ .settings → (s.step turn).1.masked = (t.step turn).1.masked) := by
  have hstart := h.exchangeFor turn
  by_cases hsettings : turn.step = .settings
  · refine ⟨?_, fun hne => absurd hsettings hne⟩
    obtain ⟨step, replies, clock⟩ := turn
    obtain rfl : step = .settings := hsettings
    exact ⟨hstart.connection, h.sponsor⟩
  · obtain ⟨hagree, hend⟩ := (perform_flow s.sponsor hsettings).alike kept_sameButSecrets _ _ hstart
    have hresult := hagree.eq
    rw [step_eq, step_eq, ← h.sponsor]
    refine ⟨⟨hend.connection, congrArg (nextSponsor s.sponsor) hresult⟩, fun _ => ?_⟩
    simp only [Report.masked, hresult, hend.trace]

/-- **Any turns** keep the sessions the same but for their secrets. -/
lemma SameButSecrets.after (h : s.SameButSecrets t) (turns : List Turn) :
    (s.after turns).SameButSecrets (t.after turns) := by
  induction turns generalizing s t with
  | nil => exact h
  | cons turn rest ih => exact ih (h.step turn).1

/-- **Secrets show only in their own headers.**

Let two new clients have settings that differ at most in the key, the secret and the answers to the
challenge, where each of these may be exchanged for another text that can be sent and is not empty,
and let them take the same turns.  Then every turn that does not read the settings back gives the
same report on both: the same result or the same error, the same notes and warnings, and as many
requests, in the same order, with the same address, the same body and the same headers, the values
of the three headers apart that a secret has a part in. -/
theorem secrets_only_in_their_headers {settings others : Settings}
    (h : settings.SameButSecrets others) (isOwn : Bool) (clock : Clock) (turns : List Turn) {i : ℕ}
    {turn : Turn} (hturn : turns[i]? = some turn) (hstep : turn.step ≠ .settings) :
    ∃ report report', ((opened settings isOwn clock).run turns)[i]? = some report
      ∧ ((opened others isOwn clock).run turns)[i]? = some report'
      ∧ report.outcome = report'.outcome ∧ report.trace.notes = report'.trace.notes
      ∧ report.trace.warnings = report'.trace.warnings
      ∧ report.trace.requests.map (·.masked) = report'.trace.requests.map (·.masked) := by
  have hopened : (opened settings isOwn clock).SameButSecrets (opened others isOwn clock) :=
    ⟨sameButSecrets_fresh h isOwn clock, rfl⟩
  have hmasked := ((hopened.after (turns.take i)).step turn).2 hstep
  rw [getElem?_run, getElem?_run, hturn]
  refine ⟨_, _, rfl, rfl, ?_⟩
  simp only [Report.masked, Trace.masked, Report.mk.injEq, Trace.mk.injEq] at hmasked
  obtain ⟨houtcome, hrequests, hnotes, hwarnings⟩ := hmasked
  exact ⟨houtcome, hnotes, hwarnings, hrequests⟩

end SameButSecrets

/-- Settings with a key, a secret and one answer to the challenge. -/
def credentials (apiKey secret answer : Char) : Settings where
  url := .str defaultUrl
  apiKey := .str (.ofChars [apiKey])
  hmacSecret := .str (.ofChars [secret])
  challenge := some (.answers [.str (.ofChars [answer])])

/-- A call that is not answered, and one that finds no answer to the challenge left. -/
def callTwice : List Turn :=
  List.replicate 2 { step := .request (.str "getConfig") .null, replies := [], clock := none }

section Usual

open scoped Stack

/-- Two clients with nothing in common but the address send different requests, and the same behind
the mask. -/
theorem secrets_only_in_their_headers_of_letters :
    (credentials 'a' 'b' 'c').SameButSecrets (credentials 'x' 'y' 'z')
      ∧ (∃ report report',
        ((opened (credentials 'a' 'b' 'c') true (.whole 0)).run callTwice)[0]? = some report
        ∧ ((opened (credentials 'x' 'y' 'z') true (.whole 0)).run callTwice)[0]? = some report'
        ∧ report.trace.requests ≠ report'.trace.requests
        ∧ report.trace.requests.map (·.masked) = report'.trace.requests.map (·.masked)) := by
  have hletters : ∀ c d : Char, c.toNat < 128 → d.toNat < 128 →
      (Json.str (.ofChars [c])).SameButSecret (.str (.ofChars [d])) := by
    intro c d hc hd
    exact Or.inr ⟨⟨rfl, [c], rfl, by simpa using hc⟩, rfl, [d], rfl, by simpa using hd⟩
  have hsame : (credentials 'a' 'b' 'c').SameButSecrets (credentials 'x' 'y' 'z') :=
    ⟨rfl, hletters 'a' 'x' (by decide) (by decide), hletters 'b' 'y' (by decide) (by decide),
      .some (.answers (.cons (hletters 'c' 'z' (by decide) (by decide)) .nil))⟩
  obtain ⟨report, report', hreport, hreport', -, -, -, hmasked⟩ :=
    secrets_only_in_their_headers hsame true (.whole 0) callTwice (i := 0) rfl Step.noConfusion
  refine ⟨hsame, report, report', hreport, hreport', ?_, hmasked⟩
  have hdiffer : ((opened (credentials 'a' 'b' 'c') true (.whole 0)).run callTwice)[0]?.map
        (·.trace.requests)
      ≠ ((opened (credentials 'x' 'y' 'z') true (.whole 0)).run callTwice)[0]?.map
        (·.trace.requests) := by
    decide +kernel
  rw [hreport, hreport'] at hdiffer
  exact fun heq => hdiffer (congrArg some heq)

end Usual

end Session

end Paymaster
