import Mathlib
import Paymaster.Proofs.Calls
import Paymaster.Proofs.JsonText

/-!
# Which requests go out

A call takes its number in any case.  Whether it also sends a request is settled before a reply can
come, by the settings, the clock, the answers to the challenge and the values of the call.

**Headers.**  A header can be sent when its value is an ASCII text (`checkHeader_isOk_iff`).  The
time and its digest always are, so a secret stands in the way only if it is no text of characters
(`signatureHeaders_of_key`, `signatureHeaders_isOk_iff`).

**Requests.**  `Connection.Proves` says that all that proves who is calling can be had and sent, and
`Call.Reaches` that, beyond this, the connection is open, the body can be written and there is an
address to go to.  A call that reaches the network sends its one request, and any other sends none
(`request_delivers`).

**Replies.**  A call that reaches the network at an address that names a server succeeds with the
result in its reply (`request_of_reply`), and no other call succeeds (`reaches_of_request`).
-/

namespace Paymaster

open Text (Charset)

/-- A value is an ASCII text. -/
def Json.IsAscii (v : Json) : Prop :=
  ∃ cs : List Char, v = .str (.ofChars cs) ∧ ∀ c ∈ cs, c.toNat < 128

/-! ## Headers -/

lemma Json.Printable.isAscii {cs : List Char} (h : Json.Printable cs) :
    Json.IsAscii (.str (.ofChars cs)) :=
  ⟨cs, rfl, fun c hc => Nat.lt_of_le_of_lt (h c hc).2 (by decide)⟩

lemma Json.printable_decimalInt (n : ℤ) : Printable (Numeral.decimalInt n) := by
  cases n with
  | ofNat n => exact printable_decimal n
  | negSucc n => simp [Numeral.decimalInt, printable_decimal]

lemma Json.printable_toHex (bytes : Bytes) : Printable (Bytes.toHex bytes).toList := by
  rw [Bytes.toHex, String.toList_ofList]
  intro c hc
  rcases List.mem_flatMap.mp hc with ⟨b, -, hb⟩
  exact printable_hexDigits 2 b.toNat c hb

namespace Rpc

open Paymaster.Rpc.Action

/-- A header is sent as it is when its value is an ASCII text, and not at all otherwise. -/
lemma checkHeader_eq_ok_iff {name : String} {v : Json} {header : String × String} :
    checkHeader (name, v) = .ok header ↔
      ∃ cs : List Char, v = .str (.ofChars cs) ∧ (∀ c ∈ cs, c.toNat < 128)
        ∧ header = (name, String.ofList cs) := by
  constructor
  · intro h
    obtain ⟨cs, rfl, hheader⟩ := checkHeader_eq_ok h
    refine ⟨cs, rfl, ?_, hheader⟩
    simp only [checkHeader] at h
    cases hchars : Charset.ascii.charsOf (.ofChars cs) with
    | error fault =>
        rw [hchars] at h
        cases h
    | ok ds =>
        intro c hc
        exact of_decide_eq_true (Charset.holds_of_charsOf hchars _ (List.mem_map_of_mem hc))
  · rintro ⟨cs, rfl, hascii, rfl⟩
    simp only [checkHeader, Text.charsOf_ascii hascii]
    rfl

lemma checkHeader_isOk_iff {header : String × Json} :
    (∃ checked, checkHeader header = .ok checked) ↔ header.2.IsAscii := by
  rcases header with ⟨name, v⟩
  constructor
  · rintro ⟨checked, h⟩
    obtain ⟨cs, hv, hascii, -⟩ := checkHeader_eq_ok_iff.mp h
    exact ⟨cs, hv, hascii⟩
  · rintro ⟨cs, hv, hascii⟩
    exact ⟨_, checkHeader_eq_ok_iff.mpr ⟨cs, hv, hascii, rfl⟩⟩

lemma mapM_checkHeader_isOk_iff {headers : List (String × Json)} :
    (∃ checked, headers.mapM checkHeader = .ok checked) ↔ ∀ h ∈ headers, h.2.IsAscii := by
  induction headers with
  | nil => simp [pure, Except.pure]
  | cons header rest ih =>
      rw [List.forall_mem_cons, ← checkHeader_isOk_iff, ← ih]
      simp only [List.mapM_cons, bind_eq_ok_iff, pure_eq_ok_iff]
      constructor
      · rintro ⟨_, first, hfirst, others, hothers, -⟩
        exact ⟨⟨first, hfirst⟩, others, hothers⟩
      · rintro ⟨⟨first, hfirst⟩, others, hothers⟩
        exact ⟨_, first, hfirst, others, hothers, rfl⟩

/-- **The headers of a signature** under a secret of characters: nothing but the clock stands in their
way. -/
lemma signatureHeaders_of_key {key : List Char} (hkey : key ≠ []) (clock : Clock)
    (body : String) :
    signatureHeaders (.str (.ofChars key)) clock body = (do
      let seconds ← clock.seconds
      return [("x-timestamp", .str (.ofChars (Numeral.decimalInt seconds))),
        ("x-hmac-signature",
          .str (.ofString (digest key (Numeral.decimalInt seconds ++ body.toList))))]) := by
  have hblank : (Json.str (.ofChars key)).isBlank = false := by
    simpa [Json.isBlank, Text.isEmpty, Text.ofChars] using hkey
  have hchars : ∀ cs : List Char, signedChars (.ofChars cs) = .ok cs := by
    intro cs
    rw [signedChars, Text.charsOf_ofChars fun _ _ => rfl]
    rfl
  have hsigned : ∀ time : List Char,
      signature (.str (.ofChars key)) (.str (.ofChars time)) (.str (.ofString body))
        = .ok (digest key (time ++ body.toList)) := by
    intro time
    have hjoin : Text.ofChars time ++ Text.ofString body = .ofChars (time ++ body.toList) := by
      simp only [Text.ofString, Text.ofChars, List.map_append]
      rfl
    simp only [signature, joinTexts, hjoin]
    show (do
      let message ← signedChars (.ofChars (time ++ body.toList))
      let key ← signedChars (.ofChars key)
      return digest key message : Except Error String) = _
    rw [hchars, hchars]
    rfl
  simp only [signatureHeaders, hblank, Bool.false_eq_true, if_false, hsigned]
  rfl

/-- Nothing stands in the way of signing: there is no secret, or it is a text of characters and the
clock shows a time. -/
def Signable (secret : Json) (clock : Clock) : Prop :=
  secret.isBlank = true
    ∨ (∃ seconds, clock.seconds = .ok seconds) ∧ ∃ key : List Char, secret = .str (.ofChars key)

lemma key_ne_nil {key : List Char} (h : (Json.str (.ofChars key)).isBlank = false) : key ≠ [] := by
  rintro rfl
  cases h

lemma signatureHeaders_isOk_iff {secret : Json} {clock : Clock} {body : String} :
    (∃ signed, signatureHeaders secret clock body = .ok signed) ↔ Signable secret clock := by
  cases hblank : secret.isBlank with
  | true => simp [signatureHeaders, Signable, hblank]
  | false =>
      constructor
      · rintro ⟨signed, h⟩
        simp only [signatureHeaders, hblank, Bool.false_eq_true, if_false, bind_eq_ok_iff] at h
        obtain ⟨seconds, hseconds, digested, hdigested, -⟩ := h
        obtain ⟨key, hkey, -⟩ := signature_eq_ok hdigested
        exact Or.inr ⟨⟨seconds, hseconds⟩, key, hkey⟩
      · rintro (h | ⟨⟨seconds, hseconds⟩, key, rfl⟩)
        · rw [hblank] at h
          cases h
        · rw [signatureHeaders_of_key (key_ne_nil hblank), hseconds]
          exact ⟨_, rfl⟩

/-- A time and a digest can be sent. -/
lemma isAscii_of_signatureHeaders {secret : Json} {clock : Clock} {body : String}
    {signed : List (String × Json)} (h : signatureHeaders secret clock body = .ok signed) :
    ∀ header ∈ signed, header.2.IsAscii := by
  cases hblank : secret.isBlank with
  | true =>
      simp only [signatureHeaders, hblank, if_true, Except.ok.injEq] at h
      subst h
      exact List.forall_mem_nil _
  | false =>
      rcases signatureHeaders_isOk_iff.mp ⟨signed, h⟩ with hsecret | ⟨-, key, rfl⟩
      · rw [hblank] at hsecret
        cases hsecret
      · rw [signatureHeaders_of_key (key_ne_nil hblank), bind_eq_ok_iff] at h
        obtain ⟨seconds, -, hsigned⟩ := h
        obtain rfl := pure_eq_ok_iff.mp hsigned
        have hdigest := (Json.printable_toHex (Crypto.Hmac.digest (Text.Encoding.encodeUtf8 key)
          (Text.Encoding.encodeUtf8 (Numeral.decimalInt seconds ++ body.toList))).bytes).isAscii
        simpa using ⟨(Json.printable_decimalInt seconds).isAscii, hdigest⟩

/-! ## Requests -/

/-- All that proves who is calling can be had and sent. -/
structure Connection.Proves (c : Connection) : Prop where
  key : c.settings.apiKey.isBlank = true ∨ c.settings.apiKey.IsAscii
  secret : Signable c.settings.hmacSecret c.clock
  answer : c.settings.challenge = none
    ∨ ∃ values answer others, c.settings.challenge = some (.answers values)
      ∧ c.answers = answer :: others ∧ answer.IsAscii

/-- An address that a request can go to. -/
def Settings.IsReachable (settings : Settings) : Prop :=
  ∃ target, targetOf settings.url = .ok target ∧ checkHost target = .ok ()

lemma takeAnswer_eq_ok_iff {challenge : Challenge} {answer : Json} {s s' : Exchange} :
    (takeAnswer challenge).on s = (.ok answer, s') ↔
      ∃ values others, challenge = .answers values ∧ s.connection.answers = answer :: others
        ∧ s' = { s with connection := { s.connection with answers := others } } := by
  cases challenge with
  | failing text =>
      constructor
      · intro h
        cases h
      · rintro ⟨_, _, h, -⟩
        cases h
  | answers values =>
      cases hanswers : s.connection.answers with
      | nil =>
          simp only [takeAnswer, on_bind, on_get, hanswers]
          constructor
          · intro h
            cases h
          · rintro ⟨_, _, -, h, -⟩
            cases h
      | cons next others =>
          simp only [takeAnswer, on_bind, on_get, hanswers]
          constructor
          · intro h
            cases h
            exact ⟨values, others, rfl, rfl, rfl⟩
          · rintro ⟨_, _, -, h, rfl⟩
            cases h
            rfl

lemma challengeHeaders_eq_ok_iff {challenge : Option Challenge} {challenged : List (String × Json)}
    {s s' : Exchange} :
    (challengeHeaders challenge).on s = (.ok challenged, s') ↔
      (challenge = none ∧ challenged = [] ∧ s' = s)
      ∨ ∃ values answer others, challenge = some (.answers values)
        ∧ s.connection.answers = answer :: others ∧ challenged = [("x-recaptcha-token", answer)]
        ∧ s' = { s with connection := { s.connection with answers := others } } := by
  cases challenge with
  | none =>
      rw [challengeHeaders, on_pure_eq_ok_iff]
      simp [eq_comm]
  | some challenge =>
      simp only [challengeHeaders, on_bind_eq_ok_iff, takeAnswer_eq_ok_iff, on_pure_eq_ok_iff]
      constructor
      · rintro ⟨answer, _, ⟨values, others, rfl, hanswers, rfl⟩, rfl, rfl⟩
        exact Or.inr ⟨values, answer, others, rfl, hanswers, rfl, rfl⟩
      · rintro (⟨h, -⟩ | ⟨values, answer, others, h, hanswers, rfl, rfl⟩)
        · cases h
        · obtain rfl := Option.some.inj h
          exact ⟨answer, _, ⟨values, others, rfl, hanswers, rfl⟩, rfl, rfl⟩

lemma isAscii_of_keyHeaders_iff {apiKey : Json} :
    (∀ header ∈ keyHeaders apiKey, header.2.IsAscii) ↔ apiKey.isBlank = true ∨ apiKey.IsAscii := by
  cases hblank : apiKey.isBlank <;> simp [keyHeaders, hblank]

/-- The headers of a body can be had and sent just when they prove who is calling. -/
lemma headers_isOk_iff {body : String} {s : Exchange} :
    (∃ unchecked t, (headers body).on s = (.ok unchecked, t)
        ∧ ∃ checked, unchecked.mapM checkHeader = .ok checked) ↔ s.connection.Proves := by
  simp only [mapM_checkHeader_isOk_iff, headers_eq_ok_iff]
  constructor
  · rintro ⟨_, t, ⟨signed, challenged, hsigned, hchallenged, rfl⟩, hascii⟩
    simp only [List.cons_append, List.forall_mem_cons, List.forall_mem_append,
      isAscii_of_keyHeaders_iff] at hascii
    refine ⟨hascii.2.1.1, signatureHeaders_isOk_iff.mp ⟨signed, hsigned⟩, ?_⟩
    rcases challengeHeaders_eq_ok_iff.mp hchallenged with
      ⟨hnone, -⟩ | ⟨values, answer, others, hsome, hanswers, rfl, -⟩
    · exact Or.inl hnone
    · exact Or.inr ⟨values, answer, others, hsome, hanswers, by simpa using hascii.2.2⟩
  · rintro ⟨hkey, hsecret, hanswer⟩
    obtain ⟨signed, hsigned⟩ : ∃ signed, signatureHeaders s.connection.settings.hmacSecret
        s.connection.clock body = .ok signed := signatureHeaders_isOk_iff.mpr hsecret
    have hchallenge : ∃ challenged t,
        (challengeHeaders s.connection.settings.challenge).on s = (.ok challenged, t)
          ∧ ∀ header ∈ challenged, header.2.IsAscii := by
      rcases hanswer with hnone | ⟨values, answer, others, hsome, hanswers, hascii⟩
      · exact ⟨[], s, challengeHeaders_eq_ok_iff.mpr (Or.inl ⟨hnone, rfl, rfl⟩), by simp⟩
      · refine ⟨_, _, challengeHeaders_eq_ok_iff.mpr
          (Or.inr ⟨values, answer, others, hsome, hanswers, rfl, rfl⟩), ?_⟩
        simpa using hascii
    obtain ⟨challenged, t, hchallenged, hascii⟩ := hchallenge
    refine ⟨_, t, ⟨signed, challenged, hsigned, hchallenged, rfl⟩, ?_⟩
    simp only [List.cons_append, List.forall_mem_cons, List.forall_mem_append,
      isAscii_of_keyHeaders_iff]
    have hkind : (Json.str "application/json").IsAscii :=
      ⟨"application/json".toList, rfl, by simp⟩
    exact ⟨hkind, ⟨hkey, isAscii_of_signatureHeaders hsigned⟩, hascii⟩

variable [Stack]

/-- A call reaches the network: the connection is open and can prove who is calling, and the body
can be written and has an address to go to. -/
structure Call.Reaches (call : Call) (c : Connection) : Prop extends c.Proves where
  isOpen : c.isClosed = false
  fits : (envelope call.method call.params (.int c.nextId)).unwritable? = none
  address : c.settings.IsReachable

/-- **A request can be made ready** just when its body can be written, its headers prove who is
calling, and it has an address to go to. -/
lemma prepare_isOk_iff {method params : Json} {id : ℕ} {s : Exchange} :
    (∃ ready t, (prepare method params id).on s = (.ok ready, t)) ↔
      (envelope method params (.int id)).unwritable? = none
      ∧ s.connection.Proves ∧ s.connection.settings.IsReachable := by
  constructor
  · rintro ⟨⟨target, r⟩, t, h⟩
    obtain ⟨unchecked, u, hbody, hheaders, htarget, hchecked, hhost, -⟩ := prepare_eq_ok_iff.mp h
    exact ⟨(bodyOf_eq_ok_iff.mp hbody).2,
      headers_isOk_iff.mp ⟨unchecked, u, hheaders, r.headers, hchecked⟩, target, htarget, hhost⟩
  · rintro ⟨hfits, hproves, target, htarget, hhost⟩
    obtain ⟨unchecked, u, hheaders, checked, hchecked⟩ := headers_isOk_iff.mpr hproves
    let r : Request := ⟨String.ofList target.url, checked, (envelope method params (.int id)).write⟩
    exact ⟨(target, r), _, prepare_eq_ok_iff.mpr ⟨unchecked, u, bodyOf_eq_ok_iff.mpr ⟨rfl, hfits⟩,
      hheaders, htarget, hchecked, hhost, rfl, rfl⟩⟩

/-- **A call reaches the network** just when it is ready. -/
lemma Call.isReady_iff (call : Call) (s : Exchange) :
    call.IsReady s ↔ call.Reaches s.connection := by
  have hproves : s.numbered.connection.Proves ↔ s.connection.Proves :=
    ⟨fun ⟨hkey, hsecret, hanswer⟩ => ⟨hkey, hsecret, hanswer⟩,
      fun ⟨hkey, hsecret, hanswer⟩ => ⟨hkey, hsecret, hanswer⟩⟩
  rw [IsReady, prepare_isOk_iff, hproves]
  constructor
  · rintro ⟨hopen, hfits, hproves, haddress⟩
    exact ⟨hproves, hopen, hfits, haddress⟩
  · rintro ⟨hproves, hopen, hfits, haddress⟩
    exact ⟨hopen, hfits, hproves, haddress⟩

/-- **A call sends its one request if it reaches the network**, and nothing otherwise.  It takes a
number in any case. -/
theorem request_delivers (method params : Json) (s : Exchange) :
    ∃ sent served, Advances s ((request method params).on s).2 1 sent served
      ∧ (Call.Reaches ⟨method, params⟩ s.connection →
        ∃ r, sent = [r] ∧ r.IsFor s.connection.settings s.connection.nextId ⟨method, params⟩)
      ∧ (¬ Call.Reaches ⟨method, params⟩ s.connection → sent = []) := by
  rw [← Call.isReady_iff]
  exact request_advances method params s

/-! ## Replies -/

/-- The address names a server, without which a reply is of no use. -/
def Settings.NamesServer (settings : Settings) : Prop :=
  ∃ target, targetOf settings.url = .ok target ∧ target.host.isSome = true

/-- A call that succeeds has reached a server. -/
lemma reaches_of_request {method params v : Json} {s s' : Exchange}
    (h : (request method params).on s = (.ok v, s')) :
    Call.Reaches ⟨method, params⟩ s.connection ∧ s.connection.settings.NamesServer := by
  obtain ⟨target, r, u, bytes, hprepare, hsend, hreceive⟩ := request_eq_ok_iff.mp h
  have hquiet := (prepare_quiet _ _ _).advances hprepare
  obtain ⟨_, -, hok⟩ := send_advances r u
  obtain ⟨hopen, -⟩ := hok bytes (congrArg Prod.fst hsend)
  obtain ⟨-, -, -, -, htarget, -⟩ := prepare_eq_ok_iff.mp hprepare
  rw [← Call.isReady_iff]
  exact ⟨⟨hquiet.isClosed.symm.trans hopen, _, u, hprepare⟩, target, htarget,
    (receive_eq_ok_iff.mp hreceive).1⟩

/-- **A call that reaches a server** succeeds with the result in its reply. -/
lemma request_of_reply {method params v : Json} {reply : Response} {others : List Response}
    {s : Exchange} (hreaches : Call.Reaches ⟨method, params⟩ s.connection)
    (hserver : s.connection.settings.NamesServer) (hreplies : s.replies = reply :: others)
    (hresult : resultIn reply = .ok v) : ∃ s', (request method params).on s = (.ok v, s') := by
  obtain ⟨hopen, ⟨target, r⟩, u, hprepare⟩ := (Call.isReady_iff _ s).mpr hreaches
  obtain ⟨named, htarget, hhost⟩ := hserver
  obtain ⟨-, -, -, -, htarget', -⟩ := prepare_eq_ok_iff.mp hprepare
  obtain rfl : named = target := Except.ok.inj (htarget.symm.trans htarget')
  have hquiet := (prepare_quiet _ _ _).advances hprepare
  have hopen : u.connection.isClosed = false := hquiet.isClosed.trans hopen
  have hwaiting : u.replies = reply :: others := hquiet.replies.symm.trans hreplies
  cases reply with
  | failure fault text => cases hresult
  | body bytes =>
      have hsend : ∃ s', (send r).on u = (.ok bytes, s') := by
        simp only [send, on_bind, on_get, hopen, hwaiting]
        exact ⟨_, rfl⟩
      obtain ⟨s', hsend⟩ := hsend
      exact ⟨s', request_eq_ok_iff.mpr ⟨named, r, u, bytes, hprepare, hsend,
        receive_eq_ok_iff.mpr ⟨hhost, hresult⟩⟩⟩

end Rpc

end Paymaster
