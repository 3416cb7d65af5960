import Mathlib
import Paymaster.Proofs.Actions

/-!
# What the headers of a request prove

With a secret set, a request carries the time and a keyed digest of the time and the body.  Both are
checked like all headers before they are sent.  The check changes neither their names nor their
texts (`lookup_of_mapM`), so what is sent is what was digested (`signed_of_headers`).
-/

namespace Paymaster

open Text (Charset)

lemma Text.ofChars_injective : Function.Injective Text.ofChars := by
  intro cs ds h
  exact List.map_injective_iff.mpr (fun _ _ => CodePoint.char.inj) (Text.mk.inj h)

lemma Text.ofString_injective : Function.Injective Text.ofString :=
  Text.ofChars_injective.comp fun _ _ => String.toList_inj.mp

/-- A text whose characters are had stays within the set. -/
lemma Text.Charset.holds_of_charsOf {charset : Charset} {t : Text} {cs : List Char}
    (h : charset.charsOf t = .ok cs) : ∀ p ∈ t.points, charset.holds p = true := by
  rw [← List.dropWhile_eq_nil_iff]
  cases hrest : t.points.dropWhile charset.holds with
  | nil => rfl
  | cons p rest => simp [charsOf, fault?, hrest] at h

/-- The characters of a text are all that is in it. -/
lemma Text.Charset.eq_ofChars_of_charsOf {charset : Charset} {t : Text} {cs : List Char}
    (h : charset.charsOf t = .ok cs) : t = .ofChars cs := by
  have hholds := holds_of_charsOf h
  have hchar : ∀ p ∈ t.points, p ∈ Set.range CodePoint.char := by
    intro p hp
    have hp := hholds p hp
    cases p with
    | char c => exact ⟨c, rfl⟩
    | half index =>
        cases charset with
        | ascii =>
            have hsmall : CodePoint.halfBase + index.val < 128 := of_decide_eq_true hp
            simp [CodePoint.halfBase] at hsmall
            omega
        | unicode => cases hp
  obtain ⟨ds, hds⟩ : t.points ∈ Set.range (List.map CodePoint.char) := by
    rw [Set.range_list_map]
    exact hchar
  have hnone : t.points.dropWhile charset.holds = [] := List.dropWhile_eq_nil_iff.mpr hholds
  rw [charsOf, fault?, hnone] at h
  obtain rfl : ds = cs := by
    have hall : (ds.map CodePoint.char).filterMap CodePoint.char? = cs := by
      rw [hds]
      exact Except.ok.inj h
    rwa [List.filterMap_map, show CodePoint.char? ∘ CodePoint.char = some from rfl,
      List.filterMap_some] at hall
  exact congrArg Text.mk hds.symm

namespace Rpc

/-- A request carries the digest of its time and its body under the secret, if there is one. -/
def Request.Signed (r : Request) (secret : Json) : Prop :=
  secret.isBlank = false → ∃ (key : List Char) (time : String),
    secret = .str (.ofChars key) ∧ r.headers.lookup "x-timestamp" = some time
    ∧ r.headers.lookup "x-hmac-signature"
      = some (Bytes.toHex (Crypto.Hmac.digest (Text.Encoding.encodeUtf8 key)
          (Text.Encoding.encodeUtf8 (time.toList ++ r.body.toList))).bytes)

lemma signedChars_eq_ok {text : Text} {cs : List Char} (h : signedChars text = .ok cs) :
    text = .ofChars cs := by
  unfold signedChars at h
  cases hchars : Charset.unicode.charsOf text with
  | error f =>
      rw [hchars] at h
      cases h
  | ok ds =>
      rw [hchars] at h
      obtain rfl := Except.ok.inj h
      exact Text.Charset.eq_ofChars_of_charsOf hchars

/-- **A signature** is the digest of the time and the body, under a secret of characters. -/
lemma signature_eq_ok {secret : Json} {time body : List Char} {signed : String}
    (h : signature secret (.str (.ofChars time)) (.str (.ofChars body)) = .ok signed) :
    ∃ key, secret = .str (.ofChars key) ∧ signed = digest key (time ++ body) := by
  simp only [signature, bind_eq_ok_iff] at h
  obtain ⟨joined, hjoined, message, hmessage, h⟩ := h
  obtain rfl : Text.ofChars time ++ Text.ofChars body = joined := Except.ok.inj hjoined
  obtain rfl : time ++ body = message := by
    apply Text.ofChars_injective
    rw [← signedChars_eq_ok hmessage]
    simp only [Text.ofChars, List.map_append]
    rfl
  cases secret with
  | str text =>
      obtain ⟨key, hkey, h⟩ := bind_eq_ok_iff.mp h
      exact ⟨key, congrArg Json.str (signedChars_eq_ok hkey), (pure_eq_ok_iff.mp h).symm⟩
  | _ => cases h

/-- A header is sent under its name, with its text. -/
lemma checkHeader_eq_ok {name : String} {v : Json} {header : String × String}
    (h : checkHeader (name, v) = .ok header) :
    ∃ cs, v = .str (.ofChars cs) ∧ header = (name, String.ofList cs) := by
  cases v with
  | str text =>
      obtain ⟨cs, hcs, hheader⟩ := bind_eq_ok_iff.mp h
      refine ⟨cs, ?_, (pure_eq_ok_iff.mp hheader).symm⟩
      cases hchars : Charset.ascii.charsOf text with
      | error f =>
          rw [hchars] at hcs
          cases hcs
      | ok ds =>
          rw [hchars] at hcs
          obtain rfl := Except.ok.inj hcs
          rw [Text.Charset.eq_ofChars_of_charsOf hchars]
  | _ => cases h

/-- **What is sent under a name** is the text of the header that has it. -/
lemma lookup_of_mapM {unchecked : List (String × Json)} {headers : List (String × String)}
    (h : unchecked.mapM checkHeader = .ok headers) {name : String} {cs : List Char}
    (hname : unchecked.lookup name = some (.str (.ofChars cs))) :
    headers.lookup name = some (String.ofList cs) := by
  induction unchecked generalizing headers with
  | nil => cases hname
  | cons header rest ih =>
      obtain ⟨other, v⟩ := header
      simp only [List.mapM_cons, bind_eq_ok_iff, pure_eq_ok_iff] at h
      obtain ⟨checked, hchecked, others, hothers, rfl⟩ := h
      obtain ⟨ds, rfl, rfl⟩ := checkHeader_eq_ok hchecked
      rw [List.lookup_cons] at hname ⊢
      cases hother : name == other with
      | true =>
          simp only [hother] at hname ⊢
          rw [Text.ofChars_injective (Json.str.inj (Option.some.inj hname))]
      | false =>
          simp only [hother] at hname ⊢
          exact ih hothers hname

/-- The headers of the signature stand behind the kind of the body and the key. -/
lemma lookup_behind_key (apiKey : Json) (more : List (String × Json)) {name : String}
    (hkind : name ≠ "content-type") (hkey : name ≠ "x-api-key") :
    (("content-type", Json.str "application/json") :: keyHeaders apiKey ++ more).lookup name
      = more.lookup name := by
  have hkind : (name == "content-type") = false := beq_false_of_ne hkind
  have hkey : (name == "x-api-key") = false := beq_false_of_ne hkey
  unfold keyHeaders
  split_ifs <;> simp [List.lookup_cons, hkind, hkey]

/-- **What is sent is what was digested**: the check of the headers keeps the time and the
digest. -/
lemma signed_of_headers {secret apiKey : Json} {clock : Clock}
    {signed challenged : List (String × Json)} {r : Request}
    (hsigned : signatureHeaders secret clock r.body = .ok signed)
    (hchecked : (("content-type", Json.str "application/json") :: keyHeaders apiKey ++ signed
      ++ challenged).mapM checkHeader = .ok r.headers) :
    r.Signed secret := by
  intro hblank
  simp only [signatureHeaders, hblank, Bool.false_eq_true, if_false, bind_eq_ok_iff,
    pure_eq_ok_iff] at hsigned
  obtain ⟨seconds, -, digested, hdigested, rfl⟩ := hsigned
  obtain ⟨key, rfl, rfl⟩ := signature_eq_ok hdigested
  rw [List.append_assoc] at hchecked
  -- what is looked up stands behind the kind and the key, whether there is a key or not
  generalize hmore : [("x-timestamp", Json.str (.ofChars (Numeral.decimalInt seconds))),
    ("x-hmac-signature", Json.str (.ofString (digest key _)))] ++ challenged = more at hchecked
  have htime : more.lookup "x-timestamp" = some (.str (.ofChars (Numeral.decimalInt seconds))) := by
    rw [← hmore]
    rfl
  have hdigest : more.lookup "x-hmac-signature"
      = some (.str (.ofChars (digest key (Numeral.decimalInt seconds ++ r.body.toList)).toList)) := by
    rw [← hmore]
    rfl
  rw [← lookup_behind_key apiKey more (by decide) (by decide)] at htime hdigest
  refine ⟨key, String.ofList (Numeral.decimalInt seconds), rfl, lookup_of_mapM hchecked htime, ?_⟩
  rw [lookup_of_mapM hchecked hdigest, String.ofList_toList, String.toList_ofList]
  rfl

end Rpc

end Paymaster
