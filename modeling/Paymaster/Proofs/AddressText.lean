import Mathlib
import Paymaster.Proofs.Nesting
import Paymaster.Proofs.Payment
import Paymaster.Proofs.WireFormat

/-!
# Addresses have one text each

An address is compared as text in some places and as a key in others.  This file shows that it makes
no difference: a key has one text, and nothing else is read as the key.

**Base 58 is canonical.**  That bytes survive their text is one half.  The other is that a text
survives its bytes: digits below 58 are those of the bytes that they spell (`digitsOf_ofDigits`),
where zeros in front and the digits behind them are told apart in both directions.  So a text is read
exactly when it is the text of what is read (`decodeChars_eq_ok_iff`).

**Keys.**  The bound on the characters turns down no text of a key (`PublicKey.ofText?_eq_some_iff`),
and a value that is no such text fails under its own name (`parseAddress_canonical`).
-/

namespace Paymaster

/-! ## Base 58 is canonical -/

namespace Text.Base58

open Numeral

/-- A character has a value if it is the digit of this value. -/
lemma digitValue?_eq_some_iff {c : Char} {d : ℕ} :
    digitValue? c = some d ↔ d < 58 ∧ c = digitChar d := by
  constructor
  · intro h
    obtain ⟨hlt, hchar, -⟩ := List.idxOf?_eq_some_iff.mp h
    refine ⟨hlt, ?_⟩
    rw [digitChar, List.getElem?_eq_getElem hlt, Option.getD_some, hchar]
  · rintro ⟨hlt, rfl⟩
    exact digitValue?_digitChar d hlt

/-- Characters have values exactly when they are the digits of these values. -/
lemma digitValues_eq_ok_iff {cs : List Char} {ds : List ℕ} :
    digitValues cs = .ok ds ↔ cs = ds.map digitChar ∧ ∀ d ∈ ds, d < 58 := by
  constructor
  · intro h
    induction cs generalizing ds with
    | nil =>
        obtain rfl := Except.ok.inj h
        simp
    | cons c cs ih =>
        cases hvalue : digitValue? c with
        | none => simp [digitValues, hvalue] at h
        | some d =>
            cases hrest : digitValues cs with
            | error e => simp [digitValues, hvalue, hrest, Except.map] at h
            | ok rest =>
                obtain rfl : d :: rest = ds := by
                  simpa [digitValues, hvalue, hrest, Except.map] using h
                obtain ⟨hlt, rfl⟩ := digitValue?_eq_some_iff.mp hvalue
                obtain ⟨rfl, hall⟩ := ih hrest
                exact ⟨rfl, List.forall_mem_cons.mpr ⟨hlt, hall⟩⟩
  · rintro ⟨rfl, hlt⟩
    exact digitValues_digitChars ds hlt

/-- The zero bytes in front are the zeros in front of the digits in base 256. -/
lemma leadingZeros_eq (bytes : Bytes) :
    leadingZeros bytes = (bytes.map UInt8.toNat).takeWhile (· = 0) := by
  have hzero : (fun d : ℕ => decide (d = 0)) ∘ UInt8.toNat = fun b : UInt8 => decide (b = 0) := by
    funext b
    exact decide_eq_decide.mpr Wire.eq_zero_iff.symm
  rw [List.takeWhile_map, hzero, map_toNat_takeWhile_zero]

/-- What some digits spell, as digits in base 256: the zeros in front, and the number. -/
lemma map_toNat_ofDigits (ds : List ℕ) :
    (ofDigits ds).map UInt8.toNat
      = ds.takeWhile (· = 0) ++ (digits 254 (value 58 ds)).reverse := by
  have hfront : (ds.takeWhile (· = 0)).map (UInt8.toNat ∘ fun _ => 0) = ds.takeWhile (· = 0) := by
    conv_rhs => rw [← List.map_id (ds.takeWhile (· = 0))]
    refine List.map_congr_left fun d hd => ?_
    have hd0 := List.mem_takeWhile_imp hd
    simp only [decide_eq_true_eq] at hd0
    exact hd0.symm
  have hback : (digits 254 (value 58 ds)).map (UInt8.toNat ∘ UInt8.ofNat)
      = digits 254 (value 58 ds) := by
    conv_rhs => rw [← List.map_id (digits 254 (value 58 ds))]
    refine List.map_congr_left fun d hd => ?_
    exact UInt8.toNat_ofNat_of_lt' (lt_of_mem_digits hd)
  rw [ofDigits, List.map_append, List.map_map, hfront, List.map_reverse, List.map_map, hback]

/-- **A text survives its bytes**, as digits. -/
lemma digitsOf_ofDigits {ds : List ℕ} (hlt : ∀ d ∈ ds, d < 58) : digitsOf (ofDigits ds) = ds := by
  have hzeros : ∀ d ∈ ds.takeWhile (· = 0), d = 0 := by
    intro d hd
    simpa using List.mem_takeWhile_imp hd
  have hsplit : ds.takeWhile (· = 0) ++ ds.dropWhile (· = 0) = ds := List.takeWhile_append_dropWhile
  have hfront : leadingZeros (ofDigits ds) = ds.takeWhile (· = 0) := by
    rw [leadingZeros_eq, map_toNat_ofDigits]
    exact takeWhile_zeros_append hzeros (head?_reverse_digits _ _)
  have hnumber : Bytes.ofBigEndian (ofDigits ds) = value 58 (ds.dropWhile (· = 0)) := by
    rw [Bytes.ofBigEndian_eq_value, map_toNat_ofDigits, value_zeros_append _ _ _ hzeros,
      value_reverse_digits]
    conv_lhs => rw [← hsplit]
    exact value_zeros_append _ _ _ hzeros
  have hback : digits 56 (value 58 (ds.dropWhile (· = 0))) = (ds.dropWhile (· = 0)).reverse := by
    refine digits_value 56 _ ?_ ?_
    · intro d hd
      exact hlt d ((List.dropWhile_sublist _).subset hd)
    · intro hhead
      have hnot := List.head?_dropWhile_not (fun d : ℕ => decide (d = 0)) ds
      rw [hhead] at hnot
      simp at hnot
  rw [digitsOf, hfront, hnumber, hback, List.reverse_reverse, hsplit]

/-- **Base 58 is canonical**: a text is read exactly when it is the text of what is read. -/
theorem decodeChars_eq_ok_iff {cs : List Char} {bytes : Bytes} :
    decodeChars cs = .ok bytes ↔ cs = encodeChars bytes := by
  constructor
  · intro h
    cases hvalues : digitValues cs with
    | error c => simp [decodeChars, hvalues, Except.map] at h
    | ok ds =>
        obtain rfl : ofDigits ds = bytes := by
          simpa [decodeChars, hvalues, Except.map] using h
        obtain ⟨rfl, hlt⟩ := digitValues_eq_ok_iff.mp hvalues
        rw [encodeChars_eq, digitsOf_ofDigits hlt]
  · rintro rfl
    exact decodeChars_encodeChars bytes

end Text.Base58

/-! ## Texts of keys -/

/-- A text without halves of pairs is that of its characters. -/
lemma Text.chars?_eq_some_iff {t : Text} {cs : List Char} : t.chars? = some cs ↔ t = .ofChars cs := by
  constructor
  · intro h
    obtain ⟨points⟩ := t
    induction points generalizing cs with
    | nil =>
        obtain rfl := Option.some.inj h
        rfl
    | cons p points ih =>
        simp only [chars?, List.mapM_cons, bind, pure, Option.bind_eq_some_iff,
          Option.some.injEq] at h
        rcases h with ⟨c, hc, rest, hrest, rfl⟩
        cases p with
        | char c' =>
            obtain rfl := Option.some.inj hc
            simpa [ofChars] using ih hrest
        | half index => cases hc
  · rintro rfl
    exact chars?_ofChars cs

/-- **The bound turns down no block**: characters spell a block exactly when they are its own. -/
lemma Block.ofChars?_eq_some_iff {n limit : ℕ} {cs : List Char} {b : Block n} (hle : n ≤ limit)
    (hroom : 256 ^ n ≤ 58 ^ limit) :
    Block.ofChars? n limit cs = some b ↔ Text.Base58.decodeChars cs = .ok b.bytes := by
  constructor
  · intro h
    unfold Block.ofChars? at h
    split_ifs at h
    cases hdecode : Text.Base58.decodeChars cs with
    | error c => simp [hdecode] at h
    | ok bytes =>
        rw [hdecode] at h
        rw [Block.ofBytes?_eq_some_iff.mp h]
  · intro h
    rw [Text.Base58.decodeChars_eq_ok_iff.mp h]
    exact b.ofChars?_encodeChars hle hroom

/-- A text is read as a key exactly when it spells the bytes of the key. -/
lemma PublicKey.ofText?_eq_some_iff {t : Text} {k : PublicKey} :
    PublicKey.ofText? t = some k
      ↔ ∃ cs, t = .ofChars cs ∧ Text.Base58.decodeChars cs = .ok k.bytes := by
  simp only [PublicKey.ofText?, Option.bind_eq_some_iff, Text.chars?_eq_some_iff,
    Block.ofChars?_eq_some_iff (show 32 ≤ 44 by decide) (show 256 ^ 32 ≤ 58 ^ 44 by norm_num)]

/-- **A key has one text.** -/
lemma PublicKey.ofText?_eq_some_iff_text {t : Text} {k : PublicKey} :
    PublicKey.ofText? t = some k ↔ t = k.text := by
  constructor
  · intro h
    obtain ⟨cs, rfl, hdecode⟩ := PublicKey.ofText?_eq_some_iff.mp h
    rw [Text.Base58.decodeChars_eq_ok_iff.mp hdecode, Block.text, Text.Base58.encode,
      Text.ofString, String.toList_ofList]
  · rintro rfl
    exact PublicKey.ofText?_text k

/-! ## Values that are addresses -/

section Values

variable [Stack] {v field : Json} {k : PublicKey}

lemma parseAddress_eq_ok_iff_text : parseAddress v field = .ok k ↔ v = .str k.text := by
  rw [parseAddress_eq_ok_iff]
  constructor
  · rintro ⟨text, rfl, htext⟩
    rw [PublicKey.ofText?_eq_some_iff_text.mp htext]
  · rintro rfl
    exact ⟨_, rfl, PublicKey.ofText?_text k⟩

/-- A value that is no address fails under its name, as it is shown, or for what keeps it from being
shown. -/
lemma parseAddress_of_no_text (hnone : ∀ k : PublicKey, v ≠ .str k.text) :
    parseAddress v field = match v.unshowable? with
      | none => .error (.invalidAddress field (.str v.display))
      | some obstacle => .error (.unshowable obstacle) := by
  have hshown : (do
      let text ← v.shown.mapError .unshowable
      throw (.invalidAddress field (.str text)) : Except Error PublicKey)
      = match v.unshowable? with
        | none => .error (.invalidAddress field (.str v.display))
        | some obstacle => .error (.unshowable obstacle) := by
    unfold Json.shown
    cases v.unshowable? <;> rfl
  cases v with
  | str text =>
      cases htext : PublicKey.ofText? text with
      | none =>
          simp only [parseAddress, htext, Json.unshowable?_str]
          rfl
      | some k =>
          exact absurd (congrArg Json.str (PublicKey.ofText?_eq_some_iff_text.mp htext)) (hnone k)
  | _ => exact hshown

/-- **Looking for a text is looking for a key.** -/
lemma any_isText_iff (entries : List Json) (k : PublicKey) (name : Json) :
    entries.any (Reply.isText k.text) = true
      ↔ ∃ entry ∈ entries, parseAddress entry name = .ok k := by
  simp only [List.any_eq_true, Payment.isText_iff, parseAddress_eq_ok_iff_text]

/-- **An address has one text, and texts are compared as keys are.**

* A value is parsed as a key exactly when it is the text of this key.  So no two texts are parsed as
  one key, and the text of each key is parsed as this key.
* That is so exactly when its characters spell the bytes of the key in base 58: the bound on the
  characters turns down no key.
* Every other value fails as an address that is not valid, with the name that was given and the value
  as it is shown, unless it cannot be shown.  Then it fails for this: it is higher than the stack
  bears, or a number in it is too long.
* A text is always shown, and so is whatever stands in a reply that was read.
* When a token is looked for among those that a server takes, it is found exactly when one of these
  is parsed as the same key.  Otherwise it is not supported.  If it is found, no payment is asked for
  if the price is free, and else the policy is met. -/
theorem parseAddress_canonical (v field : Json) :
    (∀ k : PublicKey, parseAddress v field = .ok k ↔ v = .str k.text)
      ∧ (∀ k : PublicKey, parseAddress v field = .ok k
        ↔ ∃ cs, v = .str (.ofChars cs) ∧ Text.Base58.decodeChars cs = .ok k.bytes)
      ∧ ((∀ k : PublicKey, v ≠ .str k.text) →
        (v.height true ≤ Stack.showing ∧ v.Short →
            parseAddress v field = .error (.invalidAddress field (.str v.display)))
          ∧ (¬ (v.height true ≤ Stack.showing ∧ v.Short) →
            ∃ obstacle, parseAddress v field = .error (.unshowable obstacle)
              ∧ obstacle.Says Stack.showing (v.height true) v.Short))
      ∧ ((∃ text, v = .str text)
          ∨ (∃ bytes reply, Json.ofBytes? Stack.reading bytes = .ok reply ∧ v.Within reply) →
        v.height true ≤ Stack.showing ∧ v.Short)
      ∧ ∀ (config : Reply.Config) (name : Json) (k : PublicKey), parseAddress v field = .ok k →
        (Payment.checkPolicy config v = .error (.unsupportedToken v)
          ↔ ¬ ∃ entry ∈ config.validation.paidTokens, parseAddress entry name = .ok k)
        ∧ (Payment.checkPolicy config v = .error .paymentNotRequired
          ↔ (∃ entry ∈ config.validation.paidTokens, parseAddress entry name = .ok k)
            ∧ config.validation.price.isFree = true)
        ∧ (Payment.checkPolicy config v = .ok ()
          ↔ (∃ entry ∈ config.validation.paidTokens, parseAddress entry name = .ok k)
            ∧ config.validation.price.isFree = false) := by
  refine ⟨fun _ => parseAddress_eq_ok_iff_text, ?_, fun hnone => ⟨?_, ?_⟩, ?_, ?_⟩
  · intro k
    rw [parseAddress_eq_ok_iff]
    constructor
    · rintro ⟨text, rfl, htext⟩
      obtain ⟨cs, rfl, hdecode⟩ := PublicKey.ofText?_eq_some_iff.mp htext
      exact ⟨cs, rfl, hdecode⟩
    · rintro ⟨cs, rfl, hdecode⟩
      exact ⟨_, rfl, PublicKey.ofText?_eq_some_iff.mpr ⟨cs, rfl, hdecode⟩⟩
  · intro hfits
    rw [parseAddress_of_no_text hnone, Json.unshowable?_eq_none_iff.mpr hfits]
  · intro hfits
    rw [← Json.unshowable?_eq_none_iff] at hfits
    obtain ⟨obstacle, hobstacle⟩ := Option.ne_none_iff_exists'.mp hfits
    refine ⟨obstacle, ?_, Json.says_of_obstacle? v hobstacle⟩
    rw [parseAddress_of_no_text hnone, hobstacle]
  · rw [← Json.unshowable?_eq_none_iff]
    rintro (⟨text, rfl⟩ | ⟨bytes, reply, hread, hwithin⟩)
    · exact Json.unshowable?_str text
    · exact Json.unshowable?_of_read hread hwithin
  · intro config name k hk
    obtain rfl := parseAddress_eq_ok_iff_text.mp hk
    have hpolicy : Payment.checkPolicy config (.str k.text)
        = if !config.validation.paidTokens.any (Reply.isText k.text) then
            .error (.unsupportedToken (.str k.text))
          else if config.validation.price.isFree then .error .paymentNotRequired
          else .ok () := rfl
    rw [hpolicy, ← any_isText_iff config.validation.paidTokens k name]
    cases config.validation.paidTokens.any (Reply.isText k.text) with
    | false => simp
    | true => cases config.validation.price.isFree <;> simp

end Values

section Usual

open scoped Stack

/-- A list inside 985 others and a number of 4301 digits are no addresses, but neither is refused as
none: the one is too deep to be shown, and the other too long. -/
theorem unshowable_values_fail_otherwise :
    (∀ k : PublicKey, Json.tower 985 ≠ .str k.text)
      ∧ parseAddress (.tower 985) (.str "fee_token") = .error (.unshowable .tooDeep)
      ∧ (∀ k : PublicKey, Json.int (10 ^ Numeral.digitLimit : ℕ) ≠ .str k.text)
      ∧ parseAddress (.int (10 ^ Numeral.digitLimit : ℕ)) (.str "fee_token")
        = .error (.unshowable .longNumber) := by
  have hlist : ∀ k : PublicKey, Json.tower 985 ≠ .str k.text := fun _ => Json.noConfusion
  have hnumber : ∀ k : PublicKey, Json.int (10 ^ Numeral.digitLimit : ℕ) ≠ .str k.text :=
    fun _ => Json.noConfusion
  refine ⟨hlist, ?_, hnumber, ?_⟩
  · have hdeep : (Json.tower 985).unshowable? = some .tooDeep :=
      Json.obstacle?_tower (by decide)
    rw [parseAddress_of_no_text hlist, hdeep]
  · rw [parseAddress_of_no_text hnumber, Json.unshowable?_int le_rfl]

end Usual

end Paymaster
