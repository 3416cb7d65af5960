import Mathlib
import Paymaster.Transaction

/-!
# Bytes survive their text

A transaction travels as text, in base 64 or in base 58.  This file shows that reading the text of
some bytes gives exactly these bytes, in either encoding.

**Numerals.**  Base 58 is positional, so its half rests on the uniqueness of numerals:
`digits_value` says that digits without a leading zero are *the* digits of their value.  Leading
zero bytes have no trace in the number and are accounted for apart (`value_zeros_append`).

**Groups.**  Base 64 goes by groups of three bytes, and the reader by groups of four characters.
`decodeFrom_encodeChars` follows the writer's recursion, with the count of characters behind the
reader left open.

The main statement is `bytesOf_textOf`.
-/

namespace Paymaster

/-! ## Numerals are unique -/

namespace Numeral

/-- Zeros in front do not change a value. -/
lemma value_zeros_append (base : ℕ) (zeros ds : List ℕ) (hz : ∀ d ∈ zeros, d = 0) :
    value base (zeros ++ ds) = value base ds := by
  induction zeros with
  | nil => rfl
  | cons z zeros ih =>
      have hz0 : z = 0 := hz z (by simp)
      have ih' := ih (fun d hd => hz d (List.mem_cons_of_mem _ hd))
      subst hz0
      simpa [value] using ih'

/-- **Numerals are unique.**  Digits below the base, most significant first and without a zero in
front, are the digits of their value. -/
theorem digits_value (k : ℕ) (ds : List ℕ) (hlt : ∀ d ∈ ds, d < k + 2)
    (hhead : ds.head? ≠ some 0) : digits k (value (k + 2) ds) = ds.reverse := by
  induction ds using List.reverseRecOn with
  | nil =>
      rw [digits]
      simp [value]
  | append_singleton ds d ih =>
      have hd : d < k + 2 := hlt d (by simp)
      have ih' : digits k (value (k + 2) ds) = ds.reverse := by
        refine ih (fun e he => hlt e (by simp [he])) ?_
        intro h
        apply hhead
        rw [List.head?_append, h]
        rfl
      -- only here does the digit in front matter: were all of it zero, it would be zero too
      have hne : value (k + 2) ds * (k + 2) + d ≠ 0 := by
        intro h
        have hd0 : d = 0 := by omega
        have hv0 : value (k + 2) ds = 0 := by
          have := Nat.add_eq_zero_iff.mp h
          exact (Nat.mul_eq_zero.mp this.1).resolve_right (by omega)
        rw [hv0, digits, if_pos rfl] at ih'
        have hds : ds = [] := List.reverse_eq_nil_iff.mp ih'.symm
        apply hhead
        rw [hds, hd0]
        rfl
      have hmod : (value (k + 2) ds * (k + 2) + d) % (k + 2) = d := by
        rw [Nat.add_comm, Nat.add_mul_mod_self_right, Nat.mod_eq_of_lt hd]
      have hdiv : (value (k + 2) ds * (k + 2) + d) / (k + 2) = value (k + 2) ds := by
        rw [Nat.add_comm, Nat.add_mul_div_right _ _ (by omega), Nat.div_eq_of_lt hd, Nat.zero_add]
      rw [value_append, digits, if_neg hne, hmod, hdiv, ih', List.reverse_append]
      rfl

/-- The most significant digit is not zero. -/
lemma head?_reverse_digits (k n : ℕ) : (digits k n).reverse.head? ≠ some 0 := by
  rw [List.head?_reverse]
  fun_induction digits k n with
  | case1 => simp
  | case2 n hn ih =>
      by_cases hq : n / (k + 2) = 0
      · have hlt : n < k + 2 := (Nat.div_eq_zero_iff.mp hq).resolve_left (by omega)
        have hnil : digits k (n / (k + 2)) = [] := by rw [digits, if_pos hq]
        rw [hnil, Nat.mod_eq_of_lt hlt]
        simpa using hn
      · have hcons : digits k (n / (k + 2)) ≠ [] := by
          rw [digits, if_neg hq]
          exact List.cons_ne_nil _ _
        rw [List.getLast?_cons_of_ne_nil hcons]
        exact ih

lemma value_lt (base : ℕ) (ds : List ℕ) (hlt : ∀ d ∈ ds, d < base) :
    value base ds < base ^ ds.length := by
  induction ds using List.reverseRecOn with
  | nil => simp [value]
  | append_singleton ds d ih =>
      have hd : d < base := hlt d (by simp)
      have ih' := ih fun e he => hlt e (by simp [he])
      rw [value_append, List.length_append, List.length_singleton, pow_succ]
      calc value base ds * base + d < value base ds * base + base := by omega
        _ = (value base ds + 1) * base := by ring
        _ ≤ base ^ ds.length * base := Nat.mul_le_mul_right base ih'

/-- A number below a power of the base has no more digits than the power. -/
lemma length_digits_le {k n width : ℕ} (h : n < (k + 2) ^ width) :
    (digits k n).length ≤ width := by
  induction width generalizing n with
  | zero =>
      have hn : n = 0 := by simpa using h
      rw [digits, if_pos hn]
      exact le_rfl
  | succ width ih =>
      rw [digits]
      split_ifs with hn
      · exact Nat.zero_le _
      · have hlt : n / (k + 2) < (k + 2) ^ width := by
          refine Nat.div_lt_of_lt_mul ?_
          rwa [← pow_succ']
        have := ih hlt
        simpa using this

end Numeral

/-- The number of some bytes is the value of their digits in base 256. -/
lemma Bytes.ofBigEndian_eq_value (bytes : Bytes) :
    Bytes.ofBigEndian bytes = Numeral.value 256 (bytes.map UInt8.toNat) := by
  simp only [Bytes.ofBigEndian, Numeral.value, List.foldl_map]

/-! ## Base 58 -/

namespace Text.Base58

open Numeral

lemma digitValue?_digitChar : ∀ d, d < 58 → digitValue? (digitChar d) = some d := by
  decide

lemma digitValues_digitChars (ds : List ℕ) (h : ∀ d ∈ ds, d < 58) :
    digitValues (ds.map digitChar) = .ok ds := by
  induction ds with
  | nil => rfl
  | cons d ds ih =>
      have ih' := ih (fun e he => h e (List.mem_cons_of_mem _ he))
      simp only [List.map_cons, digitValues, digitValue?_digitChar d (h d (by simp)), ih']
      rfl

/-- The zero digits that stand for the zero bytes in front. -/
def leadingZeros (bytes : Bytes) : List ℕ :=
  (bytes.takeWhile (· = 0)).map fun _ => 0

lemma eq_zero_of_mem_leadingZeros {bytes : Bytes} {d : ℕ} (h : d ∈ leadingZeros bytes) :
    d = 0 := by
  simp only [leadingZeros, List.mem_map] at h
  obtain ⟨_, _, rfl⟩ := h
  rfl

/-- The digits that some bytes are written with. -/
def digitsOf (bytes : Bytes) : List ℕ :=
  leadingZeros bytes ++ (digits 56 (Bytes.ofBigEndian bytes)).reverse

lemma lt_of_mem_digitsOf {bytes : Bytes} {d : ℕ} (h : d ∈ digitsOf bytes) : d < 58 := by
  rcases List.mem_append.mp h with h | h
  · rw [eq_zero_of_mem_leadingZeros h]
    omega
  · exact lt_of_mem_digits (List.mem_reverse.mp h)

lemma encodeChars_eq (bytes : Bytes) : encodeChars bytes = (digitsOf bytes).map digitChar := by
  simp only [encodeChars, digitsOf, leadingZeros, List.map_append, List.map_map, List.map_reverse]
  rfl

/-- Zeros in front are told apart from a numeral, which has none. -/
lemma takeWhile_zeros_append {zeros ds : List ℕ} (hz : ∀ d ∈ zeros, d = 0)
    (hhead : ds.head? ≠ some 0) : (zeros ++ ds).takeWhile (· = 0) = zeros := by
  rw [List.takeWhile_append_of_pos (fun d hd => by simpa using hz d hd)]
  cases ds with
  | nil => simp
  | cons d ds =>
      have hd : d ≠ 0 := fun h => hhead (by rw [h]; rfl)
      simp [hd]

lemma map_toNat_takeWhile_zero (bytes : Bytes) :
    (bytes.takeWhile (· = 0)).map UInt8.toNat = leadingZeros bytes := by
  refine List.map_congr_left (fun b hb => ?_)
  have hb0 := List.mem_takeWhile_imp hb
  simp only [decide_eq_true_eq] at hb0
  rw [hb0]
  rfl

/-- Zero bytes in front are not seen in the number. -/
lemma ofBigEndian_eq_value_drop (bytes : Bytes) :
    Bytes.ofBigEndian bytes = value 256 ((bytes.dropWhile (· = 0)).map UInt8.toNat) := by
  have hsplit : bytes.map UInt8.toNat
      = leadingZeros bytes ++ (bytes.dropWhile (· = 0)).map UInt8.toNat := by
    rw [← map_toNat_takeWhile_zero, ← List.map_append, List.takeWhile_append_dropWhile]
  rw [Bytes.ofBigEndian_eq_value, hsplit,
    value_zeros_append _ _ _ (fun d hd => eq_zero_of_mem_leadingZeros hd)]

/-- The bytes behind the zeros in front are the digits of the number in base 256. -/
lemma digits_ofBigEndian (bytes : Bytes) :
    digits 254 (Bytes.ofBigEndian bytes)
      = ((bytes.dropWhile (· = 0)).map UInt8.toNat).reverse := by
  rw [ofBigEndian_eq_value_drop]
  refine digits_value 254 _ ?_ ?_
  · intro d hd
    obtain ⟨b, _, rfl⟩ := List.mem_map.mp hd
    exact b.toNat_lt
  · cases hrest : bytes.dropWhile (· = 0) with
    | nil => simp
    | cons b rest =>
        have hb : ¬ (b = 0) := by
          have hne : bytes.dropWhile (· = 0) ≠ [] := by
            rw [hrest]
            exact List.cons_ne_nil _ _
          have hfirst := List.head_dropWhile_not (fun b : UInt8 => decide (b = 0)) hne
          simpa [hrest] using hfirst
        simp only [List.map_cons, List.head?_cons, ne_eq, Option.some.injEq]
        intro h
        exact hb (UInt8.toNat_inj.mp h)

lemma ofDigits_digitsOf (bytes : Bytes) : ofDigits (digitsOf bytes) = bytes := by
  have hzeros : ∀ d ∈ leadingZeros bytes, d = 0 := fun _ => eq_zero_of_mem_leadingZeros
  have hvalue : value 58 (digitsOf bytes) = Bytes.ofBigEndian bytes := by
    rw [digitsOf, value_zeros_append _ _ _ hzeros]
    exact value_reverse_digits 56 _
  have htake : (digitsOf bytes).takeWhile (· = 0) = leadingZeros bytes :=
    takeWhile_zeros_append hzeros (head?_reverse_digits _ _)
  have hzero : (leadingZeros bytes).map (fun _ => (0 : UInt8)) = bytes.takeWhile (· = 0) := by
    rw [leadingZeros, List.map_map]
    conv_rhs => rw [← List.map_id (bytes.takeWhile (· = 0))]
    refine List.map_congr_left (fun b hb => ?_)
    have hb0 := List.mem_takeWhile_imp hb
    simp only [decide_eq_true_eq] at hb0
    exact hb0.symm
  rw [ofDigits, htake, hzero, hvalue, digits_ofBigEndian, List.map_reverse, List.reverse_reverse,
    List.map_map]
  have hbyte : UInt8.ofNat ∘ UInt8.toNat = id := funext fun b => UInt8.ofNat_toNat
  rw [hbyte, List.map_id, List.takeWhile_append_dropWhile]

/-- **Base 58 reads back what it wrote.** -/
theorem decodeChars_encodeChars (bytes : Bytes) : decodeChars (encodeChars bytes) = .ok bytes := by
  rw [decodeChars, encodeChars_eq, digitValues_digitChars _ (fun _ => lt_of_mem_digitsOf)]
  show Except.ok (ofDigits (digitsOf bytes)) = _
  rw [ofDigits_digitsOf]

/-- A digit is an ASCII character and no blank. -/
lemma digitChar_plain :
    ∀ d, d < 58 → (digitChar d).toNat < 128 ∧ isBlank (digitChar d) = false := by
  decide

lemma encodeChars_plain (bytes : Bytes) :
    ∀ c ∈ encodeChars bytes, c.toNat < 128 ∧ isBlank c = false := by
  intro c hc
  rw [encodeChars_eq] at hc
  obtain ⟨d, hd, rfl⟩ := List.mem_map.mp hc
  exact digitChar_plain d (lt_of_mem_digitsOf hd)

/-- **How long a base 58 text is**: where a number of bytes has fewer values than a number of digits,
that many digits are enough.  A zero byte in front takes one digit, which is less than its share. -/
lemma length_encodeChars_le {bytes : Bytes} {width : ℕ} (hle : bytes.length ≤ width)
    (h : 256 ^ bytes.length ≤ 58 ^ width) : (encodeChars bytes).length ≤ width := by
  have hsplit : (bytes.takeWhile (· = 0)).length + (bytes.dropWhile (· = 0)).length
      = bytes.length := by
    rw [← List.length_append, List.takeWhile_append_dropWhile]
  have hzeros : (leadingZeros bytes).length = (bytes.takeWhile (· = 0)).length :=
    List.length_map _
  generalize (bytes.takeWhile (· = 0)).length = z at hsplit hzeros
  have hnumber : Bytes.ofBigEndian bytes < 256 ^ (bytes.length - z) := by
    have hlt := value_lt 256 ((bytes.dropWhile (· = 0)).map UInt8.toNat) ?_
    · rw [ofBigEndian_eq_value_drop]
      rwa [List.length_map, show (bytes.dropWhile (· = 0)).length = bytes.length - z by omega]
        at hlt
    · intro d hd
      obtain ⟨b, -, rfl⟩ := List.mem_map.mp hd
      exact b.toNat_lt
  have hroom : 256 ^ (bytes.length - z) ≤ 58 ^ (width - z) := by
    refine Nat.le_of_mul_le_mul_right ?_ (Nat.pow_pos (n := z) (show 0 < 58 by decide))
    calc 256 ^ (bytes.length - z) * 58 ^ z
        ≤ 256 ^ (bytes.length - z) * 256 ^ z :=
          Nat.mul_le_mul_left _ (Nat.pow_le_pow_left (by decide) z)
      _ = 256 ^ bytes.length := by rw [← pow_add, Nat.sub_add_cancel (by omega)]
      _ ≤ 58 ^ width := h
      _ = 58 ^ (width - z) * 58 ^ z := by rw [← pow_add, Nat.sub_add_cancel (by omega)]
  have hdigits : (digits 56 (Bytes.ofBigEndian bytes)).length ≤ width - z :=
    length_digits_le (hnumber.trans_le hroom)
  rw [encodeChars_eq, List.length_map, digitsOf, List.length_append, List.length_reverse, hzeros]
  omega

end Text.Base58

/-- **A block is read back from its text**, if the bound on the characters leaves room for it. -/
theorem Block.ofChars?_encodeChars {n limit : ℕ} (b : Block n) (hle : n ≤ limit)
    (h : 256 ^ n ≤ 58 ^ limit) :
    Block.ofChars? n limit (Text.Base58.encodeChars b.bytes) = some b := by
  have hlength : (Text.Base58.encodeChars b.bytes).length ≤ limit :=
    Text.Base58.length_encodeChars_le (b.length_bytes.trans_le hle) (by rwa [b.length_bytes])
  rw [Block.ofChars?, if_neg (by omega), Text.Base58.decodeChars_encodeChars]
  exact Block.ofBytes?_bytes b

/-- **A key is read back from its text.** -/
theorem PublicKey.ofText?_text (k : PublicKey) : PublicKey.ofText? k.text = some k := by
  rw [Block.text, Text.Base58.encode, PublicKey.ofText?, Text.ofString, String.toList_ofList,
    Text.chars?_ofChars]
  exact k.ofChars?_encodeChars (by decide) (by norm_num)

/-! ## Base 64 -/

namespace Text.Base64

lemma digitChar_spec : ∀ v, v < 64 →
    digitValue? (digitChar v) = some v ∧ digitChar v ≠ '=' ∧ (digitChar v).toNat < 128 := by
  decide

/-- Reading one digit. -/
lemma decodeFrom_digit (count : ℕ) (group : Group) (pads v : ℕ) (rest : List Char) (hv : v < 64) :
    decodeFrom count group pads (digitChar v :: rest)
      = (decodeFrom (if (group.push v).1 = .empty then count + 4 else count) (group.push v).1 0
          rest).map ((group.push v).2 ++ ·) := by
  obtain ⟨hval, hne, _⟩ := digitChar_spec v hv
  rw [decodeFrom, if_neg hne, hval]

lemma byte_of_eq {n : ℕ} {b : UInt8} (h : n = b.toNat) : UInt8.ofNat n = b := by
  rw [h]
  exact UInt8.ofNat_toNat

lemma decodeFrom_two_padding (count a b : ℕ) :
    decodeFrom count (.two a b) 0 ['=', '='] = .ok (Group.two a b).bytes := rfl

lemma decodeFrom_three_padding (count a b c : ℕ) :
    decodeFrom count (.three a b c) 0 ['='] = .ok (Group.three a b c).bytes := rfl

/-- **Base 64 reads back what it wrote**, whatever groups are behind the reader. -/
theorem decodeFrom_encodeChars (bytes : Bytes) (count : ℕ) :
    decodeFrom count .empty 0 (encodeChars bytes) = .ok bytes := by
  fun_induction encodeChars bytes generalizing count with
  | case1 => rfl
  | case2 a =>
      have ha : a.toNat < 256 := a.toNat_lt
      rw [decodeFrom_digit _ _ _ _ _ (by omega), decodeFrom_digit _ _ _ _ _ (by omega)]
      have hbyte : UInt8.ofNat (a.toNat / 4 * 4 + a.toNat % 4 * 16 / 16) = a :=
        byte_of_eq (by omega)
      simp only [Group.push, decodeFrom_two_padding, Group.bytes, hbyte]
      rfl
  | case3 a b =>
      have ha : a.toNat < 256 := a.toNat_lt
      have hb : b.toNat < 256 := b.toNat_lt
      rw [decodeFrom_digit _ _ _ _ _ (by omega), decodeFrom_digit _ _ _ _ _ (by omega),
        decodeFrom_digit _ _ _ _ _ (by omega)]
      have hfirst : UInt8.ofNat
          (a.toNat / 4 * 4 + (a.toNat % 4 * 16 + b.toNat / 16) / 16) = a :=
        byte_of_eq (by omega)
      have hsecond : UInt8.ofNat
          ((a.toNat % 4 * 16 + b.toNat / 16) % 16 * 16 + b.toNat % 16 * 4 / 4) = b :=
        byte_of_eq (by omega)
      simp only [Group.push, decodeFrom_three_padding, Group.bytes, hfirst, hsecond]
      rfl
  | case4 a b c rest ih =>
      have ha : a.toNat < 256 := a.toNat_lt
      have hb : b.toNat < 256 := b.toNat_lt
      have hc : c.toNat < 256 := c.toNat_lt
      rw [decodeFrom_digit _ _ _ _ _ (by omega), decodeFrom_digit _ _ _ _ _ (by omega),
        decodeFrom_digit _ _ _ _ _ (by omega), decodeFrom_digit _ _ _ _ _ (by omega)]
      have hfirst : UInt8.ofNat
          (a.toNat / 4 * 4 + (a.toNat % 4 * 16 + b.toNat / 16) / 16) = a :=
        byte_of_eq (by omega)
      have hsecond : UInt8.ofNat
          ((a.toNat % 4 * 16 + b.toNat / 16) % 16 * 16
            + (b.toNat % 16 * 4 + c.toNat / 64) / 4) = b :=
        byte_of_eq (by omega)
      have hthird : UInt8.ofNat
          ((b.toNat % 16 * 4 + c.toNat / 64) % 4 * 64 + c.toNat % 64) = c :=
        byte_of_eq (by omega)
      simp only [Group.push, Group.bytes, hfirst, hsecond, hthird, if_true, reduceCtorEq, if_false,
        ih]
      rfl

/-- Every character of a base 64 text is ASCII. -/
lemma encodeChars_ascii (bytes : Bytes) : ∀ c ∈ encodeChars bytes, c.toNat < 128 := by
  have hpad : '='.toNat < 128 := by decide
  fun_induction encodeChars bytes with
  | case1 => simp
  | case2 a =>
      have ha : a.toNat < 256 := a.toNat_lt
      simp only [List.forall_mem_cons, List.not_mem_nil, false_imp_iff, implies_true, and_true]
      exact ⟨(digitChar_spec _ (by omega)).2.2, (digitChar_spec _ (by omega)).2.2, hpad, hpad⟩
  | case3 a b =>
      have ha : a.toNat < 256 := a.toNat_lt
      have hb : b.toNat < 256 := b.toNat_lt
      simp only [List.forall_mem_cons, List.not_mem_nil, false_imp_iff, implies_true, and_true]
      exact ⟨(digitChar_spec _ (by omega)).2.2, (digitChar_spec _ (by omega)).2.2,
        (digitChar_spec _ (by omega)).2.2, hpad⟩
  | case4 a b c rest ih =>
      have ha : a.toNat < 256 := a.toNat_lt
      have hb : b.toNat < 256 := b.toNat_lt
      have hc : c.toNat < 256 := c.toNat_lt
      simp only [List.forall_mem_cons]
      exact ⟨(digitChar_spec _ (by omega)).2.2, (digitChar_spec _ (by omega)).2.2,
        (digitChar_spec _ (by omega)).2.2, (digitChar_spec _ (by omega)).2.2, ih⟩

theorem decodeChars_encodeChars (bytes : Bytes) : decodeChars (encodeChars bytes) = .ok bytes := by
  have hascii : (encodeChars bytes).all (·.toNat < 128) = true := by
    rw [List.all_eq_true]
    exact fun c hc => decide_eq_true (encodeChars_ascii bytes c hc)
  rw [decodeChars, if_pos hascii]
  exact decodeFrom_encodeChars bytes 0

end Text.Base64

/-! ## The texts of transactions -/

namespace Text

/-- Characters of a set are their own text in it. -/
lemma charsOf_ofChars {charset : Charset} {cs : List Char}
    (h : ∀ c ∈ cs, charset.holds (.char c) = true) : charset.charsOf (ofChars cs) = .ok cs := by
  have hnone : (ofChars cs).points.dropWhile charset.holds = [] := by
    rw [List.dropWhile_eq_nil_iff]
    intro p hp
    obtain ⟨c, hc, rfl⟩ := List.mem_map.mp hp
    exact h c hc
  have hfault : charset.fault? (ofChars cs) = none := by
    rw [Charset.fault?, hnone]
  rw [Charset.charsOf, hfault]
  show Except.ok ((cs.map CodePoint.char).filterMap CodePoint.char?) = _
  rw [List.filterMap_map]
  exact congrArg _ List.filterMap_some

lemma charsOf_ascii {cs : List Char} (h : ∀ c ∈ cs, c.toNat < 128) :
    Charset.ascii.charsOf (ofChars cs) = .ok cs :=
  charsOf_ofChars fun c hc => decide_eq_true (h c hc)

/-- A text without blanks has none at its end. -/
lemma stripEnd_ofChars {cs : List Char} (h : ∀ c ∈ cs, isBlank c = false) :
    (ofChars cs).stripEnd = ofChars cs := by
  have hkeep : ∀ p ∈ (cs.map CodePoint.char).reverse,
      p.char?.any isBlank = false := by
    intro p hp
    obtain ⟨c, hc, rfl⟩ := List.mem_map.mp (List.mem_reverse.mp hp)
    exact h c hc
  have hdrop : ((cs.map CodePoint.char).reverse).dropWhile (fun p => p.char?.any isBlank)
      = (cs.map CodePoint.char).reverse := by
    cases hrev : (cs.map CodePoint.char).reverse with
    | nil => rfl
    | cons p ps =>
        have hp := hkeep p (by rw [hrev]; exact List.mem_cons_self)
        rw [List.dropWhile_cons_of_neg (by simp [hp])]
  rw [stripEnd, dropEndWhile]
  show Text.mk (((cs.map CodePoint.char).reverse.dropWhile _).reverse) = _
  rw [hdrop, List.reverse_reverse]
  rfl

end Text

/-- **Bytes survive their text**, in base 64 and in base 58. -/
theorem Transaction.Encoding.bytesOf_textOf (e : Transaction.Encoding) (bytes : Bytes) :
    e.bytesOf (.str (e.textOf bytes)) = .ok bytes := by
  cases e with
  | base64 =>
      have hchars : (Text.ofString (Text.Base64.encode bytes)).chars?
          = some (Text.Base64.encodeChars bytes) := by
        rw [Text.Base64.encode, Text.ofString, String.toList_ofList, Text.chars?_ofChars]
      simp only [bytesOf, textOf, Text.Base64.decode, hchars,
        Text.Base64.decodeChars_encodeChars]
      rfl
  | base58 =>
      have hplain := Text.Base58.encodeChars_plain bytes
      have htext : Text.ofString (Text.Base58.encode bytes)
          = Text.ofChars (Text.Base58.encodeChars bytes) := by
        rw [Text.Base58.encode, Text.ofString, String.toList_ofList]
      simp only [bytesOf, textOf, htext,
        Text.stripEnd_ofChars (fun c hc => (hplain c hc).2),
        Text.charsOf_ascii (fun c hc => (hplain c hc).1)]
      show (Text.Base58.decodeChars (Text.Base58.encodeChars bytes)).mapError Error.base58 = _
      rw [Text.Base58.decodeChars_encodeChars]
      rfl

end Paymaster
