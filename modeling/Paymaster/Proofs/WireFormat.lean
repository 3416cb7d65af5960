import Mathlib
import Paymaster.Proofs.TextForm
import Paymaster.Transaction

/-!
# The wire format is canonical

A reader takes something off the front of some bytes, and a writer puts it there.  Every reader of
the wire format accepts *exactly* what its writer produces, whatever stands behind: this is
`Wire.Inverts`, an equivalence, so that it says at once that reading undoes writing, that nothing
else is accepted, and that what was read is unique.

**Combinators.**  `Wire.Inverts` is proved for lengths, blocks and bytes, and passes to counted
lists (`readList_inverts`).  The only place where bytes are looked at is the length: its reader
turns down the longer spellings that its writer never chooses.

**Formats.**  A legacy message opens with the number of its signers and a message of version 0 with
a byte whose top bit is set, so a legacy message with 128 signers or more could not be told apart.
`Message.Expressible` excludes exactly these, and lists beyond the limit of a length.

The main statements are `Transaction.ofBytes?_eq_some_iff` and, through text, `decode_textOf_iff`.
-/

namespace Paymaster

namespace Wire

/-- A reader inverts a writer on the things that satisfy `ok`: it takes `x` and hands on `rest` for
exactly those bytes that are `x` written out with `rest` behind it. -/
def Inverts {α : Type} (read : Reader α) (write : α → Bytes) (ok : α → Prop) : Prop :=
  ∀ bytes x rest, read bytes = some (x, rest) ↔ ok x ∧ bytes = write x ++ rest

/-! ## Bytes and lengths -/

lemma readByte_eq_some_iff {bytes rest : Bytes} {b : UInt8} :
    readByte bytes = some (b, rest) ↔ bytes = b :: rest := by
  cases bytes with
  | nil => simp [readByte]
  | cons c cs => simp [readByte]

lemma readBytes_eq_some_iff {n : ℕ} {bytes front rest : Bytes} :
    readBytes n bytes = some (front, rest) ↔ front.length = n ∧ bytes = front ++ rest := by
  unfold readBytes
  constructor
  · intro h
    split at h
    · rename_i hn
      obtain ⟨rfl, rfl⟩ := Prod.mk.inj (Option.some.inj h)
      exact ⟨List.length_take_of_le hn, (List.take_append_drop n bytes).symm⟩
    · exact absurd h (by simp)
  · rintro ⟨rfl, rfl⟩
    simp

lemma lt_topBit_iff {b : UInt8} : b < 0x80 ↔ b.toNat < 128 := Iff.rfl

lemma three_lt_iff {b : UInt8} : 3 < b ↔ 3 < b.toNat := Iff.rfl

lemma eq_zero_iff {b : UInt8} : b = 0 ↔ b.toNat = 0 := UInt8.toNat_inj.symm

lemma readLength_writeLength {n : ℕ} (hn : n ≤ lengthLimit) (rest : Bytes) :
    readLength (writeLength n ++ rest) = some (n, rest) := by
  have hlimit : n ≤ 65535 := hn
  have hbyte : ∀ {m : ℕ}, m < 256 → (UInt8.ofNat m).toNat = m := UInt8.toNat_ofNat_of_lt'
  unfold writeLength
  split_ifs with h1 h2
  · have ha := hbyte (m := n) (by omega)
    simp only [List.cons_append, List.nil_append, readLength, lt_topBit_iff, ha, if_pos h1]
  · have ha := hbyte (m := n % 0x80 + 0x80) (by omega)
    have hb := hbyte (m := n / 0x80) (by omega)
    simp only [List.cons_append, List.nil_append, readLength, lt_topBit_iff, eq_zero_iff, ha, hb]
    rw [if_neg (by omega), if_neg (by omega), if_pos (by omega)]
    congr 2
    omega
  · have ha := hbyte (m := n % 0x80 + 0x80) (by omega)
    have hb := hbyte (m := n / 0x80 % 0x80 + 0x80) (by omega)
    have hc := hbyte (m := n / 0x4000) (by omega)
    simp only [List.cons_append, List.nil_append, readLength, lt_topBit_iff, eq_zero_iff,
      three_lt_iff, ha, hb, hc]
    rw [if_neg (by omega), if_neg (by omega), if_neg (by omega), if_neg (by omega)]
    congr 2
    omega

/-- Each way through the reader turns down a last byte of zero, and this is what leaves only the
shortest spelling. -/
lemma writeLength_of_readLength {bytes rest : Bytes} {n : ℕ}
    (h : readLength bytes = some (n, rest)) : n ≤ lengthLimit ∧ bytes = writeLength n ++ rest := by
  have hlimit : lengthLimit = 65535 := rfl
  have hbyte : ∀ (b : UInt8) {m : ℕ}, m = b.toNat → UInt8.ofNat m = b :=
    fun _ => Text.Base64.byte_of_eq
  unfold readLength at h
  split at h
  · exact absurd h (by simp)
  · rename_i a r
    have ha := a.toNat_lt
    simp only [lt_topBit_iff, eq_zero_iff, three_lt_iff] at h
    -- one, two or three bytes: what the reader turns down is what the writer spells shorter
    split_ifs at h with h1
    · obtain ⟨rfl, rfl⟩ := Prod.mk.inj (Option.some.inj h)
      refine ⟨by omega, ?_⟩
      rw [writeLength, if_pos h1, hbyte a rfl]
      rfl
    · split at h
      · exact absurd h (by simp)
      · rename_i b r
        have hb := b.toNat_lt
        split_ifs at h with h2 h3
        · obtain ⟨rfl, rfl⟩ := Prod.mk.inj (Option.some.inj h)
          refine ⟨by omega, ?_⟩
          rw [writeLength, if_neg (by omega), if_pos (by omega), hbyte a (by omega),
            hbyte b (by omega)]
          rfl
        · split at h
          · exact absurd h (by simp)
          · rename_i c r
            split_ifs at h with h4
            obtain ⟨rfl, rfl⟩ := Prod.mk.inj (Option.some.inj h)
            refine ⟨by omega, ?_⟩
            rw [writeLength, if_neg (by omega), if_neg (by omega), hbyte a (by omega),
              hbyte b (by omega), hbyte c (by omega)]
            rfl

/-- **Lengths.**  The reader takes the spelling that the writer chooses, and no other. -/
lemma readLength_inverts : Inverts readLength writeLength (· ≤ lengthLimit) := by
  intro bytes n rest
  constructor
  · exact writeLength_of_readLength
  · rintro ⟨hn, rfl⟩
    exact readLength_writeLength hn rest

/-! ## Blocks and lists -/

lemma readBlock_inverts (n : ℕ) : Inverts (readBlock n) writeBlock (fun _ => True) := by
  intro bytes b rest
  simp only [readBlock, bind, pure, Option.bind_eq_some_iff, Prod.exists, readBytes_eq_some_iff,
    Block.ofBytes?_eq_some_iff, Option.some.injEq, Prod.mk.injEq, true_and, writeBlock]
  constructor
  · rintro ⟨_, _, ⟨_, rfl⟩, _, rfl, rfl, rfl⟩
    rfl
  · rintro rfl
    exact ⟨b.bytes, rest, ⟨b.length_bytes, rfl⟩, b, rfl, rfl, rfl⟩

lemma readCountedBytes_inverts :
    Inverts readCountedBytes writeBytes (fun bs => bs.length ≤ lengthLimit) := by
  intro bytes bs rest
  simp only [readCountedBytes, bind, Option.bind_eq_some_iff, Prod.exists,
    readLength_inverts _ _ _, readBytes_eq_some_iff, writeBytes, List.append_assoc]
  constructor
  · rintro ⟨_, _, ⟨hn, rfl⟩, rfl, rfl⟩
    exact ⟨hn, rfl⟩
  · rintro ⟨hn, rfl⟩
    exact ⟨bs.length, bs ++ rest, ⟨hn, rfl⟩, rfl, rfl⟩

section Lists

variable {α : Type} {read : Reader α} {write : α → Bytes} {ok : α → Prop}

lemma readMany_eq_some_iff (h : Inverts read write ok) (count : ℕ) (bytes rest : Bytes)
    (xs : List α) :
    readMany read count bytes = some (xs, rest)
      ↔ xs.length = count ∧ (∀ x ∈ xs, ok x) ∧ bytes = xs.flatMap write ++ rest := by
  induction count generalizing bytes rest xs with
  | zero =>
      simp only [readMany, Option.some.injEq, Prod.mk.injEq, List.length_eq_zero_iff]
      constructor
      · rintro ⟨rfl, rfl⟩
        simp
      · rintro ⟨rfl, _, rfl⟩
        simp
  | succ count ih =>
      simp only [readMany, bind, pure, Option.bind_eq_some_iff, Prod.exists, h _ _ _, ih,
        Option.some.injEq, Prod.mk.injEq]
      constructor
      · rintro ⟨x, _, ⟨hx, rfl⟩, xs, _, ⟨rfl, hxs, rfl⟩, rfl, rfl⟩
        refine ⟨rfl, List.forall_mem_cons.mpr ⟨hx, hxs⟩, ?_⟩
        rw [List.flatMap_cons, List.append_assoc]
      · rintro ⟨hlen, hok, rfl⟩
        cases xs with
        | nil => exact absurd hlen (by simp)
        | cons x xs =>
            obtain ⟨hx, hxs⟩ := List.forall_mem_cons.mp hok
            refine ⟨x, xs.flatMap write ++ rest, ⟨hx, ?_⟩, xs, rest,
              ⟨Nat.succ.inj hlen, hxs, rfl⟩, rfl, rfl⟩
            rw [List.flatMap_cons, List.append_assoc]

/-- **Lists.**  What holds of the elements holds of a list of them behind its length. -/
lemma readList_inverts (h : Inverts read write ok) :
    Inverts (readList read) (writeList write)
      (fun xs => xs.length ≤ lengthLimit ∧ ∀ x ∈ xs, ok x) := by
  intro bytes xs rest
  simp only [readList, bind, Option.bind_eq_some_iff, Prod.exists, readLength_inverts _ _ _,
    readMany_eq_some_iff h, writeList, List.append_assoc]
  constructor
  · rintro ⟨_, _, ⟨hn, rfl⟩, rfl, hxs, rfl⟩
    exact ⟨⟨hn, hxs⟩, rfl⟩
  · rintro ⟨⟨hn, hxs⟩, rfl⟩
    exact ⟨xs.length, xs.flatMap write ++ rest, ⟨hn, rfl⟩, rfl, hxs, rfl⟩

end Lists

end Wire

open Wire

/-! ## The parts of a message -/

lemma CompiledInstruction.read_inverts :
    Inverts CompiledInstruction.read CompiledInstruction.toBytes
      (fun ix => ix.accounts.length ≤ lengthLimit ∧ ix.data.length ≤ lengthLimit) := by
  intro bytes ix rest
  simp only [CompiledInstruction.read, bind, pure, Option.bind_eq_some_iff, Prod.exists,
    readByte_eq_some_iff, readCountedBytes_inverts _ _ _, Option.some.injEq, Prod.mk.injEq,
    CompiledInstruction.toBytes, List.cons_append, List.append_assoc]
  constructor
  · rintro ⟨program, _, rfl, accounts, _, ⟨ha, rfl⟩, data, _, ⟨hd, rfl⟩, rfl, rfl⟩
    exact ⟨⟨ha, hd⟩, rfl⟩
  · rintro ⟨⟨ha, hd⟩, rfl⟩
    exact ⟨ix.program, _, rfl, ix.accounts, _, ⟨ha, rfl⟩, ix.data, rest, ⟨hd, rfl⟩, rfl, rfl⟩

lemma Lookup.read_inverts :
    Inverts Lookup.read Lookup.toBytes
      (fun l => l.writable.length ≤ lengthLimit ∧ l.readonly.length ≤ lengthLimit) := by
  intro bytes l rest
  simp only [Lookup.read, bind, pure, Option.bind_eq_some_iff, Prod.exists,
    readBlock_inverts 32 _ _ _, readCountedBytes_inverts _ _ _, Option.some.injEq, Prod.mk.injEq,
    Lookup.toBytes, true_and, List.append_assoc]
  constructor
  · rintro ⟨table, _, rfl, writable, _, ⟨hw, rfl⟩, readonly, _, ⟨hr, rfl⟩, rfl, rfl⟩
    exact ⟨⟨hw, hr⟩, rfl⟩
  · rintro ⟨⟨hw, hr⟩, rfl⟩
    exact ⟨l.table, _, rfl, l.writable, _, ⟨hw, rfl⟩, l.readonly, rest, ⟨hr, rfl⟩, rfl, rfl⟩

lemma Header.read_inverts : Inverts Header.read Header.toBytes (fun _ => True) := by
  intro bytes h rest
  simp only [Header.read, bind, pure, Option.bind_eq_some_iff, Prod.exists, readByte_eq_some_iff,
    Option.some.injEq, Prod.mk.injEq, Header.toBytes, true_and]
  constructor
  · rintro ⟨_, _, rfl, _, _, rfl, _, _, rfl, rfl, rfl⟩
    rfl
  · rintro rfl
    exact ⟨_, _, rfl, _, _, rfl, _, _, rfl, rfl, rfl⟩

namespace Message

/-! ## Messages -/

/-- Whether a message can be told from its bytes: every list is short enough for its length to be
written, and a legacy message has too few signers for its first byte to open another format. -/
def Expressible (m : Message) : Prop :=
  m.fits = true ∧ (m.format = .legacy → m.header.required.toNat < 128)

instance (m : Message) : Decidable m.Expressible :=
  inferInstanceAs (Decidable (_ ∧ _))

/-- What the part that both formats share asks of a message. -/
def BodyFits (m : Message) : Prop :=
  m.keys.length ≤ lengthLimit ∧ m.instructions.length ≤ lengthLimit
    ∧ ∀ ix ∈ m.instructions, ix.accounts.length ≤ lengthLimit ∧ ix.data.length ≤ lengthLimit

lemma fits_iff (m : Message) :
    m.fits = true ↔ m.BodyFits ∧ m.lookups.length ≤ lengthLimit
      ∧ ∀ l ∈ m.lookups, l.writable.length ≤ lengthLimit ∧ l.readonly.length ≤ lengthLimit := by
  simp only [fits, BodyFits, Bool.and_eq_true, decide_eq_true_eq, List.all_eq_true]
  tauto

/-- The shared part, whatever the format. -/
lemma readBody_eq_some_iff (bytes rest : Bytes) (m : Message) :
    readBody bytes = some (m, rest)
      ↔ m.format = .legacy ∧ m.BodyFits ∧ bytes = m.bodyBytes ++ rest := by
  have hkeys := readList_inverts (readBlock_inverts 32)
  have hinstructions := readList_inverts CompiledInstruction.read_inverts
  simp only [readBody, bind, pure, Option.bind_eq_some_iff, Prod.exists,
    Header.read_inverts _ _ _, hkeys _ _ _, readBlock_inverts 32 _ _ _, hinstructions _ _ _,
    Option.some.injEq, Prod.mk.injEq, true_and, implies_true, and_true, bodyBytes, BodyFits,
    List.append_assoc]
  constructor
  · rintro ⟨_, _, rfl, _, _, ⟨hk, rfl⟩, _, _, rfl, _, _, ⟨hi, rfl⟩, rfl, rfl⟩
    exact ⟨rfl, ⟨hk, hi⟩, rfl⟩
  · rintro ⟨hformat, ⟨hk, hi⟩, rfl⟩
    refine ⟨m.header, _, rfl, m.keys, _, ⟨hk, rfl⟩, m.blockhash, _, rfl, m.instructions, rest,
      ⟨hi, rfl⟩, ?_, rfl⟩
    cases m
    subst hformat
    rfl

lemma bodyBytes_cons (m : Message) : ∃ tail, m.bodyBytes = m.header.required :: tail :=
  ⟨_, rfl⟩

lemma read_legacy {b : UInt8} {bytes rest : Bytes} {m : Message} (hlow : b < 0x80)
    (h : read (b :: bytes) = some (m, rest)) : m.Expressible ∧ b :: bytes = m.toBytes ++ rest := by
  rw [read, if_pos hlow] at h
  obtain ⟨hformat, hfits, heq⟩ := (readBody_eq_some_iff _ _ _).mp h
  obtain ⟨tail, htail⟩ := m.bodyBytes_cons
  -- the first byte is the number of signers, so the test of the one bounds the other
  have hfirst : b = m.header.required := by
    rw [htail] at heq
    exact (List.cons.inj heq).1
  refine ⟨⟨m.fits_iff.mpr ⟨hfits, ?_⟩, fun _ => ?_⟩, ?_⟩
  · simp [lookups, hformat]
  · rw [← hfirst]
    exact lt_topBit_iff.mp hlow
  · rw [toBytes, hformat]
    exact heq

lemma read_versioned {bytes rest : Bytes} {m : Message}
    (h : read (0x80 :: bytes) = some (m, rest)) :
    m.Expressible ∧ 0x80 :: bytes = m.toBytes ++ rest := by
  have hlookups := readList_inverts Lookup.read_inverts
  have hhigh : ¬ ((0x80 : UInt8) < 0x80) := by decide
  simp only [read, if_neg hhigh, if_true, bind, pure, Option.bind_eq_some_iff, Prod.exists,
    readBody_eq_some_iff, hlookups _ _ _, Option.some.injEq, Prod.mk.injEq] at h
  obtain ⟨body, _, ⟨-, hfits, rfl⟩, ls, _, ⟨hls, rfl⟩, rfl, rfl⟩ := h
  refine ⟨⟨(fits_iff _).mpr ⟨hfits, hls⟩, fun hformat => by simp at hformat⟩, ?_⟩
  simp only [toBytes, List.cons_append, List.append_assoc]
  rfl

lemma read_toBytes_legacy {m : Message} (hformat : m.format = .legacy) (hm : m.Expressible)
    (rest : Bytes) : read (m.toBytes ++ rest) = some (m, rest) := by
  obtain ⟨hfits, hsigners⟩ := hm
  obtain ⟨hbody, -⟩ := m.fits_iff.mp hfits
  obtain ⟨tail, htail⟩ := m.bodyBytes_cons
  have hlow : m.header.required < 0x80 := lt_topBit_iff.mpr (hsigners hformat)
  have hread := (readBody_eq_some_iff (m.bodyBytes ++ rest) rest m).mpr ⟨hformat, hbody, rfl⟩
  simp only [toBytes, hformat]
  rw [htail] at hread ⊢
  simp only [List.cons_append, read, if_pos hlow] at hread ⊢
  exact hread

lemma read_toBytes_versioned {m : Message} {ls : List Lookup} (hformat : m.format = .v0 ls)
    (hm : m.Expressible) (rest : Bytes) : read (m.toBytes ++ rest) = some (m, rest) := by
  obtain ⟨hbody, hls⟩ := m.fits_iff.mp hm.1
  have hread := (readBody_eq_some_iff (m.bodyBytes ++ (writeList Lookup.toBytes ls ++ rest))
    (writeList Lookup.toBytes ls ++ rest) { m with format := .legacy }).mpr ⟨rfl, hbody, rfl⟩
  have hlookups := (readList_inverts Lookup.read_inverts (writeList Lookup.toBytes ls ++ rest) ls
    rest).mpr ⟨by simpa [lookups, hformat] using hls, rfl⟩
  have hhigh : ¬ ((0x80 : UInt8) < 0x80) := by decide
  simp only [toBytes, hformat, List.cons_append, List.append_assoc, read, if_neg hhigh, if_true,
    hread, hlookups, bind, pure, Option.bind_some]
  rw [← hformat]

/-- **Messages.**  The first byte decides the format, and the bound on the signers of a legacy
message is what makes it decide rightly. -/
lemma read_inverts : Inverts Message.read Message.toBytes Message.Expressible := by
  intro bytes m rest
  constructor
  · intro h
    cases bytes with
    | nil => exact absurd h (by simp [read])
    | cons b bytes =>
        by_cases hlow : b < 0x80
        · exact read_legacy hlow h
        · by_cases htop : b = 0x80
          · subst htop
            exact read_versioned h
          · simp [read, if_neg hlow, if_neg htop] at h
  · rintro ⟨hm, rfl⟩
    cases hformat : m.format with
    | legacy => exact read_toBytes_legacy hformat hm rest
    | v0 ls => exact read_toBytes_versioned hformat hm rest

end Message

namespace Transaction

/-! ## Transactions -/

/-- Whether a transaction can be told from its bytes. -/
def Expressible (tx : Transaction) : Prop :=
  tx.fits = true ∧ (tx.message.format = .legacy → tx.message.header.required.toNat < 128)

instance (tx : Transaction) : Decidable tx.Expressible :=
  inferInstanceAs (Decidable (_ ∧ _))

lemma expressible_iff (tx : Transaction) :
    tx.Expressible ↔ tx.signatures.length ≤ lengthLimit ∧ tx.message.Expressible := by
  simp only [Expressible, Message.Expressible, fits, Bool.and_eq_true, decide_eq_true_eq, and_assoc]

/-- The places of the signers of a message never make a list too long. -/
lemma fits_unsigned (m : Message) : (unsigned m).fits = m.fits := by
  have hrequired := m.header.required.toNat_lt
  have hplaces : (unsigned m).signatures.length ≤ lengthLimit := by
    rw [unsigned, List.length_replicate, lengthLimit]
    omega
  rw [fits, decide_eq_true hplaces]
  rfl

lemma expressible_unsigned_iff (m : Message) : (unsigned m).Expressible ↔ m.Expressible := by
  rw [Expressible, fits_unsigned, Message.Expressible, unsigned]

lemma read_inverts : Inverts Transaction.read Transaction.toBytes Transaction.Expressible := by
  have hsignatures := readList_inverts (readBlock_inverts 64)
  intro bytes tx rest
  simp only [read, bind, pure, Option.bind_eq_some_iff, Prod.exists, hsignatures _ _ _,
    Message.read_inverts _ _ _, Option.some.injEq, Prod.mk.injEq, implies_true, and_true,
    expressible_iff, toBytes, List.append_assoc]
  constructor
  · rintro ⟨signatures, _, ⟨hs, rfl⟩, message, _, ⟨hm, rfl⟩, rfl, rfl⟩
    exact ⟨⟨hs, hm⟩, rfl⟩
  · rintro ⟨⟨hs, hm⟩, rfl⟩
    exact ⟨tx.signatures, _, ⟨hs, rfl⟩, tx.message, rest, ⟨hm, rfl⟩, rfl, rfl⟩

/-- **The transaction that some bytes begin with** is the one whose bytes are in front. -/
theorem ofBytes?_eq_some_iff (bytes : Bytes) (tx : Transaction) :
    ofBytes? bytes = some tx ↔ tx.Expressible ∧ tx.toBytes <+: bytes := by
  simp only [ofBytes?, Option.map_eq_some_iff, Prod.exists, exists_and_right, exists_eq_right,
    read_inverts _ _ _]
  constructor
  · rintro ⟨rest, htx, rfl⟩
    exact ⟨htx, List.prefix_append _ _⟩
  · rintro ⟨htx, rest, rfl⟩
    exact ⟨rest, htx, rfl⟩

/-! ## Through text -/

lemma decode_eq_ok_iff (e : Encoding) (data : Json) (tx : Transaction) :
    decode e data = .ok tx
      ↔ ∃ bytes, e.bytesOf data = .ok bytes ∧ tx.Expressible ∧ tx.toBytes <+: bytes := by
  simp only [← ofBytes?_eq_some_iff]
  unfold decode
  cases hbytes : e.bytesOf data with
  | error err => simp [bind, Except.bind]
  | ok bytes =>
      cases htx : ofBytes? bytes with
      | none => simp [bind, Except.bind, htx, throw, throwThe, MonadExceptOf.throw]
      | some found => simp [bind, Except.bind, htx, pure, Except.pure]

/-- What was decoded can be written again. -/
lemma expressible_of_decode {e : Encoding} {data : Json} {tx : Transaction}
    (h : decode e data = .ok tx) : tx.Expressible := by
  obtain ⟨_, _, htx, _⟩ := (decode_eq_ok_iff e data tx).mp h
  exact htx

lemma decode_textOf_iff (e : Encoding) (bytes : Bytes) (tx : Transaction) :
    decode e (.str (e.textOf bytes)) = .ok tx ↔ tx.Expressible ∧ tx.toBytes <+: bytes := by
  rw [decode_eq_ok_iff, Encoding.bytesOf_textOf]
  simp

/-- **Decoding undoes encoding**, for what can be told from its bytes. -/
lemma decode_textOf_toBytes (e : Encoding) {tx : Transaction} (htx : tx.Expressible) :
    decode e (.str (e.textOf tx.toBytes)) = .ok tx :=
  (decode_textOf_iff e tx.toBytes tx).mpr ⟨htx, List.prefix_refl _⟩

lemma encode_of_expressible (e : Encoding) {tx : Transaction} (htx : tx.Expressible) :
    encode e tx = .ok (e.textOf tx.toBytes) := by
  rw [encode, if_pos htx.1]

/-- Two transactions in front of the same bytes are one. -/
lemma eq_of_toBytes_prefix {bytes : Bytes} {tx other : Transaction}
    (htx : tx.Expressible ∧ tx.toBytes <+: bytes)
    (hother : other.Expressible ∧ other.toBytes <+: bytes) : tx = other := by
  have h := (ofBytes?_eq_some_iff bytes tx).mpr htx
  rw [(ofBytes?_eq_some_iff bytes other).mpr hother] at h
  exact (Option.some.inj h).symm

/-- The text in one encoding of the transaction of a text in another. -/
def recode (source target : Encoding) (data : Json) : Except Error String := do
  encode target (← decode source data)

lemma recode_of_decode {source : Encoding} {data : Json} {tx : Transaction}
    (h : decode source data = .ok tx) (target : Encoding) :
    recode source target data = .ok (target.textOf tx.toBytes) := by
  rw [recode, h]
  exact encode_of_expressible target (expressible_of_decode h)

/-- **Decoding accepts exactly the wire format, and encoding inverts it.**

* The text of some bytes decodes to a transaction exactly when the bytes begin with it.
* It decodes at all exactly when they begin with a transaction, and then with one only.
* Decoding, encoding and decoding again is decoding, and recoding twice is recoding once, whatever
  the encodings: where a text is refused, both sides are the same refusal. -/
theorem decode_accepts_wire_format :
    (∀ (e : Encoding) (bytes : Bytes),
      (∀ tx, decode e (.str (e.textOf bytes)) = .ok tx
        ↔ tx.Expressible ∧ tx.toBytes <+: bytes)
      ∧ ((∃ tx, decode e (.str (e.textOf bytes)) = .ok tx)
        ↔ ∃! tx : Transaction, tx.Expressible ∧ tx.toBytes <+: bytes))
    ∧ (∀ (e e' : Encoding) (data : Json),
      (do let text ← recode e e' data
          decode e' (.str text)) = decode e data)
    ∧ (∀ (e e' e'' : Encoding) (data : Json),
      (do let text ← recode e e' data
          recode e' e'' (.str text)) = recode e e'' data) := by
  refine ⟨fun e bytes => ⟨decode_textOf_iff e bytes, ?_⟩, fun e e' data => ?_,
    fun e e' e'' data => ?_⟩
  · simp only [decode_textOf_iff]
    constructor
    · rintro ⟨tx, htx⟩
      exact ⟨tx, htx, fun other hother => eq_of_toBytes_prefix hother htx⟩
    · rintro ⟨tx, htx, _⟩
      exact ⟨tx, htx⟩
  · cases h : decode e data with
    | error err => simp [recode, h, bind, Except.bind]
    | ok tx =>
        rw [recode_of_decode h e']
        exact decode_textOf_toBytes e' (expressible_of_decode h)
  · cases h : decode e data with
    | error err => simp [recode, h, bind, Except.bind]
    | ok tx =>
        have htx := expressible_of_decode h
        rw [recode_of_decode h e', recode_of_decode h e'']
        exact recode_of_decode (decode_textOf_toBytes e' htx) e''

end Transaction

end Paymaster
