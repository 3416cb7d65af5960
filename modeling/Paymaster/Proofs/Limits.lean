import Mathlib
import Paymaster.Proofs.Calls
import Paymaster.Proofs.Recompile
import Paymaster.Proofs.WireFormat

/-!
# What the wire format cannot express

An index is one byte, so a message has room for 256 keys, and the first byte of a legacy message is
the number of its signers, so it must stay below 128.  This file says what appending does beyond
these limits.

**When compiling gives a message.**  The counts of the header must fit one byte each
(`compile_isOk_iff`).  Version 0 counts its keys as well; the legacy format does not.

**What comes out.**  Version 0 refuses what is over a limit.  The legacy format refuses it only
where a count of the header overflows or a list is too long for its length to be written
(`over_limit_refused_iff`).  What it returns otherwise is not what was asked for: some key has the
index of the payer (`exists_keyAt_payer`), or the text of the transaction does not decode to it
(`decode_ne_of_signers`).
-/

namespace Paymaster

open Wire (lengthLimit)

/-! ## Counting keys -/

/-- The keys that must sign. -/
def signersOf (payer : PublicKey) (ixs : List Instruction) : List PublicKey :=
  (distinctKeys payer ixs).filter fun k => MustSign payer ixs k

/-- The keys that neither sign nor may be written. -/
def readersOf (payer : PublicKey) (ixs : List Instruction) : List PublicKey :=
  (distinctKeys payer ixs).filter fun k => ¬ MustSign payer ixs k ∧ ¬ MayBeWritten payer ixs k

/-- The keys that some instructions mention, each once. -/
def mentionedKeys (ixs : List Instruction) : List PublicKey :=
  (ixs.flatMap Instruction.keys).dedup

/-- The payer is the 257th key: the instructions mention 256 others. -/
def OneKeyTooMany (payer : PublicKey) (ixs : List Instruction) : Prop :=
  payer ∉ mentionedKeys ixs ∧ (mentionedKeys ixs).length = 256

/-- Every list is short enough for its length to be written. -/
def Short (payer : PublicKey) (ixs : List Instruction) : Prop :=
  (distinctKeys payer ixs).length ≤ lengthLimit ∧ ixs.length ≤ lengthLimit
    ∧ ∀ ix ∈ ixs, ix.accounts.length ≤ lengthLimit ∧ ix.data.length ≤ lengthLimit

/-- The instructions mention more keys than an index can number, or a legacy message has more
signers than its first byte can tell from another format. -/
def OverLimit (format : Format) (payer : PublicKey) (ixs : List Instruction) : Prop :=
  256 < (distinctKeys payer ixs).length
    ∨ (format = .legacy ∧ 127 < (signersOf payer ixs).length)

variable {payer k : PublicKey} {ixs : List Instruction}

lemma mem_distinctKeys : k ∈ distinctKeys payer ixs ↔ k = payer ∨ ∃ ix ∈ ixs, k ∈ ix.keys := by
  rw [distinctKeys, List.mem_dedup, List.mem_cons, List.mem_flatMap]

/-- Where the instructions mention few enough keys, only the payer can be too many. -/
lemma length_distinctKeys_le (hfew : (mentionedKeys ixs).length ≤ 256)
    (hroom : ¬ OneKeyTooMany payer ixs) : (distinctKeys payer ixs).length ≤ 256 := by
  by_cases hpayer : payer ∈ ixs.flatMap Instruction.keys
  · rw [distinctKeys, List.dedup_cons_of_mem hpayer]
    exact hfew
  · have hnew : payer ∉ mentionedKeys ixs := by rwa [mentionedKeys, List.mem_dedup]
    have hless : (mentionedKeys ixs).length ≠ 256 := fun hlength => hroom ⟨hnew, hlength⟩
    rw [distinctKeys, List.dedup_cons_of_notMem hpayer, List.length_cons]
    exact Nat.lt_of_le_of_ne hfew hless

lemma length_distinctKeys_of_oneKeyTooMany (h : OneKeyTooMany payer ixs) :
    (distinctKeys payer ixs).length = 257 := by
  obtain ⟨hnew, hlength⟩ := h
  rw [mentionedKeys, List.mem_dedup] at hnew
  rw [distinctKeys, List.dedup_cons_of_notMem hnew, List.length_cons]
  exact congrArg Nat.succ hlength

/-- A key that an account gives a role is mentioned. -/
lemma mem_distinctKeys_of_role {role : AccountRef → Bool}
    (h : k = payer ∨ ∃ ix ∈ ixs, ∃ a ∈ ix.accounts, a.key = k ∧ role a = true) :
    k ∈ distinctKeys payer ixs := by
  rw [mem_distinctKeys]
  obtain rfl | ⟨ix, hix, a, ha, rfl, -⟩ := h
  · exact Or.inl rfl
  · exact Or.inr ⟨ix, hix, List.mem_cons_of_mem _ (List.mem_map_of_mem ha)⟩

lemma mem_signersOf : k ∈ signersOf payer ixs ↔ MustSign payer ixs k := by
  rw [signersOf, List.mem_filter, decide_eq_true_eq]
  exact and_iff_right_of_imp mem_distinctKeys_of_role

lemma mem_readersOf :
    k ∈ readersOf payer ixs ↔ k ∈ distinctKeys payer ixs ∧ ¬ MustSign payer ixs k
      ∧ ¬ MayBeWritten payer ixs k := by
  rw [readersOf, List.mem_filter, decide_eq_true_eq]

lemma length_signersOf_le : (signersOf payer ixs).length ≤ (distinctKeys payer ixs).length :=
  List.length_filter_le _ _

namespace Message

open KeyTable (keysOf_nodup)

variable {legacy : Bool} {blockhash : Blockhash} {m : Message}

/-! ## When compiling gives a message -/

/-- Two lists without repetition and with the same members are of one length. -/
lemma length_eq_of_mem_iff {xs ys : List PublicKey} (hx : xs.Nodup) (hy : ys.Nodup)
    (h : ∀ k, k ∈ xs ↔ k ∈ ys) : xs.length = ys.length :=
  ((List.perm_ext_iff_of_nodup hx hy).mpr h).length_eq

lemma length_signerKeys :
    (signerKeys payer (KeyTable.ofInstructions ixs)).length = (signersOf payer ixs).length := by
  have htable := KeyTable.ofInstructions_summarises ixs
  have hnodup := (List.nodup_append.mp (nodup_keys htable.ordered payer)).1
  refine length_eq_of_mem_iff hnodup ((List.nodup_dedup _).filter _) fun k => ?_
  rw [Layout.mem_signerKeys, htable.signs, asksFor_uses_iff rfl, mem_signersOf]
  rfl

lemma mem_readonly :
    k ∈ (KeyTable.ofInstructions ixs).keysOf payer ⟨false, false⟩ ↔ k ∈ readersOf payer ixs := by
  have htable := KeyTable.ofInstructions_summarises ixs
  rw [KeyTable.mem_keysOf, htable.ordered.mem_iff, htable.keys, htable.signs, htable.written,
    asksFor_uses_iff rfl, asksFor_uses_iff rfl, List.map_flatMap, mem_readersOf, mem_distinctKeys,
    MustSign, MayBeWritten]
  simp only [Instruction.map_uses, List.mem_flatMap, Bool.false_eq_true, iff_false, not_or]
  tauto

lemma length_readonly :
    ((KeyTable.ofInstructions ixs).keysOf payer ⟨false, false⟩).length
      = (readersOf payer ixs).length :=
  length_eq_of_mem_iff (keysOf_nodup (KeyTable.ofInstructions_summarises ixs).ordered payer _)
    ((List.nodup_dedup _).filter _) fun _ => mem_readonly

/-- Some byte holds every count below 256. -/
lemma exists_byte {n : ℕ} (hn : n < 256) : ∃ b : UInt8, b.toNat = n :=
  ⟨UInt8.ofNat n, UInt8.toNat_ofNat_of_lt' hn⟩

/-- The layout of some instructions, when one byte holds the number of signers and that of the keys
that are only read: no other count is greater than these. -/
lemma exists_layout (hsigners : (signersOf payer ixs).length < 256)
    (hreaders : (readersOf payer ixs).length < 256) :
    ∃ header keys, Layout payer (KeyTable.ofInstructions ixs) header keys := by
  rw [← length_signerKeys] at hsigners
  rw [← length_readonly] at hreaders
  have hsigned : ((KeyTable.ofInstructions ixs).keysOf payer ⟨true, false⟩).length < 256 := by
    rw [signerKeys, List.length_append] at hsigners
    omega
  obtain ⟨required, hrequired⟩ := exists_byte hsigners
  obtain ⟨readonlySigned, hreadonlySigned⟩ := exists_byte hsigned
  obtain ⟨readonlyUnsigned, hreadonlyUnsigned⟩ := exists_byte hreaders
  exact ⟨⟨required, readonlySigned, readonlyUnsigned⟩, _, rfl, hrequired, hreadonlySigned,
    hreadonlyUnsigned⟩

/-- **When compiling gives a message.**  The counts of the header must fit one byte each, and
version 0 must be able to number its keys. -/
theorem compile_isOk_iff :
    (∃ m, compile legacy payer ixs blockhash = .ok m)
      ↔ (signersOf payer ixs).length < 256 ∧ (readersOf payer ixs).length < 256
        ∧ (legacy = false → (distinctKeys payer ixs).length ≤ 256) := by
  constructor
  · rintro ⟨m, hm⟩
    obtain ⟨hlayout, hfew, -⟩ := compile_eq_ok_iff.mp hm
    rw [hlayout.length_keys] at hfew
    refine ⟨?_, ?_, hfew⟩
    · rw [← length_signerKeys, ← hlayout.required]
      exact UInt8.toNat_lt _
    · rw [← length_readonly, ← hlayout.readonlyUnsigned]
      exact UInt8.toNat_lt _
  · rintro ⟨hsigners, hreaders, hfew⟩
    obtain ⟨header, keys, hlayout⟩ := exists_layout hsigners hreaders
    rw [← hlayout.length_keys] at hfew
    exact ⟨{ format := _, header, keys, blockhash, instructions := ixs.map (compileOne keys) },
      compile_eq_ok_iff.mpr ⟨hlayout, hfew, rfl, rfl, rfl⟩⟩

/-- A compiled message has as many required signers as there are keys that must sign. -/
lemma required_of_compile (h : compile legacy payer ixs blockhash = .ok m) :
    m.header.required.toNat = (signersOf payer ixs).length := by
  rw [(compile_eq_ok_iff.mp h).1.required, length_signerKeys]

/-- **When a compiled message can be written.** -/
lemma fits_of_compile_iff (h : compile legacy payer ixs blockhash = .ok m) :
    m.fits = true ↔ Short payer ixs := by
  obtain ⟨-, -, hformat, -, hinstructions⟩ := compile_eq_ok_iff.mp h
  have hlookups : m.lookups = [] := by
    cases legacy <;> simp [lookups, hformat]
  rw [fits_iff, hlookups, BodyFits, length_keys_of_compile h, hinstructions, Short]
  simp [compileOne]

/-! ## Beyond the limits -/

/-- **The index of the 257th key is cut to that of the payer.** -/
lemma exists_keyAt_payer (h : compile legacy payer ixs blockhash = .ok m)
    (hmany : 256 < (distinctKeys payer ixs).length) :
    ∃ k ≠ payer, (∃ ix ∈ ixs, k ∈ ix.keys) ∧ m.keyAt (indexOf m.keys k) = .ok payer := by
  obtain ⟨hlayout, -⟩ := compile_eq_ok_iff.mp h
  have hnodup := hlayout.nodup (KeyTable.ofInstructions_summarises ixs).ordered
  rw [← hlayout.length_keys] at hmany
  have hfirst := getElem?_zero_keys_of_compile h
  have hne : m.keys[256] ≠ payer := by
    obtain ⟨hpos, hzero⟩ := List.getElem?_eq_some_iff.mp hfirst
    rw [← hzero, Ne, hnodup.getElem_inj_iff]
    decide
  refine ⟨m.keys[256], hne, ?_, ?_⟩
  · exact ((mem_keys_of_compile h).mp (List.getElem_mem hmany)).resolve_left hne
  · have hindex : (indexOf m.keys m.keys[256]).toNat = 0 := by
      rw [indexOf, hnodup.idxOf_getElem]
      rfl
    rw [keyAt, hindex, hfirst]

end Message

namespace Transaction

variable {tx tx' : Transaction} {ix : Instruction} {before : List Instruction} {e : Encoding}

/-- The text of a transaction with one more instruction. -/
def appendedText (e : Encoding) (tx : Transaction) (ix : Instruction) : Except Error String := do
  encode e (← tx.append ix)

lemma encode_eq_ok_iff {text : String} :
    encode e tx = .ok text ↔ tx.fits = true ∧ text = e.textOf tx.toBytes := by
  unfold encode
  split_ifs with hfits <;> simp [hfits, eq_comm]

/-- **A legacy transaction with 128 signers or more is not what its text decodes to.** -/
lemma decode_ne_of_signers {text : String} (hformat : tx.message.format = .legacy)
    (hmany : 127 < tx.message.header.required.toNat) (h : encode e tx = .ok text) :
    decode e (.str text) ≠ .ok tx := by
  obtain ⟨-, rfl⟩ := encode_eq_ok_iff.mp h
  rw [Ne, decode_textOf_iff]
  rintro ⟨⟨-, hfew⟩, -⟩
  have := hfew hformat
  omega

/-- **When appending gives a transaction.** -/
lemma append_isOk_iff (hpayer : tx.message.keys.head? = some payer)
    (hbefore : tx.message.expand = .ok before) :
    (∃ tx', tx.append ix = .ok tx')
      ↔ (signersOf payer (before ++ [ix])).length < 256
        ∧ (readersOf payer (before ++ [ix])).length < 256
        ∧ (tx.message.format ≠ .legacy → (distinctKeys payer (before ++ [ix])).length ≤ 256) := by
  have hcompile : (∃ m, Message.compile (tx.message.format = .legacy) payer (before ++ [ix])
      tx.message.blockhash = .ok m) ↔ _ := Message.compile_isOk_iff
  rw [decide_eq_false_iff_not] at hcompile
  simp only [append_eq_ok_iff_of_known hpayer hbefore]
  rw [exists_comm]
  simpa using hcompile

/-- **When appending gives a text.** -/
theorem appendedText_isOk_iff (hpayer : tx.message.keys.head? = some payer)
    (hbefore : tx.message.expand = .ok before) :
    (∃ text, tx.appendedText e ix = .ok text)
      ↔ (signersOf payer (before ++ [ix])).length < 256
        ∧ (readersOf payer (before ++ [ix])).length < 256
        ∧ (tx.message.format ≠ .legacy → (distinctKeys payer (before ++ [ix])).length ≤ 256)
        ∧ Short payer (before ++ [ix]) := by
  simp only [appendedText, Rpc.bind_eq_ok_iff]
  constructor
  · rintro ⟨text, tx', htx', htext⟩
    obtain ⟨hsigners, hreaders, hfew⟩ := (append_isOk_iff hpayer hbefore).mp ⟨tx', htx'⟩
    obtain ⟨m, hm, rfl⟩ := (append_eq_ok_iff_of_known hpayer hbefore).mp htx'
    obtain ⟨hfits, -⟩ := encode_eq_ok_iff.mp htext
    rw [fits_unsigned, Message.fits_of_compile_iff hm] at hfits
    exact ⟨hsigners, hreaders, hfew, hfits⟩
  · rintro ⟨hsigners, hreaders, hfew, hshort⟩
    obtain ⟨tx', htx'⟩ := (append_isOk_iff hpayer hbefore).mpr ⟨hsigners, hreaders, hfew⟩
    obtain ⟨m, hm, rfl⟩ := (append_eq_ok_iff_of_known hpayer hbefore).mp htx'
    rw [← Message.fits_of_compile_iff hm, ← fits_unsigned] at hshort
    exact ⟨_, _, htx', encode_eq_ok_iff.mpr ⟨hshort, rfl⟩⟩

/-- A call fails when it does not succeed. -/
lemma exists_error_iff {α ε : Type} (result : Except ε α) :
    (∃ err, result = .error err) ↔ ¬ ∃ value, result = .ok value := by
  cases result <;> simp

/-- Version 0 is over a limit only where it has too many keys, so what gets by is legacy. -/
lemma legacy_of_append (hpayer : tx.message.keys.head? = some payer)
    (hbefore : tx.message.expand = .ok before)
    (hover : OverLimit tx.message.format payer (before ++ [ix])) (h : tx.append ix = .ok tx') :
    tx.message.format = .legacy := by
  by_contra hformat
  obtain ⟨-, -, hfew⟩ := (append_isOk_iff hpayer hbefore).mp ⟨tx', h⟩
  have := hfew hformat
  obtain hmany | ⟨hlegacy, -⟩ := hover
  · omega
  · exact hformat hlegacy

/-- **Over a limit, the legacy format does not refuse.**

Say `before` are the instructions of a transaction, and with one more they are over a limit of the
wire format.  Appending it and writing the result fails in version 0, and in the legacy format only
where more than 255 keys sign, more than 255 are only read, or some list is too long for its length
to be written.  What a legacy transaction becomes otherwise is wrong.  Above 256 keys, some
mentioned key other than the payer has an index that leads to the payer; above 127 signers, the text
of the result does not decode to it. -/
theorem over_limit_refused_iff (hpayer : tx.message.keys.head? = some payer)
    (hbefore : tx.message.expand = .ok before)
    (hover : OverLimit tx.message.format payer (before ++ [ix])) :
    ((∃ err, tx.appendedText e ix = .error err)
      ↔ tx.message.format ≠ .legacy ∨ 255 < (signersOf payer (before ++ [ix])).length
        ∨ 255 < (readersOf payer (before ++ [ix])).length ∨ ¬ Short payer (before ++ [ix]))
    ∧ ∀ tx', tx.append ix = .ok tx' →
      (256 < (distinctKeys payer (before ++ [ix])).length →
        ∃ k ≠ payer, (∃ mention ∈ before ++ [ix], k ∈ mention.keys)
          ∧ tx'.message.keyAt (Message.indexOf tx'.message.keys k) = .ok payer)
      ∧ (127 < (signersOf payer (before ++ [ix])).length →
        ∀ text, encode e tx' = .ok text → decode e (.str text) ≠ .ok tx') := by
  refine ⟨?_, fun tx' h => ?_⟩
  · rw [exists_error_iff, appendedText_isOk_iff hpayer hbefore]
    by_cases hformat : tx.message.format = .legacy
    · have hsigners : 255 < (signersOf payer (before ++ [ix])).length ↔ _ := Nat.not_lt.symm
      have hreaders : 255 < (readersOf payer (before ++ [ix])).length ↔ _ := Nat.not_lt.symm
      rw [hsigners, hreaders]
      tauto
    · have hmany := hover.resolve_right fun h => hformat h.1
      refine iff_of_true ?_ (Or.inl hformat)
      rintro ⟨-, -, hfew, -⟩
      exact absurd (hfew hformat) (by omega)
  · have hformat := legacy_of_append hpayer hbefore hover h
    obtain ⟨_, _, m, hpayer', hbefore', hm, rfl⟩ := append_eq_ok_iff.mp h
    obtain rfl := Option.some.inj (hpayer.symm.trans hpayer')
    obtain rfl := Except.ok.inj (hbefore.symm.trans hbefore')
    refine ⟨Message.exists_keyAt_payer hm, fun hmany text => decode_ne_of_signers ?_ ?_⟩
    · rw [unsigned, format_of_recompile hbefore hm, hformat]
    · rwa [unsigned, Message.required_of_compile hm]

/-! ## A crowded instruction -/

/-- An instruction that has a number of accounts written, and signing if asked for. -/
def crowd (n : ℕ) (sign : Bool) : Instruction :=
  { program := Block.ofNat 32 8
    accounts := (List.range' 1000 n).map fun i => ⟨Block.ofNat 32 i, sign, true⟩
    data := [] }

/-- A legacy transaction with a payer and no instructions. -/
def bareTransaction : Transaction :=
  unsigned
    { format := .legacy
      header := ⟨1, 0, 0⟩
      keys := [Block.ofNat 32 9]
      blockhash := Block.zero 32
      instructions := [] }

/-- The keys that spell some small numbers are as distinct as these. -/
lemma nodup_map_ofNat {numbers : List ℕ} (hnodup : numbers.Nodup) (hsmall : ∀ n ∈ numbers, n < 2000) :
    (numbers.map (Block.ofNat 32)).Nodup := by
  refine hnodup.map_on fun a ha b hb hab => ?_
  have hroom : ∀ n ∈ numbers, n % Nat.pow 256 32 = n := fun n hn =>
    Nat.mod_eq_of_lt ((hsmall n hn).trans (by decide))
  have hbytes := congrArg (fun k : PublicKey => Bytes.ofLittleEndian k.bytes.reverse) hab
  simp only [Block.ofNat, Bytes.bigEndian, List.reverse_reverse,
    Bytes.ofLittleEndian_littleEndian] at hbytes
  rwa [hroom a ha, hroom b hb] at hbytes

/-- The crowded instruction mentions its program and its accounts. -/
lemma keys_crowd (n : ℕ) (sign : Bool) :
    [crowd n sign].flatMap Instruction.keys
      = Block.ofNat 32 8 :: (List.range' 1000 n).map (Block.ofNat 32) := by
  simp [Instruction.keys, crowd, Function.comp_def]

/-- The payer, the program and the accounts are all distinct. -/
lemma nodup_crowd {n : ℕ} (hn : n ≤ 255) :
    (Block.ofNat 32 9 :: Block.ofNat 32 8 :: (List.range' 1000 n).map (Block.ofNat 32)).Nodup := by
  have hnodup : (9 :: 8 :: List.range' 1000 n).Nodup := by
    simp [List.nodup_range']
  refine nodup_map_ofNat hnodup ?_
  simp only [List.mem_cons, List.mem_range'_1]
  omega

lemma length_distinctKeys_crowd {n : ℕ} (hn : n ≤ 255) (sign : Bool) :
    (distinctKeys (Block.ofNat 32 9) [crowd n sign]).length = n + 2 := by
  rw [distinctKeys, keys_crowd, List.dedup_eq_self.mpr (nodup_crowd hn)]
  simp

lemma length_mentionedKeys_crowd {n : ℕ} (hn : n ≤ 255) (sign : Bool) :
    (mentionedKeys [crowd n sign]).length = n + 1 := by
  rw [mentionedKeys, keys_crowd, List.dedup_eq_self.mpr (List.nodup_cons.mp (nodup_crowd hn)).2]
  simp

lemma mem_accounts_crowd {n : ℕ} {sign : Bool} {a : AccountRef} (h : a ∈ (crowd n sign).accounts) :
    a.isSigner = sign ∧ a.isWritable = true := by
  obtain ⟨i, -, rfl⟩ := List.mem_map.mp h
  exact ⟨rfl, rfl⟩

/-- Its accounts are written, so its program alone may be only read. -/
lemma length_readersOf_crowd (n : ℕ) (sign : Bool) :
    (readersOf (Block.ofNat 32 9) [crowd n sign]).length ≤ 1 := by
  have hsub : readersOf (Block.ofNat 32 9) [crowd n sign] ⊆ [Block.ofNat 32 8] := by
    intro k hk
    obtain ⟨hmem, -, hwritten⟩ := mem_readersOf.mp hk
    obtain rfl | ⟨ix, hix, hmention⟩ := mem_distinctKeys.mp hmem
    · exact absurd (Or.inl rfl) hwritten
    · obtain rfl := List.mem_singleton.mp hix
      obtain rfl | haccount := List.mem_cons.mp hmention
      · exact List.mem_cons_self
      · obtain ⟨a, ha, rfl⟩ := List.mem_map.mp haccount
        exact absurd (Or.inr ⟨_, hix, a, ha, rfl, (mem_accounts_crowd ha).2⟩) hwritten
  exact (List.subperm_of_subset ((List.nodup_dedup _).filter _) hsub).length_le

/-- Without the accounts, the payer alone signs. -/
lemma length_signersOf_crowd_false (n : ℕ) :
    (signersOf (Block.ofNat 32 9) [crowd n false]).length ≤ 1 := by
  have hsub : signersOf (Block.ofNat 32 9) [crowd n false] ⊆ [Block.ofNat 32 9] := by
    intro k hk
    obtain rfl | ⟨ix, hix, a, ha, -, hsigns⟩ := mem_signersOf.mp hk
    · exact List.mem_cons_self
    · obtain rfl := List.mem_singleton.mp hix
      rw [(mem_accounts_crowd ha).1] at hsigns
      exact Bool.noConfusion hsigns
  exact (List.subperm_of_subset ((List.nodup_dedup _).filter _) hsub).length_le

/-- With them, all but the program sign. -/
lemma lt_length_signersOf_crowd_true {n : ℕ} (hn : n ≤ 255) :
    n < (signersOf (Block.ofNat 32 9) [crowd n true]).length := by
  have hsub : (9 :: List.range' 1000 n).map (Block.ofNat 32)
      ⊆ signersOf (Block.ofNat 32 9) [crowd n true] := by
    intro k hk
    obtain ⟨number, hnumber, rfl⟩ := List.mem_map.mp hk
    rw [mem_signersOf]
    obtain rfl | hrange := List.mem_cons.mp hnumber
    · exact Or.inl rfl
    · exact Or.inr ⟨_, List.mem_singleton_self _, _, List.mem_map_of_mem hrange, rfl, rfl⟩
  have hnodup : (9 :: List.range' 1000 n).Nodup := by
    simp [List.nodup_range']
  have hle := (List.subperm_of_subset (nodup_map_ofNat hnodup ?_) hsub).length_le
  · simpa using hle
  · simp only [List.mem_cons, List.mem_range'_1]
    omega

lemma head?_bareTransaction :
    bareTransaction.message.keys.head? = some (Block.ofNat 32 9) := rfl

lemma expand_bareTransaction : bareTransaction.message.expand = .ok [] := rfl

/-- Up to 255 accounts, a legacy transaction takes it in and can be written. -/
lemma appendedText_crowd {n : ℕ} (hn : n ≤ 255) (sign : Bool)
    (hsigners : (signersOf (Block.ofNat 32 9) [crowd n sign]).length < 256) :
    ∃ text, bareTransaction.appendedText .base64 (crowd n sign) = .ok text := by
  have hreaders := length_readersOf_crowd n sign
  have hshort : Short (Block.ofNat 32 9) [crowd n sign] := by
    rw [Short, length_distinctKeys_crowd hn, lengthLimit]
    simp only [List.forall_mem_singleton, crowd, List.length_map, List.length_range',
      List.length_cons, List.length_nil]
    omega
  exact (appendedText_isOk_iff head?_bareTransaction expand_bareTransaction).mpr
    ⟨hsigners, hreaders.trans_lt (by decide), fun h => absurd rfl h, hshort⟩

/-- **Too many keys are let through.**  The payer, 255 accounts that are written and a program are
257 keys, and the legacy format makes a text of them. -/
theorem crowded_keys_are_let_through :
    bareTransaction.message.format = .legacy
      ∧ bareTransaction.message.keys.head? = some (Block.ofNat 32 9)
      ∧ bareTransaction.message.expand = .ok []
      ∧ 256 < (distinctKeys (Block.ofNat 32 9) ([] ++ [crowd 255 false])).length
      ∧ ∃ text, bareTransaction.appendedText .base64 (crowd 255 false) = .ok text := by
  have hkeys := length_distinctKeys_crowd (le_refl 255) false
  have hsigners := length_signersOf_crowd_false 255
  refine ⟨rfl, rfl, rfl, ?_, appendedText_crowd (le_refl 255) false (by omega)⟩
  rw [List.nil_append]
  omega

/-- The payer and 127 accounts are 128 signers, and what the legacy format makes of them is not what
it decodes to. -/
theorem over_limit_refused_iff_of_signers :
    OverLimit bareTransaction.message.format (Block.ofNat 32 9) [crowd 127 true]
      ∧ ∃ tx' text, bareTransaction.append (crowd 127 true) = .ok tx'
        ∧ encode .base64 tx' = .ok text ∧ decode .base64 (.str text) ≠ .ok tx' := by
  have hfew : 127 ≤ 255 := by decide
  have hsigners := lt_length_signersOf_crowd_true hfew
  have hover : OverLimit bareTransaction.message.format (Block.ofNat 32 9) [crowd 127 true] :=
    Or.inr ⟨rfl, hsigners⟩
  have hkeys := length_distinctKeys_crowd hfew true
  have hle : (signersOf (Block.ofNat 32 9) [crowd 127 true]).length ≤ _ := length_signersOf_le
  obtain ⟨text, htext⟩ := appendedText_crowd hfew true (by omega)
  obtain ⟨tx', htx', hencode⟩ := Rpc.bind_eq_ok_iff.mp htext
  obtain ⟨-, hwrong⟩ := over_limit_refused_iff head?_bareTransaction expand_bareTransaction hover
  exact ⟨hover, tx', text, htx', hencode, (hwrong tx' htx').2 hsigners text hencode⟩

end Transaction

end Paymaster
