import Mathlib
import Paymaster.Proofs.Limits
import Paymaster.Proofs.Sponsor

/-!
# What is emitted is well formed

A message that was read may hold anything: a header that counts more keys than there are, a key
twice, an index beyond the table.  Nothing of this survives compiling, since a message is laid out
anew for the instructions.

* `Message.WellFormed` is what a ledger asks of a message from a payer for some instructions.
  `Transaction.WellFormed` adds a place for each signature.
* **Roles.**  `roleOf` is what the instructions ask of a key.  The groups of a layout are those of
  the roles (`keysInRole_of_compile`), and this is where header and order meet.
* **Indices.**  One byte numbers 256 keys.  A 257th has the index of the payer, which does no harm
  unless it is called (`wellFormed_of_compile`, `not_wellFormed_of_last`).

The main statement is `emitted_wellFormed`, about all that is appended to and all that a sponsor
signs.
-/

namespace Paymaster

open Rpc Rpc.Action

/-! ## Roles -/

/-- What a payer and some instructions ask of a key. -/
def roleOf (payer : PublicKey) (ixs : List Instruction) (k : PublicKey) : Usage :=
  ⟨decide (MustSign payer ixs k), decide (MayBeWritten payer ixs k)⟩

/-- A group of keys is asked for in the role that it is named for. -/
lemma roleOf_of_mem_keysOf {payer k : PublicKey} {ixs : List Instruction} {usage : Usage}
    (h : k ∈ (KeyTable.ofInstructions ixs).keysOf payer usage) : roleOf payer ixs k = usage := by
  have htable := KeyTable.ofInstructions_summarises ixs
  obtain ⟨hne, hmem⟩ := KeyTable.mem_keysOf.mp h
  obtain ⟨-, hsigns, hwritten⟩ := htable.ordered.mem_iff.mp hmem
  rw [htable.signs, asksFor_uses_iff rfl] at hsigns
  rw [htable.written, asksFor_uses_iff rfl] at hwritten
  have hsigner : MustSign payer ixs k ↔ usage.signs = true := (or_iff_right hne).trans hsigns
  have hwriter : MayBeWritten payer ixs k ↔ usage.written = true :=
    (or_iff_right hne).trans hwritten
  simp only [roleOf, hsigner, hwriter, Bool.decide_eq_true]

/-- The keys of a group in some role are all of it, or none. -/
lemma filter_keysOf (payer : PublicKey) (ixs : List Instruction) (group usage : Usage) :
    ((KeyTable.ofInstructions ixs).keysOf payer group).filter (roleOf payer ixs · = usage)
      = if group = usage then (KeyTable.ofInstructions ixs).keysOf payer group else [] := by
  split_ifs with heq
  · rw [List.filter_eq_self]
    intro k hk
    rw [roleOf_of_mem_keysOf hk, decide_eq_true heq]
  · rw [List.filter_eq_nil_iff]
    intro k hk
    rw [roleOf_of_mem_keysOf hk, decide_eq_true_eq]
    exact heq

namespace Message

/-- The keys behind the first that a payer and some instructions ask for in a role. -/
def keysInRole (m : Message) (payer : PublicKey) (ixs : List Instruction) (usage : Usage) :
    List PublicKey :=
  m.keys.tail.filter (roleOf payer ixs · = usage)

/-- **A well-formed message**, from a payer for some instructions. -/
structure WellFormed (payer : PublicKey) (ixs : List Instruction) (m : Message) : Prop where
  /-- No key stands twice. -/
  nodup : m.keys.Nodup
  /-- The keys are the payer's and those that the instructions mention. -/
  mem_keys : ∀ k, k ∈ m.keys ↔ k = payer ∨ ∃ ix ∈ ixs, k ∈ ix.keys
  /-- The payer comes first; then those that sign and are written, those that sign, those that are
  written, and the rest. -/
  grouped : m.keys = payer :: m.keysInRole payer ixs ⟨true, true⟩
    ++ m.keysInRole payer ixs ⟨true, false⟩ ++ m.keysInRole payer ixs ⟨false, true⟩
    ++ m.keysInRole payer ixs ⟨false, false⟩
  /-- In each group the bytes ascend. -/
  ascending : ∀ usage, (m.keysInRole payer ixs usage).Pairwise fun a b => a.bytes < b.bytes
  /-- The header counts the signers. -/
  required : m.header.required.toNat = 1 + (m.keysInRole payer ixs ⟨true, true⟩).length
    + (m.keysInRole payer ixs ⟨true, false⟩).length
  /-- The header counts the signers that are not written. -/
  readonlySigned : m.header.readonlySigned.toNat = (m.keysInRole payer ixs ⟨true, false⟩).length
  /-- The header counts the other keys that are not written. -/
  readonlyUnsigned : m.header.readonlyUnsigned.toNat
    = (m.keysInRole payer ixs ⟨false, false⟩).length
  /-- Some signer is written. -/
  readonlySigned_lt : m.header.readonlySigned < m.header.required
  /-- The header counts no more keys than there are. -/
  counted : m.header.required.toNat + m.header.readonlyUnsigned.toNat ≤ m.keys.length
  /-- Every index is one of a key. -/
  index_lt : ∀ ix ∈ m.instructions,
    ix.program.toNat < m.keys.length ∧ ∀ i ∈ ix.accounts, i.toNat < m.keys.length
  /-- The payer is called as a program only if an instruction does so. -/
  program_ne_zero : ∀ ix ∈ m.instructions, ix.program = 0 → ∃ call ∈ ixs, call.program = payer

variable {legacy : Bool} {payer k : PublicKey} {ixs : List Instruction} {blockhash : Blockhash}
  {m : Message}

/-! ## Compiling -/

/-- **The groups of a compiled message** are those of its layout. -/
lemma keysInRole_of_compile (h : compile legacy payer ixs blockhash = .ok m) (usage : Usage) :
    m.keysInRole payer ixs usage = (KeyTable.ofInstructions ixs).keysOf payer usage := by
  obtain ⟨hlayout, -⟩ := compile_eq_ok_iff.mp h
  rw [keysInRole, hlayout.keys_eq, signerKeys, otherKeys, List.cons_append, List.cons_append,
    List.tail_cons]
  simp only [List.filter_append, filter_keysOf]
  rcases usage with ⟨_ | _, _ | _⟩ <;> simp

/-- An index is cut to one byte. -/
lemma toNat_indexOf_eq_mod (keys : List PublicKey) (k : PublicKey) :
    (indexOf keys k).toNat = keys.idxOf k % 256 :=
  UInt8.toNat_ofNat'

/-- The index of a mentioned key is one of the table, cut or not. -/
lemma indexOf_lt (h : compile legacy payer ixs blockhash = .ok m) {ix : Instruction}
    (hix : ix ∈ ixs) (hk : k ∈ ix.keys) : (indexOf m.keys k).toNat < m.keys.length := by
  have hmem : k ∈ m.keys := (mem_keys_of_compile h).mpr (Or.inr ⟨ix, hix, hk⟩)
  rw [toNat_indexOf_eq_mod]
  exact (Nat.mod_le _ _).trans_lt (List.idxOf_lt_length_of_mem hmem)

/-- Up to the 257th key, only this one shares its index with the payer. -/
lemma eq_payer_of_indexOf (h : compile legacy payer ixs blockhash = .ok m)
    (hfew : m.keys.length ≤ 257) (hk : k ∈ m.keys) (hlast : m.keys[256]? ≠ some k)
    (hzero : indexOf m.keys k = 0) : k = payer := by
  have hat := List.getElem?_idxOf hk
  have hlt := List.idxOf_lt_length_of_mem hk
  have hcut : m.keys.idxOf k % 256 = 0 := by
    rw [← toNat_indexOf_eq_mod, hzero]
    rfl
  have hindex : m.keys.idxOf k ≠ 256 := by
    intro heq
    exact hlast (heq ▸ hat)
  rw [show m.keys.idxOf k = 0 by omega, getElem?_zero_keys_of_compile h] at hat
  exact (Option.some.inj hat).symm

/-- **Compiling gives a well-formed message**, up to the 257th key, if this one is not called. -/
theorem wellFormed_of_compile (h : compile legacy payer ixs blockhash = .ok m)
    (hfew : (distinctKeys payer ixs).length ≤ 257)
    (hlast : ∀ ix ∈ ixs, m.keys[256]? ≠ some ix.program) : WellFormed payer ixs m := by
  obtain ⟨hlayout, -, -, -, hinstructions⟩ := compile_eq_ok_iff.mp h
  have htable := KeyTable.ofInstructions_summarises ixs
  have hrole := keysInRole_of_compile h
  rw [← length_keys_of_compile h] at hfew
  have hrequired : m.header.required.toNat = 1 + (m.keysInRole payer ixs ⟨true, true⟩).length
      + (m.keysInRole payer ixs ⟨true, false⟩).length := by
    rw [hlayout.required, signerKeys, List.length_append, List.length_cons, hrole, hrole]
    omega
  have hreadonly : m.header.readonlySigned.toNat
      = (m.keysInRole payer ixs ⟨true, false⟩).length := by
    rw [hlayout.readonlySigned, hrole]
  constructor
  case nodup => exact hlayout.nodup htable.ordered
  case mem_keys => exact fun k => mem_keys_of_compile h
  case grouped =>
    rw [hrole, hrole, hrole, hrole]
    simp only [hlayout.keys_eq, signerKeys, otherKeys, List.append_assoc]
  case ascending =>
    intro usage
    rw [hrole]
    exact KeyTable.keysOf_pairwise htable.ordered payer usage
  case required => exact hrequired
  case readonlySigned => exact hreadonly
  case readonlyUnsigned => rw [hlayout.readonlyUnsigned, hrole]
  case readonlySigned_lt =>
    rw [UInt8.lt_iff_toNat_lt]
    omega
  case counted => exact counted_of_compile h
  case index_lt =>
    rw [hinstructions, List.forall_mem_map]
    intro ix hix
    refine ⟨indexOf_lt h hix List.mem_cons_self, ?_⟩
    rw [compileOne, List.forall_mem_map]
    intro a ha
    exact indexOf_lt h hix (List.mem_cons_of_mem _ (List.mem_map_of_mem ha))
  case program_ne_zero =>
    rw [hinstructions, List.forall_mem_map]
    intro ix hix hzero
    have hmem : ix.program ∈ m.keys :=
      (mem_keys_of_compile h).mpr (Or.inr ⟨ix, hix, List.mem_cons_self⟩)
    exact ⟨ix, hix, eq_payer_of_indexOf h hfew hmem (hlast ix hix) hzero⟩

/-- With at most 256 keys there is no other condition. -/
lemma wellFormed_of_compile_of_few (h : compile legacy payer ixs blockhash = .ok m)
    (hfew : (distinctKeys payer ixs).length ≤ 256) : WellFormed payer ixs m := by
  refine wellFormed_of_compile h (by omega) ?_
  intro ix _ hlast
  rw [← length_keys_of_compile h] at hfew
  obtain ⟨hlt, -⟩ := List.getElem?_eq_some_iff.mp hlast
  omega

/-- **The index of the 257th key is cut to zero.** -/
lemma program_eq_zero_of_last (h : compile legacy payer ixs blockhash = .ok m) {ix : Instruction}
    (hix : ix ∈ ixs) (hlast : m.keys[256]? = some ix.program) :
    ∃ call ∈ m.instructions, call.program = 0 := by
  obtain ⟨hlayout, -, -, -, hinstructions⟩ := compile_eq_ok_iff.mp h
  have hnodup := hlayout.nodup (KeyTable.ofInstructions_summarises ixs).ordered
  obtain ⟨hlt, hkey⟩ := List.getElem?_eq_some_iff.mp hlast
  refine ⟨compileOne m.keys ix, ?_, ?_⟩
  · rw [hinstructions]
    exact List.mem_map_of_mem hix
  · rw [compileOne, indexOf, ← hkey, hnodup.idxOf_getElem]
    rfl

/-- **Calling the 257th key breaks a message**, since the payer is called instead. -/
lemma not_wellFormed_of_last (h : compile legacy payer ixs blockhash = .ok m)
    (hnew : payer ∉ mentionedKeys ixs) {ix : Instruction} (hix : ix ∈ ixs)
    (hlast : m.keys[256]? = some ix.program) : ¬ WellFormed payer ixs m := by
  intro hformed
  obtain ⟨compiled, hcompiled, hzero⟩ := program_eq_zero_of_last h hix hlast
  obtain ⟨call, hcall, rfl⟩ := hformed.program_ne_zero compiled hcompiled hzero
  refine hnew (List.mem_dedup.mpr (List.mem_flatMap.mpr ⟨call, hcall, ?_⟩))
  exact List.mem_cons_self

end Message

namespace Transaction

/-! ## Making a transaction of it -/

/-- **A well-formed transaction** has a well-formed message, and a place for each signature. -/
structure WellFormed (payer : PublicKey) (ixs : List Instruction) (tx : Transaction) : Prop where
  message : tx.message.WellFormed payer ixs
  signatures : tx.signatures.length = tx.message.header.required.toNat

/-- A text is that of a well-formed transaction. -/
def WellFormedText (payer : PublicKey) (ixs : List Instruction) (text : String) : Prop :=
  ∃ tx, encode .base64 tx = .ok text ∧ decode .base64 (.str text) = .ok tx
    ∧ tx.WellFormed payer ixs

variable {payer : PublicKey} {ixs : List Instruction} {m : Message}

lemma unsigned_wellFormed (h : m.WellFormed payer ixs) : (unsigned m).WellFormed payer ixs where
  message := h
  signatures := List.length_replicate

/-- Signing leaves no place out, since there is a key for each signer. -/
lemma partiallySign_wellFormed (h : m.WellFormed payer ixs) (seeds : List Crypto.Ed25519.Seed) :
    (partiallySign m seeds).WellFormed payer ixs where
  message := h
  signatures := by
    have hcounted := h.counted
    simp only [partiallySign, List.length_map, List.length_take]
    omega

/-- **Appending to anything** gives something well formed, unless it has one key too many and calls
it. -/
lemma append_wellFormed_iff {tx tx' : Transaction} {ix : Instruction}
    (h : tx.append ix = .ok tx') :
    ∃ payer before, tx.message.keys.head? = some payer ∧ tx.message.expand = .ok before
      ∧ ((mentionedKeys (before ++ [ix])).length ≤ 256 →
        (tx'.WellFormed payer (before ++ [ix]) ↔ ¬ (OneKeyTooMany payer (before ++ [ix])
          ∧ ∃ call ∈ before ++ [ix], tx'.message.keys[256]? = some call.program))) := by
  obtain ⟨payer, before, m, hpayer, hbefore, hcompile, rfl⟩ := append_eq_ok_iff.mp h
  refine ⟨payer, before, hpayer, hbefore, ?_⟩
  intro hfew
  constructor
  · rintro hformed ⟨hmany, call, hcall, hlast⟩
    exact Message.not_wellFormed_of_last hcompile hmany.1 hcall hlast hformed.message
  · intro hroom
    refine unsigned_wellFormed ?_
    by_cases hmany : OneKeyTooMany payer (before ++ [ix])
    · refine Message.wellFormed_of_compile hcompile ?_ ?_
      · exact (length_distinctKeys_of_oneKeyTooMany hmany).le
      · intro call hcall hlast
        exact hroom ⟨hmany, call, hcall, hlast⟩
    · exact Message.wellFormed_of_compile_of_few hcompile (length_distinctKeys_le hfew hmany)

end Transaction

namespace Sponsor

/-- **Whatever a sponsor signs** is well formed, as version 0 numbers all its keys. -/
lemma sign_wellFormed {sp : Sponsor} {asked : List Instruction} {hash : Blockhash} {text : String}
    (h : sp.sign asked hash = .ok text) : Transaction.WellFormedText sp.payer asked text := by
  obtain ⟨m, hcompile, -, hencode, hdecode⟩ := sign_eq_ok h
  obtain ⟨-, hfew, -⟩ := Message.compile_eq_ok_iff.mp hcompile
  rw [Message.length_keys_of_compile hcompile] at hfew
  have hm := Message.wellFormed_of_compile_of_few hcompile (hfew rfl)
  exact ⟨_, hencode, hdecode, Transaction.partiallySign_wellFormed hm [sp.wallet]⟩

end Sponsor

/-- **Whatever is emitted is well formed**, up to the 257th key.

* Whatever a transaction holds, appending an instruction to it gives a transaction for the
  instructions of the old one and the new one.  If these mention at most 256 keys, it is well formed,
  with one exception: the payer is a 257th key, and an instruction calls the last of the keys.
* Building asks for a block hash and fails, or it asks for an estimate too.  The transaction in this
  request is well formed for the budget and the given instructions, and the one that is returned,
  if any, for these and the payment. -/
theorem emitted_wellFormed [Stack] (tx : Transaction) (ix : Instruction) (sp : Sponsor)
    (ixs : List Instruction) (s : Exchange) :
    (∀ tx', tx.append ix = .ok tx' →
      ∃ payer before, tx.message.keys.head? = some payer ∧ tx.message.expand = .ok before
        ∧ ((mentionedKeys (before ++ [ix])).length ≤ 256 →
          (tx'.WellFormed payer (before ++ [ix]) ↔ ¬ (OneKeyTooMany payer (before ++ [ix])
            ∧ ∃ call ∈ before ++ [ix], tx'.message.keys[256]? = some call.program))))
    ∧ ∀ (r : Except Error String) (s' : Exchange), (sp.build ixs).on s = (r, s') →
      (Attempts s s' [Sponsor.blockhashCall] ∧ ∃ err, r = .error err)
      ∨ ∃ budget unpaid, ComputeBudget.instructions sp.unitLimit sp.unitPrice = .ok budget
        ∧ Attempts s s' (sp.buildCalls unpaid)
        ∧ Transaction.WellFormedText sp.payer (budget ++ ixs) unpaid
        ∧ ∀ text, r = .ok text → ∃ fee payments, sp.Settles fee payments
          ∧ Transaction.WellFormedText sp.payer (budget ++ ixs ++ payments) text := by
  constructor
  · intro tx' h
    exact Transaction.append_wellFormed_iff h
  · intro r s' h
    by_cases hsome : ∃ record t d, (Method.getBlockhash.call []).on s = (.ok record, t)
        ∧ sp.draft ixs record = .ok d
    · rcases hsome with ⟨record, t, d, hcall, hdraft⟩
      have hposts := Sponsor.build_posts_of_draft hcall hdraft
      rcases Sponsor.asked_of_draft hdraft with ⟨budget, hbudget, hasked⟩
      rcases Sponsor.draft_eq_ok hdraft with ⟨-, hunpaid, -⟩
      rw [h] at hposts
      refine Or.inr ⟨budget, d.text, hbudget, hposts.attempts, ?_, ?_⟩
      · rw [← hasked]
        exact Sponsor.sign_wellFormed hunpaid
      · rintro text rfl
        rcases Sponsor.build_eq_ok h with ⟨record', t', d', e, u, hcall', hdraft', -, hpay⟩
        obtain ⟨rfl, rfl⟩ : record = record' ∧ t = t' := by
          simpa using hcall.symm.trans hcall'
        obtain rfl := Except.ok.inj (hdraft.symm.trans hdraft')
        rcases Sponsor.pay_eq_ok hunpaid hpay with ⟨payments, hsettles, hsigned⟩
        refine ⟨e.inToken, payments, hsettles, ?_⟩
        rw [← hasked]
        exact Sponsor.sign_wellFormed hsigned
    · push Not at hsome
      have hnone := Sponsor.build_posts_of_no_draft hsome
      rw [h] at hnone
      exact Or.inl ⟨hnone.1.attempts, hnone.2⟩

namespace Transaction

/-- A legacy transaction whose header counts more keys than there are, with its payer twice among
the keys, and with more signatures than are required. -/
def malformedTransaction : Transaction :=
  { signatures := [noSignature, noSignature, noSignature]
    message :=
      { format := .legacy
        header := ⟨0, 5, 9⟩
        keys := [Block.ofNat 32 9, Block.ofNat 32 7, Block.ofNat 32 9, Block.ofNat 32 8]
        blockhash := Block.zero 32
        instructions := [⟨3, [1, 2, 1], [1, 2]⟩] } }

/-- What it says: nobody signs, and all is written. -/
def malformedInstruction : Instruction :=
  { program := Block.ofNat 32 8
    accounts := [⟨Block.ofNat 32 7, false, true⟩, ⟨Block.ofNat 32 9, false, true⟩,
      ⟨Block.ofNat 32 7, false, true⟩]
    data := [1, 2] }

section Usual

open scoped Stack

/-- Appending to it mends it. -/
theorem emitted_wellFormed_of_malformed :
    ¬ malformedTransaction.message.keys.Nodup
      ∧ ∃ tx', malformedTransaction.append callingInstruction = .ok tx'
        ∧ tx'.WellFormed (Block.ofNat 32 9) [malformedInstruction, callingInstruction] := by
  obtain ⟨tx', h⟩ : ∃ tx', malformedTransaction.append callingInstruction = .ok tx' := ⟨_, rfl⟩
  obtain ⟨payer, before, hpayer, hbefore, hformed⟩ :=
    (emitted_wellFormed malformedTransaction callingInstruction Sponsor.boundedSponsor []
      (Payment.freshExchange [])).1 tx' h
  obtain rfl : Block.ofNat 32 9 = payer := Option.some.inj hpayer
  obtain rfl : [malformedInstruction] = before := Except.ok.inj ((by rfl : _ = _).trans hbefore)
  have hroom : ¬ OneKeyTooMany (Block.ofNat 32 9) ([malformedInstruction] ++ [callingInstruction]) :=
    fun hmany => absurd hmany.2 (by decide)
  exact ⟨by decide, tx', h, (hformed (by decide)).mpr fun hmany => hroom hmany.1⟩

end Usual

/-! ## One key too many -/

/-- The program of the crowded instruction is only read. -/
lemma program_crowd_mem_readersOf {n : ℕ} (hn : n ≤ 255) :
    Block.ofNat 32 8 ∈ readersOf (Block.ofNat 32 9) [crowd n false] := by
  obtain ⟨hpayer, hnodup⟩ := List.nodup_cons.mp (nodup_crowd hn)
  have haccount : ∀ a ∈ (crowd n false).accounts, a.key ≠ Block.ofNat 32 8 := by
    intro a ha hkey
    obtain ⟨i, hi, rfl⟩ := List.mem_map.mp ha
    exact (List.nodup_cons.mp hnodup).1 (hkey ▸ List.mem_map_of_mem hi)
  have hother : ∀ role : AccountRef → Bool, ¬ (Block.ofNat 32 8 = Block.ofNat 32 9
      ∨ ∃ ix ∈ [crowd n false], ∃ a ∈ ix.accounts, a.key = Block.ofNat 32 8 ∧ role a = true) := by
    rintro role (heq | ⟨ix, hix, a, ha, hkey, -⟩)
    · exact hpayer (heq ▸ List.mem_cons_self)
    · obtain rfl := List.mem_singleton.mp hix
      exact haccount a ha hkey
  refine mem_readersOf.mpr ⟨mem_distinctKeys.mpr (Or.inr ⟨_, List.mem_singleton_self _, ?_⟩),
    hother _, hother _⟩
  exact List.mem_cons_self

/-- It is the last of 257 keys. -/
lemma last_key_of_crowd {legacy : Bool} {hash : Blockhash}
    (h : Message.compile legacy (Block.ofNat 32 9) [crowd 255 false] hash = .ok m) :
    m.keys[256]? = some (Block.ofNat 32 8) := by
  obtain ⟨hlayout, -⟩ := Message.compile_eq_ok_iff.mp h
  have hlength := (Message.length_keys_of_compile h).trans
    (length_distinctKeys_crowd (le_refl 255) false)
  have hkeys := hlayout.keys_eq
  rw [Message.otherKeys, ← List.append_assoc] at hkeys
  -- the last group has no other member
  have hlast := Message.mem_readonly.mpr (program_crowd_mem_readersOf (le_refl 255))
  have hone := Nat.le_antisymm
    (Message.length_readonly.trans_le (length_readersOf_crowd 255 false))
    (List.length_pos_of_mem hlast)
  obtain ⟨k, hgroup⟩ := List.length_eq_one_iff.mp hone
  rw [hgroup, List.mem_singleton] at hlast
  rw [hgroup, ← hlast] at hkeys
  rw [hkeys, List.length_append, List.length_singleton] at hlength
  rw [hkeys, List.getElem?_append_right (by omega), List.getElem?_singleton, if_pos (by omega)]

/-- **A key too many breaks the result.**  The instruction mentions 256 keys, and the payer is one
more.  The legacy format takes it, and calls the payer instead of the program. -/
theorem crowded_program_becomes_payer :
    bareTransaction.message.format = .legacy
      ∧ bareTransaction.message.keys.head? = some (Block.ofNat 32 9)
      ∧ bareTransaction.message.expand = .ok []
      ∧ (mentionedKeys ([] ++ [crowd 255 false])).length ≤ 256
      ∧ (∀ call ∈ [] ++ [crowd 255 false], call.program ≠ Block.ofNat 32 9)
      ∧ ∃ tx', bareTransaction.append (crowd 255 false) = .ok tx'
        ∧ (∃ call ∈ tx'.message.instructions, call.program = 0)
        ∧ ¬ tx'.WellFormed (Block.ofNat 32 9) ([] ++ [crowd 255 false]) := by
  have hfew := length_mentionedKeys_crowd (le_refl 255) false
  have hsigners := length_signersOf_crowd_false 255
  have hnew : Block.ofNat 32 9 ∉ mentionedKeys [crowd 255 false] := by
    rw [mentionedKeys, List.mem_dedup, keys_crowd]
    exact (List.nodup_cons.mp (nodup_crowd (le_refl 255))).1
  obtain ⟨text, htext⟩ := appendedText_crowd (le_refl 255) false (by omega)
  obtain ⟨tx', htx', -⟩ := Rpc.bind_eq_ok_iff.mp htext
  obtain ⟨m, hm, rfl⟩ :=
    (append_eq_ok_iff_of_known head?_bareTransaction expand_bareTransaction).mp htx'
  have hlast := last_key_of_crowd hm
  have hcrowd : crowd 255 false ∈ [] ++ [crowd 255 false] := List.mem_singleton_self _
  refine ⟨rfl, rfl, rfl, hfew.le, ?_, _, htx', ?_, ?_⟩
  · intro call hcall
    obtain rfl := List.mem_singleton.mp hcall
    decide
  · exact Message.program_eq_zero_of_last hm hcrowd hlast
  · intro hformed
    exact Message.not_wellFormed_of_last hm hnew hcrowd hlast hformed.message

end Transaction

end Paymaster
