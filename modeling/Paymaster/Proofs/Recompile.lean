import Mathlib
import Paymaster.Proofs.KeyTable
import Paymaster.Transaction

/-!
# Compiling and expanding again

Compiling replaces keys by indices, and expanding looks the indices up.  In between, the keys were
reordered, each is there once, and its roles are those of its position.  This file says what comes
back: the same calls with the same data and the same accounts in the same order, each account in
the role that it has *in the message as a whole* (`expand_of_compile`).

* `MustSign` and `MayBeWritten` are what the instructions together ask for a key; the payer signs
  and is written whatever they say.
* `Demoted` is what the ledger takes away again.
* `settle` puts an instruction's accounts into these roles.

Two index spaces meet here, that of the table and that of the message.  They agree while one byte
can number every key (`keyAt_indexOf`), which is the only place where the bound on the keys is
used.  Appending an instruction is expanding, adding and compiling, so what it preserves follows.
-/

namespace Paymaster

/-! ## What some instructions ask for -/

/-- The keys of a payer and some instructions, each once. -/
def distinctKeys (payer : PublicKey) (instructions : List Instruction) : List PublicKey :=
  (payer :: instructions.flatMap Instruction.keys).dedup

/-- A key must sign: it is the payer, or some account of some instruction says so. -/
def MustSign (payer : PublicKey) (instructions : List Instruction) (k : PublicKey) : Prop :=
  k = payer ∨ ∃ ix ∈ instructions, ∃ a ∈ ix.accounts, a.key = k ∧ a.isSigner = true

/-- A key may be written, demotion apart: it is the payer, or some account of some instruction
says so. -/
def MayBeWritten (payer : PublicKey) (instructions : List Instruction) (k : PublicKey) : Prop :=
  k = payer ∨ ∃ ix ∈ instructions, ∃ a ∈ ix.accounts, a.key = k ∧ a.isWritable = true

/-- A key is never writable: it is reserved, or it is called as a program in a message whose keys
do not include the upgradeable loader. -/
def Demoted (keys : List PublicKey) (instructions : List Instruction) (k : PublicKey) : Prop :=
  k ∈ Program.reserved
    ∨ ((∃ ix ∈ instructions, ix.program = k) ∧ Program.upgradeableLoader ∉ keys)

instance (payer : PublicKey) (ixs : List Instruction) (k : PublicKey) :
    Decidable (MustSign payer ixs k) :=
  inferInstanceAs (Decidable (_ ∨ ∃ ix ∈ ixs, ∃ a ∈ ix.accounts, a.key = k ∧ a.isSigner = true))

instance (payer : PublicKey) (ixs : List Instruction) (k : PublicKey) :
    Decidable (MayBeWritten payer ixs k) :=
  inferInstanceAs
    (Decidable (_ ∨ ∃ ix ∈ ixs, ∃ a ∈ ix.accounts, a.key = k ∧ a.isWritable = true))

instance (keys : List PublicKey) (ixs : List Instruction) (k : PublicKey) :
    Decidable (Demoted keys ixs k) :=
  inferInstanceAs (Decidable (_ ∨ ((∃ ix ∈ ixs, ix.program = k) ∧ _)))

/-- An account in the roles that a message as a whole gives its key. -/
def settledAccount (payer : PublicKey) (keys : List PublicKey) (instructions : List Instruction)
    (k : PublicKey) : AccountRef :=
  { key := k
    isSigner := decide (MustSign payer instructions k)
    isWritable := decide (MayBeWritten payer instructions k ∧ ¬ Demoted keys instructions k) }

/-- An instruction with its accounts in the roles that a message as a whole gives them. -/
def settle (payer : PublicKey) (keys : List PublicKey) (instructions : List Instruction)
    (ix : Instruction) : Instruction :=
  { ix with accounts := ix.accounts.map fun a => settledAccount payer keys instructions a.key }

/-- The uses of some instructions ask for a role where their accounts do: a call asks for none. -/
lemma asksFor_uses_iff {role : Usage → Bool} (hcall : role ⟨false, false⟩ = false)
    (ixs : List Instruction) (k : PublicKey) :
    KeyTable.AsksFor role (ixs.flatMap Instruction.uses) k
      ↔ ∃ ix ∈ ixs, ∃ a ∈ ix.accounts, a.key = k ∧ role ⟨a.isSigner, a.isWritable⟩ = true := by
  simp only [KeyTable.AsksFor, List.mem_flatMap, Instruction.uses, List.mem_cons, List.mem_map,
    Prod.mk.injEq]
  constructor
  · rintro ⟨usage, ⟨ix, hix, ⟨-, rfl⟩ | ⟨a, ha, rfl, rfl⟩⟩, hrole⟩
    · rw [hcall] at hrole
      exact Bool.noConfusion hrole
    · exact ⟨ix, hix, a, ha, rfl, hrole⟩
  · rintro ⟨ix, hix, a, ha, rfl, hrole⟩
    exact ⟨_, ⟨ix, hix, Or.inr ⟨a, ha, rfl, rfl⟩⟩, hrole⟩

namespace Message

variable {legacy : Bool} {payer k : PublicKey} {ixs : List Instruction} {blockhash : Blockhash}
  {m : Message}

/-! ## What compiling gives -/

/-- **Compiling succeeds** with a message exactly when the message is laid out for the payer and
the table of the instructions, one byte can number its keys if it is of version 0, and the rest is
what was given, with keys replaced by indices. -/
theorem compile_eq_ok_iff :
    compile legacy payer ixs blockhash = .ok m
      ↔ Layout payer (KeyTable.ofInstructions ixs) m.header m.keys
        ∧ (legacy = false → m.keys.length ≤ 256)
        ∧ m.format = (if legacy then .legacy else .v0 [])
        ∧ m.blockhash = blockhash
        ∧ m.instructions = ixs.map (compileOne m.keys) := by
  unfold compile
  constructor
  · intro h
    split at h
    · exact absurd h (by simp)
    · rename_i header keys hlayout
      split at h
      · exact absurd h (by simp)
      · rename_i hmany
        have hm := Except.ok.inj h
        subst hm
        refine ⟨layout?_eq_some_iff.mp hlayout, ?_, rfl, rfl, rfl⟩
        intro hlegacy
        simpa [hlegacy] using hmany
  · rintro ⟨hlayout, hfew, hformat, hblockhash, hinstructions⟩
    rw [layout?_eq_some_iff.mpr hlayout]
    have hmany : ¬ ((!legacy && decide (256 < m.keys.length)) = true) := by
      cases legacy with
      | true => simp
      | false => simpa using hfew rfl
    simp only [if_neg hmany, Except.ok.injEq]
    cases m
    simp only at hformat hblockhash hinstructions
    subst hformat hblockhash hinstructions
    rfl

/-- The keys of a layout are those that were mentioned. -/
lemma Layout.mem_keys_iff {header : Header} {keys : List PublicKey}
    (h : Layout payer (KeyTable.ofInstructions ixs) header keys) :
    k ∈ keys ↔ k = payer ∨ ∃ ix ∈ ixs, k ∈ ix.keys := by
  rw [h.mem_keys, (KeyTable.ofInstructions_summarises ixs).keys, List.map_flatMap]
  simp only [Instruction.map_uses, List.mem_flatMap]

/-- A layout has as many keys as were mentioned. -/
lemma Layout.length_keys {header : Header} {keys : List PublicKey}
    (h : Layout payer (KeyTable.ofInstructions ixs) header keys) :
    keys.length = (distinctKeys payer ixs).length := by
  have hnodup := h.nodup (KeyTable.ofInstructions_summarises ixs).ordered
  refine List.Perm.length_eq ((List.perm_ext_iff_of_nodup hnodup (List.nodup_dedup _)).mpr ?_)
  intro k
  rw [h.mem_keys_iff, List.mem_dedup, List.mem_cons, List.mem_flatMap]

lemma mem_keys_of_compile (h : compile legacy payer ixs blockhash = .ok m) :
    k ∈ m.keys ↔ k = payer ∨ ∃ ix ∈ ixs, k ∈ ix.keys :=
  (compile_eq_ok_iff.mp h).1.mem_keys_iff

lemma length_keys_of_compile (h : compile legacy payer ixs blockhash = .ok m) :
    m.keys.length = (distinctKeys payer ixs).length :=
  (compile_eq_ok_iff.mp h).1.length_keys

lemma head?_keys_of_compile (h : compile legacy payer ixs blockhash = .ok m) :
    m.keys.head? = some payer := by
  obtain ⟨hlayout, -⟩ := compile_eq_ok_iff.mp h
  rw [hlayout.keys_eq]
  rfl

lemma getElem?_zero_keys_of_compile (h : compile legacy payer ixs blockhash = .ok m) :
    m.keys[0]? = some payer := by
  rw [← List.head?_eq_getElem?]
  exact head?_keys_of_compile h

/-- The header of a compiled message counts no more keys than there are. -/
lemma counted_of_compile (h : compile legacy payer ixs blockhash = .ok m) :
    m.header.required.toNat + m.header.readonlyUnsigned.toNat ≤ m.keys.length := by
  obtain ⟨hlayout, -⟩ := compile_eq_ok_iff.mp h
  rw [hlayout.required, hlayout.readonlyUnsigned, hlayout.keys_eq, otherKeys, List.length_append,
    List.length_append]
  omega

/-! ## Looking indices up -/

lemma toNat_indexOf {keys : List PublicKey} (hk : k ∈ keys) (hfew : keys.length ≤ 256) :
    (indexOf keys k).toNat = keys.idxOf k := by
  have hlt := List.idxOf_lt_length_of_mem hk
  exact UInt8.toNat_ofNat_of_lt' (show keys.idxOf k < 256 by omega)

/-- **The index of a key leads back to it**, while one byte can number every key. -/
lemma keyAt_indexOf (hk : k ∈ m.keys) (hfew : m.keys.length ≤ 256) :
    m.keyAt (indexOf m.keys k) = .ok k := by
  rw [keyAt, toNat_indexOf hk hfew, List.getElem?_idxOf hk]

/-- A program is called at the index of a key exactly when it is that key. -/
lemma isCalled_idxOf_iff (h : compile legacy payer ixs blockhash = .ok m)
    (hfew : m.keys.length ≤ 256) :
    m.isCalled (m.keys.idxOf k) = true ↔ ∃ ix ∈ ixs, ix.program = k := by
  obtain ⟨-, -, -, -, hinstructions⟩ := compile_eq_ok_iff.mp h
  have hprogram : ∀ ix ∈ ixs, ix.program ∈ m.keys := fun ix hix =>
    (mem_keys_of_compile h).mpr (Or.inr ⟨ix, hix, List.mem_cons_self⟩)
  rw [isCalled, hinstructions, List.any_map, List.any_eq_true]
  constructor
  · rintro ⟨ix, hix, hindex⟩
    have hindex' : (indexOf m.keys ix.program).toNat = m.keys.idxOf k := of_decide_eq_true hindex
    rw [toNat_indexOf (hprogram ix hix) hfew] at hindex'
    exact ⟨ix, hix, (List.idxOf_inj (hprogram ix hix)).mp hindex'⟩
  · rintro ⟨ix, hix, rfl⟩
    exact ⟨ix, hix, decide_eq_true (toNat_indexOf (hprogram ix hix) hfew)⟩

lemma isDemoted_idxOf_iff (h : compile legacy payer ixs blockhash = .ok m)
    (hfew : m.keys.length ≤ 256) :
    m.isDemoted (m.keys.idxOf k) k = true ↔ Demoted m.keys ixs k := by
  rw [isDemoted, Bool.or_eq_true, Bool.and_eq_true, isCalled_idxOf_iff h hfew, Demoted]
  simp

/-- **One account.**  Its index leads back to its key, in the roles of the whole message. -/
lemma accountAt_indexOf (h : compile legacy payer ixs blockhash = .ok m)
    (hfew : m.keys.length ≤ 256) (hk : k ∈ m.keys) :
    m.accountAt (indexOf m.keys k) = .ok (settledAccount payer m.keys ixs k) := by
  obtain ⟨hlayout, -⟩ := compile_eq_ok_iff.mp h
  have htable := KeyTable.ofInstructions_summarises ixs
  have hsigner : m.isSigner (m.keys.idxOf k) = decide (MustSign payer ixs k) := by
    rw [Bool.eq_iff_iff, hlayout.isSigner_idxOf_iff, htable.signs, asksFor_uses_iff rfl,
      decide_eq_true_eq]
    rfl
  have hwritable : m.isWritable (m.keys.idxOf k) k
      = decide (MayBeWritten payer ixs k ∧ ¬ Demoted m.keys ixs k) := by
    rw [Bool.eq_iff_iff, isWritable, Bool.and_eq_true, Bool.not_eq_true', ← Bool.not_eq_true,
      hlayout.isWritablePosition_idxOf_iff htable.ordered, htable.written, asksFor_uses_iff rfl,
      isDemoted_idxOf_iff h hfew, decide_eq_true_eq]
    rfl
  rw [accountAt, keyAt_indexOf hk hfew, toNat_indexOf hk hfew, hsigner]
  show Except.ok (AccountRef.mk k _ (m.isWritable (m.keys.idxOf k) k)) = _
  rw [hwritable]
  rfl

/-- A list of calls that all succeed. -/
lemma mapM_eq_ok {α β ε : Type} {f : α → Except ε β} {g : α → β} {xs : List α}
    (h : ∀ x ∈ xs, f x = .ok (g x)) : xs.mapM f = .ok (xs.map g) := by
  induction xs with
  | nil => rfl
  | cons x xs ih =>
      obtain ⟨hx, hxs⟩ := List.forall_mem_cons.mp h
      rw [List.mapM_cons, hx, ih hxs]
      rfl

/-- One instruction. -/
lemma expandOne_compileOne (h : compile legacy payer ixs blockhash = .ok m)
    (hfew : m.keys.length ≤ 256) {ix : Instruction} (hix : ix ∈ ixs) :
    m.expandOne (compileOne m.keys ix) = .ok (settle payer m.keys ixs ix) := by
  have hmem : ∀ k ∈ ix.keys, k ∈ m.keys := fun k hk =>
    (mem_keys_of_compile h).mpr (Or.inr ⟨ix, hix, hk⟩)
  have hprogram : m.keyAt (compileOne m.keys ix).program = .ok ix.program :=
    keyAt_indexOf (hmem _ List.mem_cons_self) hfew
  have haccounts : (compileOne m.keys ix).accounts.mapM m.accountAt
      = .ok (ix.accounts.map fun a => settledAccount payer m.keys ixs a.key) := by
    rw [compileOne, List.mapM_map]
    refine mapM_eq_ok (fun a ha => accountAt_indexOf h hfew (hmem _ ?_))
    exact List.mem_cons_of_mem _ (List.mem_map_of_mem ha)
  rw [expandOne, haccounts, hprogram]
  rfl

/-- **Expanding what was compiled** gives the instructions back, their accounts in the roles that
the message as a whole gives them. -/
theorem expand_of_compile (h : compile legacy payer ixs blockhash = .ok m)
    (hfew : m.keys.length ≤ 256) : m.expand = .ok (ixs.map (settle payer m.keys ixs)) := by
  obtain ⟨-, -, hformat, -, hinstructions⟩ := compile_eq_ok_iff.mp h
  have hlookups : m.lookups.isEmpty = true := by
    cases legacy <;> simp [lookups, hformat]
  rw [expand, if_pos hlookups, hinstructions, List.mapM_map]
  exact mapM_eq_ok fun ix hix => expandOne_compileOne h hfew hix

/-! ## Appending -/

lemma lookups_eq_nil_of_expand {before : List Instruction} (h : m.expand = .ok before) :
    m.lookups = [] := by
  unfold expand at h
  split_ifs at h with hlookups
  exact List.isEmpty_iff.mp hlookups

end Message

/-- `new` says what `old` says, in the roles that the instructions `all` give its accounts together
in a message of some keys. -/
structure Restates (payer : PublicKey) (keys : List PublicKey) (all : List Instruction)
    (old new : Instruction) : Prop where
  program : new.program = old.program
  data : new.data = old.data
  accounts : new.accounts.map (·.key) = old.accounts.map (·.key)
  signer : ∀ a ∈ new.accounts, a.isSigner = true ↔ MustSign payer all a.key
  writable : ∀ a ∈ new.accounts,
    a.isWritable = true ↔ MayBeWritten payer all a.key ∧ ¬ Demoted keys all a.key

lemma settle_restates (payer : PublicKey) (keys : List PublicKey) (all : List Instruction)
    (ix : Instruction) : Restates payer keys all ix (settle payer keys all ix) where
  program := rfl
  data := rfl
  accounts := by
    simp only [settle, List.map_map]
    rfl
  signer := by
    intro a ha
    obtain ⟨b, -, rfl⟩ := List.mem_map.mp ha
    exact decide_eq_true_iff
  writable := by
    intro a ha
    obtain ⟨b, -, rfl⟩ := List.mem_map.mp ha
    exact decide_eq_true_iff

namespace Transaction

/-- **What appending does**: it expands, adds the instruction and compiles again. -/
lemma append_eq_ok_iff {tx tx' : Transaction} {ix : Instruction} :
    tx.append ix = .ok tx'
      ↔ ∃ payer before m, tx.message.keys.head? = some payer ∧ tx.message.expand = .ok before
        ∧ Message.compile (tx.message.format = .legacy) payer (before ++ [ix])
            tx.message.blockhash = .ok m
        ∧ tx' = unsigned m := by
  unfold append
  cases hkeys : tx.message.keys with
  | nil => simp
  | cons payer others =>
      cases hexpand : tx.message.expand with
      | error err => simp [bind, Except.bind]
      | ok before =>
          cases hcompile : Message.compile (tx.message.format = .legacy) payer (before ++ [ix])
              tx.message.blockhash with
          | error err => simp [bind, Except.bind, hcompile]
          | ok m =>
              simp only [List.head?_cons, Option.some.injEq, Except.ok.injEq, bind, Except.bind,
                pure, Except.pure, hcompile]
              constructor
              · rintro rfl
                exact ⟨payer, before, m, rfl, rfl, hcompile, rfl⟩
              · rintro ⟨_, _, m', rfl, rfl, hm', rfl⟩
                rw [Except.ok.inj (hcompile.symm.trans hm')]

/-- What it compiles, where the payer and the instructions are known. -/
lemma append_eq_ok_iff_of_known {tx tx' : Transaction} {payer : PublicKey}
    {before : List Instruction} {ix : Instruction}
    (hpayer : tx.message.keys.head? = some payer) (hbefore : tx.message.expand = .ok before) :
    tx.append ix = .ok tx'
      ↔ ∃ m, Message.compile (tx.message.format = .legacy) payer (before ++ [ix])
            tx.message.blockhash = .ok m
        ∧ tx' = unsigned m := by
  rw [append_eq_ok_iff]
  constructor
  · rintro ⟨_, _, m, hpayer', hbefore', hm⟩
    obtain rfl := Option.some.inj (hpayer.symm.trans hpayer')
    obtain rfl := Except.ok.inj (hbefore.symm.trans hbefore')
    exact ⟨m, hm⟩
  · rintro ⟨m, hm⟩
    exact ⟨payer, before, m, hpayer, hbefore, hm⟩

/-- A message that can be expanded keeps its format when it is compiled again. -/
lemma format_of_recompile {old new : Message} {payer : PublicKey}
    {before instructions : List Instruction} {blockhash : Blockhash}
    (hexpand : old.expand = .ok before)
    (h : Message.compile (old.format = .legacy) payer instructions blockhash = .ok new) :
    new.format = old.format := by
  obtain ⟨-, -, hformat, -⟩ := Message.compile_eq_ok_iff.mp h
  have hlookups := Message.lookups_eq_nil_of_expand hexpand
  rw [hformat]
  cases hold : old.format with
  | legacy => rfl
  | v0 ls =>
      have hls : ls = [] := by simpa [Message.lookups, hold] using hlookups
      rw [hls]
      rfl

/-- **Appending an instruction preserves the meaning of a transaction.**

Say `before` are the instructions of the transaction, `all` are these and the new one, and together
with the payer they mention at most 256 keys.  Then the result expands to as many instructions as
`all` has, each of which calls the same program with the same data and the same accounts in the
same order.  An account signs exactly when it is the payer or some account of `all` with its key
signs, and may be written exactly when it is the payer or some account of `all` with its key may be
written, and it is not demoted.  Format, payer and block hash are kept, and no signature is. -/
theorem append_preserves_meaning {tx tx' : Transaction} {ix : Instruction}
    (h : tx.append ix = .ok tx') :
    ∃ payer before, tx.message.keys.head? = some payer ∧ tx.message.expand = .ok before
      ∧ ((distinctKeys payer (before ++ [ix])).length ≤ 256 →
        ∃ after, tx'.message.expand = .ok after ∧ after.length = (before ++ [ix]).length
          ∧ ∀ (j : ℕ) (old new : Instruction), (before ++ [ix])[j]? = some old →
            after[j]? = some new →
              Restates payer tx'.message.keys (before ++ [ix]) old new)
      ∧ tx'.message.format = tx.message.format
      ∧ tx'.message.keys.head? = some payer
      ∧ tx'.message.blockhash = tx.message.blockhash
      ∧ tx'.signatures
        = List.replicate tx'.message.header.required.toNat Transaction.noSignature := by
  obtain ⟨payer, before, m, hpayer, hbefore, hcompile, rfl⟩ := append_eq_ok_iff.mp h
  obtain ⟨-, -, -, hblockhash, -⟩ := Message.compile_eq_ok_iff.mp hcompile
  refine ⟨payer, before, hpayer, hbefore, fun hfew => ?_, format_of_recompile hbefore hcompile,
    Message.head?_keys_of_compile hcompile, hblockhash, rfl⟩
  rw [← Message.length_keys_of_compile hcompile] at hfew
  refine ⟨_, Message.expand_of_compile hcompile hfew, List.length_map _, ?_⟩
  intro j old new hold hnew
  rw [List.getElem?_map, hold] at hnew
  obtain rfl := Option.some.inj hnew
  exact settle_restates payer m.keys (before ++ [ix]) old

/-- A legacy transaction whose one instruction passes its payer and an account that it only
reads. -/
def readingTransaction : Transaction :=
  { signatures := [noSignature]
    message :=
      { format := .legacy
        header := ⟨1, 0, 2⟩
        keys := [Block.ofNat 32 9, Block.ofNat 32 7, Block.ofNat 32 8]
        blockhash := Block.zero 32
        instructions := [⟨2, [1, 0, 1], [1, 2]⟩] } }

/-- This instruction, with its accounts in their roles. -/
def readingInstruction : Instruction :=
  { program := Block.ofNat 32 8
    accounts := [⟨Block.ofNat 32 7, false, false⟩, ⟨Block.ofNat 32 9, true, true⟩,
      ⟨Block.ofNat 32 7, false, false⟩]
    data := [1, 2] }

/-- An instruction that calls the account as a program, has it sign and write, and lists a
reserved key as written. -/
def callingInstruction : Instruction :=
  { program := Block.ofNat 32 7
    accounts := [⟨Block.ofNat 32 7, true, true⟩, ⟨Block.zero 32, false, true⟩]
    data := [3] }

/-- The transaction with the instruction behind its own. -/
def callingTransaction : Transaction :=
  unsigned
    { format := .legacy
      header := ⟨2, 0, 1⟩
      keys := [Block.ofNat 32 9, Block.ofNat 32 7, Block.zero 32, Block.ofNat 32 8]
      blockhash := Block.zero 32
      instructions := [⟨3, [1, 0, 1], [1, 2]⟩, ⟨1, [1, 2], [3]⟩] }

/-- The account signs in the old instruction too, since the new one has it sign, and it is written
in neither, since the new one calls it. -/
theorem append_preserves_meaning_of_called :
    readingTransaction.append callingInstruction = .ok callingTransaction
      ∧ ∃ after, callingTransaction.message.expand = .ok after
        ∧ ∀ new, after[0]? = some new →
          new.accounts.map (·.key) = [Block.ofNat 32 7, Block.ofNat 32 9, Block.ofNat 32 7]
            ∧ ∀ a ∈ new.accounts, a.key = Block.ofNat 32 7 →
              a.isSigner = true ∧ ¬ a.isWritable = true := by
  have h : readingTransaction.append callingInstruction = .ok callingTransaction := rfl
  obtain ⟨payer, before, hpayer, hbefore, hmeaning, -⟩ := append_preserves_meaning h
  obtain rfl : Block.ofNat 32 9 = payer := Option.some.inj hpayer
  obtain rfl : [readingInstruction] = before := Except.ok.inj ((by rfl : _ = _).trans hbefore)
  obtain ⟨after, hafter, -, hrestates⟩ := hmeaning (by decide)
  refine ⟨h, after, hafter, ?_⟩
  intro new hnew
  obtain ⟨-, -, haccounts, hsigner, hwritable⟩ := hrestates 0 readingInstruction new rfl hnew
  refine ⟨haccounts, ?_⟩
  intro a ha hkey
  rw [hsigner a ha, hwritable a ha, hkey]
  decide

end Transaction

end Paymaster
