import Mathlib
import Paymaster.Proofs.Calls
import Paymaster.Proofs.Recompile

/-!
# Appending one at a time

Appending expands a message, adds an instruction and compiles again, so appending twice compiles
instructions that have been compiled before.  Their accounts come back in the roles of the whole
message, which may be more than they asked for, and the keys stand in another order.  This file
shows that none of this is left in the end.

**Settled instructions compile alike.**  The roles that a message as a whole gives its accounts are
just those that its instructions ask for together, unless a key is demoted.  So settling some of
the instructions does not change what all of them ask for (`agreeBut_settled`), and what is asked
for decides the header, the order of the keys and every index (`compile_settled`).

**Runs.**  `Compiled` says that a transaction is what compiling some instructions gives.  One more
appended instruction keeps it (`Compiled.append`), and so do any number of them
(`Compiled.appendAll`).  The main statement is
`append_all_eq_compile`.
-/

namespace Paymaster

/-! ## Keys that keep their right -/

/-- No key loses the right to be written: those that some account asks to write, the payer's apart,
are neither reserved nor called as programs. -/
def KeepsWritable (payer : PublicKey) (ixs : List Instruction) : Prop :=
  ∀ ix ∈ ixs, ∀ a ∈ ix.accounts, a.isWritable = true → a.key ≠ payer →
    a.key ∉ Program.reserved ∧ ∀ other ∈ ixs, other.program ≠ a.key

instance (payer : PublicKey) (ixs : List Instruction) : Decidable (KeepsWritable payer ixs) :=
  inferInstanceAs (Decidable (∀ ix ∈ ixs, ∀ a ∈ ix.accounts, _ → _ → _))

variable {payer k : PublicKey} {keys : List PublicKey} {ixs more : List Instruction}

lemma KeepsWritable.of_append (h : KeepsWritable payer (ixs ++ more)) : KeepsWritable payer ixs := by
  intro ix hix a ha hwritable hne
  obtain ⟨hreserved, hprogram⟩ := h ix (List.mem_append_left _ hix) a ha hwritable hne
  exact ⟨hreserved, fun other hother => hprogram other (List.mem_append_left _ hother)⟩

lemma KeepsWritable.not_demoted (h : KeepsWritable payer ixs) (hk : MayBeWritten payer ixs k)
    (hne : k ≠ payer) : ¬ Demoted keys ixs k := by
  obtain rfl | ⟨ix, hix, a, ha, rfl, hwritable⟩ := hk
  · exact absurd rfl hne
  · obtain ⟨hreserved, hprogram⟩ := h ix hix a ha hwritable hne
    rintro (hmem | ⟨⟨other, hother, heq⟩, -⟩)
    · exact hreserved hmem
    · exact hprogram other hother heq

/-! ## Settling asks for nothing new -/

lemma keys_settle (ix : Instruction) : (settle payer keys ixs ix).keys = ix.keys := by
  simp [settle, Instruction.keys, settledAccount]

/-- A settled account asks for a role when some account with its key did. -/
lemma exists_settled_iff (role : AccountRef → Bool)
    (hrole : ∀ k ≠ payer, role (settledAccount payer keys ixs k) = true
      ↔ ∃ ix ∈ ixs, ∃ a ∈ ix.accounts, a.key = k ∧ role a = true) (hne : k ≠ payer) :
    (∃ ix ∈ ixs.map (settle payer keys ixs), ∃ a ∈ ix.accounts, a.key = k ∧ role a = true)
      ↔ ∃ ix ∈ ixs, ∃ a ∈ ix.accounts, a.key = k ∧ role a = true := by
  constructor
  · rintro ⟨_, hix, a, ha, rfl, hasks⟩
    obtain ⟨ix, -, rfl⟩ := List.mem_map.mp hix
    obtain ⟨b, -, rfl⟩ := List.mem_map.mp ha
    exact (hrole b.key hne).mp hasks
  · rintro ⟨ix, hix, a, ha, rfl, hasks⟩
    refine ⟨_, List.mem_map_of_mem hix, _, List.mem_map_of_mem ha, rfl, ?_⟩
    exact (hrole a.key hne).mpr ⟨ix, hix, a, ha, rfl, hasks⟩

lemma settled_signs_iff (hne : k ≠ payer) :
    (settledAccount payer keys ixs k).isSigner = true
      ↔ ∃ ix ∈ ixs, ∃ a ∈ ix.accounts, a.key = k ∧ a.isSigner = true := by
  rw [settledAccount, decide_eq_true_eq, MustSign, or_iff_right hne]

lemma settled_written_iff (h : KeepsWritable payer ixs) (hne : k ≠ payer) :
    (settledAccount payer keys ixs k).isWritable = true
      ↔ ∃ ix ∈ ixs, ∃ a ∈ ix.accounts, a.key = k ∧ a.isWritable = true := by
  rw [settledAccount, decide_eq_true_eq]
  constructor
  · rintro ⟨hwritten, -⟩
    exact hwritten.resolve_left hne
  · intro hwritten
    exact ⟨Or.inr hwritten, h.not_demoted (Or.inr hwritten) hne⟩

/-- **Settling some instructions changes nothing that all of them ask for**, the payer apart. -/
lemma agreeBut_settled (h : KeepsWritable payer (ixs ++ more)) :
    KeyTable.AgreeBut payer ((ixs.map (settle payer keys ixs) ++ more).flatMap Instruction.uses)
      ((ixs ++ more).flatMap Instruction.uses) where
  keys k _ := by
    rw [List.map_flatMap, List.map_flatMap]
    simp only [Instruction.map_uses, List.flatMap_append, List.flatMap_map, keys_settle]
  signs k hne := by
    rw [asksFor_uses_iff rfl, asksFor_uses_iff rfl]
    simp only [List.mem_append, or_and_right, exists_or]
    rw [exists_settled_iff AccountRef.isSigner (fun _ => settled_signs_iff) hne]
  written k hne := by
    rw [asksFor_uses_iff rfl, asksFor_uses_iff rfl]
    simp only [List.mem_append, or_and_right, exists_or]
    rw [exists_settled_iff AccountRef.isWritable (fun _ => settled_written_iff h.of_append) hne]

namespace Message

variable {legacy : Bool} {blockhash : Blockhash}

lemma compileOne_settle (table : List PublicKey) (ix : Instruction) :
    compileOne table (settle payer keys ixs ix) = compileOne table ix := by
  simp [compileOne, settle, settledAccount]

/-- **Settled instructions compile alike.** -/
theorem compile_settled (h : KeepsWritable payer (ixs ++ more)) :
    compile legacy payer (ixs.map (settle payer keys ixs) ++ more) blockhash
      = compile legacy payer (ixs ++ more) blockhash := by
  have hlayout := layout?_congr
    (KeyTable.ofInstructions_summarises (ixs.map (settle payer keys ixs) ++ more))
    (KeyTable.ofInstructions_summarises (ixs ++ more)) (agreeBut_settled h)
  have hindices : ∀ table, (ixs.map (settle payer keys ixs) ++ more).map (compileOne table)
      = (ixs ++ more).map (compileOne table) := by
    intro table
    rw [List.map_append, List.map_append, List.map_map]
    congr 1
    exact List.map_congr_left fun ix _ => compileOne_settle table ix
  unfold compile
  rw [hlayout]
  simp only [hindices]

end Message

/-! ## Runs of appending -/

lemma length_distinctKeys_append_le (payer : PublicKey) (ixs more : List Instruction) :
    (distinctKeys payer ixs).length ≤ (distinctKeys payer (ixs ++ more)).length := by
  refine (List.subperm_of_subset (List.nodup_dedup _) ?_).length_le
  intro k hk
  simp only [distinctKeys, List.mem_dedup, List.flatMap_append, List.mem_cons,
    List.mem_append] at hk ⊢
  tauto

namespace Transaction

/-- The transaction with some more instructions, appended one after the other. -/
def appendAll (tx : Transaction) (ixs : List Instruction) : Except Error Transaction :=
  ixs.foldlM append tx

/-- A transaction is what compiling some instructions gives, and nobody has signed it. -/
def Compiled (legacy : Bool) (payer : PublicKey) (blockhash : Blockhash)
    (ixs : List Instruction) (tx : Transaction) : Prop :=
  Message.compile legacy payer ixs blockhash = .ok tx.message ∧ tx = unsigned tx.message

variable {legacy : Bool} {blockhash : Blockhash} {tx tx' : Transaction} {ix : Instruction}

/-- The first instruction that is appended. -/
lemma compiled_of_append {before : List Instruction} (hpayer : tx.message.keys.head? = some payer)
    (hbefore : tx.message.expand = .ok before) (h : tx.append ix = .ok tx') :
    tx'.Compiled (tx.message.format = .legacy) payer tx.message.blockhash (before ++ [ix]) := by
  obtain ⟨_, _, m, hpayer', hbefore', hcompile, rfl⟩ := append_eq_ok_iff.mp h
  obtain rfl := Option.some.inj (hpayer.symm.trans hpayer')
  obtain rfl := Except.ok.inj (hbefore.symm.trans hbefore')
  exact ⟨hcompile, rfl⟩

/-- **One more instruction.**  What has been compiled is expanded to settled instructions, and these
compile alike with one more behind them. -/
lemma Compiled.append (hc : tx.Compiled legacy payer blockhash ixs)
    (hfew : (distinctKeys payer ixs).length ≤ 256) (hkeeps : KeepsWritable payer (ixs ++ [ix]))
    (h : tx.append ix = .ok tx') : tx'.Compiled legacy payer blockhash (ixs ++ [ix]) := by
  obtain ⟨hmessage, -⟩ := hc
  rw [← Message.length_keys_of_compile hmessage] at hfew
  have hnext := compiled_of_append (Message.head?_keys_of_compile hmessage)
    (Message.expand_of_compile hmessage hfew) h
  obtain ⟨-, -, hformat, hblockhash, -⟩ := Message.compile_eq_ok_iff.mp hmessage
  have hlegacy : decide (tx.message.format = .legacy) = legacy := by
    rw [hformat]
    cases legacy <;> rfl
  rw [Compiled, Message.compile_settled hkeeps, hlegacy, hblockhash] at hnext
  exact hnext

/-- **Any number of instructions more.** -/
lemma Compiled.appendAll (hc : tx.Compiled legacy payer blockhash ixs)
    (hfew : (distinctKeys payer (ixs ++ more)).length ≤ 256)
    (hkeeps : KeepsWritable payer (ixs ++ more)) (h : tx.appendAll more = .ok tx') :
    tx'.Compiled legacy payer blockhash (ixs ++ more) := by
  induction more generalizing tx ixs with
  | nil =>
      obtain rfl := Except.ok.inj h
      rwa [List.append_nil]
  | cons ix more ih =>
      rw [List.append_cons] at hfew hkeeps ⊢
      rw [Transaction.appendAll, List.foldlM_cons, Rpc.bind_eq_ok_iff] at h
      obtain ⟨next, hnext, hrest⟩ := h
      have hshort : (distinctKeys payer ixs).length ≤ 256 := by
        rw [List.append_assoc] at hfew
        exact (length_distinctKeys_append_le payer ixs _).trans hfew
      exact ih (hc.append hshort hkeeps.of_append hnext) hfew hkeeps hrest

/-- **Appending one at a time is compiling once.**

Say some instructions are appended to a transaction one after the other, and each time this
succeeds.  Let `before` be the instructions that the transaction had.  If the payer, these and the
new ones mention at most 256 keys together, and no key other than the payer's that some account
asks to write is reserved or called as a program, then the result is the message that compiling all
of them in one go gives, in the format, for the payer and at the block hash of the transaction, with
an open place for each signer. -/
theorem append_all_eq_compile {added : List Instruction} (hsome : added ≠ [])
    (h : tx.appendAll added = .ok tx') :
    ∃ payer before, tx.message.keys.head? = some payer ∧ tx.message.expand = .ok before
      ∧ ((distinctKeys payer (before ++ added)).length ≤ 256 →
        KeepsWritable payer (before ++ added) →
          ∃ m, Message.compile (tx.message.format = .legacy) payer (before ++ added)
              tx.message.blockhash = .ok m
            ∧ m.format = tx.message.format
            ∧ tx' = { signatures := List.replicate m.header.required.toNat noSignature
                      message := m }) := by
  obtain ⟨ix, more, rfl⟩ := List.exists_cons_of_ne_nil hsome
  rw [appendAll, List.foldlM_cons, Rpc.bind_eq_ok_iff] at h
  obtain ⟨first, hfirst, hrest⟩ := h
  obtain ⟨payer, before, _, hpayer, hbefore, -, -⟩ := append_eq_ok_iff.mp hfirst
  refine ⟨payer, before, hpayer, hbefore, fun hfew hkeeps => ?_⟩
  rw [List.append_cons] at hfew hkeeps ⊢
  obtain ⟨hmessage, hopen⟩ :=
    (compiled_of_append hpayer hbefore hfirst).appendAll hfew hkeeps hrest
  exact ⟨tx'.message, hmessage, format_of_recompile hbefore hmessage, hopen⟩

/-- An instruction that has the account of `readingTransaction` sign, and one that has it read
again. -/
def signingInstructions : List Instruction :=
  [{ program := Block.ofNat 32 6, accounts := [⟨Block.ofNat 32 7, true, true⟩], data := [4] },
   { program := Block.ofNat 32 8, accounts := [⟨Block.ofNat 32 5, false, false⟩,
      ⟨Block.ofNat 32 7, false, false⟩], data := [5] }]

/-- What compiling all three at once gives. -/
def signingTransaction : Transaction :=
  unsigned
    { format := .legacy
      header := ⟨2, 0, 3⟩
      keys := [Block.ofNat 32 9, Block.ofNat 32 7, Block.ofNat 32 5, Block.ofNat 32 6,
        Block.ofNat 32 8]
      blockhash := Block.zero 32
      instructions := [⟨4, [1, 0, 1], [1, 2]⟩, ⟨3, [1], [4]⟩, ⟨4, [2, 1], [5]⟩] }

/-- The account of the first instruction moves up to the signers with the second, and the third
finds it there. -/
theorem append_all_eq_compile_of_signing :
    readingTransaction.appendAll signingInstructions = .ok signingTransaction
      ∧ Message.compile true (Block.ofNat 32 9) (readingInstruction :: signingInstructions)
          (Block.zero 32) = .ok signingTransaction.message := by
  have h : readingTransaction.appendAll signingInstructions = .ok signingTransaction := rfl
  obtain ⟨payer, before, hpayer, hbefore, hall⟩ :=
    append_all_eq_compile (List.cons_ne_nil _ _) h
  obtain rfl : Block.ofNat 32 9 = payer := Option.some.inj hpayer
  obtain rfl : [readingInstruction] = before := Except.ok.inj ((by rfl : _ = _).trans hbefore)
  obtain ⟨m, hm, -, hsigning⟩ := hall (by decide) (by decide)
  refine ⟨h, ?_⟩
  rw [hsigning]
  exact hm

end Transaction

end Paymaster
