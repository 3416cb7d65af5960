import Mathlib
import Paymaster.Proofs.Limits

/-!
# When appending is refused

A message that was read may hold any counts and any indices: nothing ties them to its table of keys.
Appending an instruction has to resolve them all.  This file says just when it can, and how it fails
when it cannot.

**One way to fail.**  `Decides x e p` says that a call succeeds where `p` holds, and fails with `e`
everywhere else.  Sequences and traversals keep it (`Decides.bind`, `Decides.mapM`), so that looking
up a key decides for all of expanding: without lookups, a message expands exactly where all of its
indices resolve (`expand_decides`).

**Few keys are never refused.**  With at most 255 keys every count fits into its byte, so compiling
again cannot fail (`append_isOk_of_few`).

The main statement is `Transaction.append_refusals`.
-/

namespace Paymaster

/-! ## One way to fail -/

/-- A call succeeds where a condition holds, and fails in one way everywhere else. -/
def Decides {α : Type} (x : Except Error α) (e : Error) (p : Prop) : Prop :=
  (p → ∃ a, x = .ok a) ∧ (¬ p → x = .error e)

namespace Decides

variable {α β : Type} {e : Error} {p q : Prop}

lemma pure (a : α) : Decides (pure a) e True :=
  ⟨fun _ => ⟨a, rfl⟩, fun h => absurd trivial h⟩

lemma congr {x : Except Error α} (h : Decides x e p) (hpq : p ↔ q) : Decides x e q := by
  rwa [Decides, ← hpq]

/-- **A sequence** needs what its first part needs and what its second part needs. -/
lemma bind {x : Except Error α} {f : α → Except Error β} (hx : Decides x e p)
    (hf : ∀ a, Decides (f a) e q) : Decides (x >>= f) e (p ∧ q) := by
  by_cases hp : p
  · obtain ⟨a, rfl⟩ := hx.1 hp
    exact (hf a).congr (and_iff_right hp).symm
  · obtain rfl := hx.2 hp
    exact ⟨fun h => absurd h.1 hp, fun _ => rfl⟩

/-- **A traversal** needs what each of its calls needs. -/
lemma mapM {f : α → Except Error β} {needs : α → Prop} (h : ∀ a, Decides (f a) e (needs a))
    (xs : List α) : Decides (xs.mapM f) e (∀ a ∈ xs, needs a) := by
  induction xs with
  | nil => exact (pure []).congr (by simp)
  | cons a xs ih =>
      rw [List.mapM_cons]
      refine ((h a).bind fun b => ih.bind fun bs => pure (b :: bs)).congr ?_
      rw [and_true, List.forall_mem_cons]

end Decides

namespace Message

variable {m : Message}

/-! ## Resolving indices -/

/-- An index points into the table of keys. -/
def Resolves (m : Message) (i : UInt8) : Prop :=
  i.toNat < m.keys.length

/-- The program and the accounts of every instruction point into the table of keys. -/
def AllResolve (m : Message) : Prop :=
  ∀ ix ∈ m.instructions, m.Resolves ix.program ∧ ∀ i ∈ ix.accounts, m.Resolves i

instance (m : Message) : Decidable m.AllResolve :=
  inferInstanceAs (Decidable (∀ ix ∈ m.instructions,
    ix.program.toNat < m.keys.length ∧ ∀ i ∈ ix.accounts, i.toNat < m.keys.length))

lemma keyAt_decides (m : Message) (i : UInt8) : Decides (m.keyAt i) .index (m.Resolves i) := by
  unfold keyAt
  constructor
  · intro h
    rw [List.getElem?_eq_getElem h]
    exact ⟨_, rfl⟩
  · intro h
    rw [List.getElem?_eq_none (Nat.le_of_not_lt h)]

lemma accountAt_decides (m : Message) (i : UInt8) :
    Decides (m.accountAt i) .index (m.Resolves i) :=
  ((m.keyAt_decides i).bind fun _ => Decides.pure _).congr (and_true _).to_iff

lemma expandOne_decides (m : Message) (ix : CompiledInstruction) :
    Decides (m.expandOne ix) .index
      (m.Resolves ix.program ∧ ∀ i ∈ ix.accounts, m.Resolves i) := by
  have haccounts := Decides.mapM m.accountAt_decides ix.accounts
  refine (haccounts.bind fun _ => (m.keyAt_decides ix.program).bind fun _ => Decides.pure _).congr ?_
  rw [and_true, and_comm]

/-- **Without lookups, the indices decide**: a message expands where all of them resolve. -/
lemma expand_decides (hlookups : m.lookups = []) : Decides m.expand .index m.AllResolve := by
  rw [expand, if_pos (List.isEmpty_iff.mpr hlookups)]
  exact Decides.mapM m.expandOne_decides m.instructions

/-- With lookups nothing is expanded, whatever the indices are. -/
lemma expand_of_lookups (hlookups : m.lookups ≠ []) : m.expand = .error .usesLookups := by
  rw [expand, if_neg (mt List.isEmpty_iff.mp hlookups)]

end Message

namespace Transaction

variable {tx : Transaction} {ix : Instruction}

/-! ## Appending -/

/-- The payer is looked for before anything else. -/
lemma append_of_no_keys (hkeys : tx.message.keys = []) : tx.append ix = .error .index := by
  simp only [append, hkeys]

/-- With a payer, appending fails as expanding does. -/
lemma append_of_expand_error {e : Error} (hkeys : tx.message.keys ≠ [])
    (hexpand : tx.message.expand = .error e) : tx.append ix = .error e := by
  obtain ⟨payer, others, hcons⟩ := List.exists_cons_of_ne_nil hkeys
  simp only [append, hcons, hexpand]
  rfl

/-- **Few keys are never refused**: there are no more signers, and no more keys that are only read,
than keys. -/
lemma append_isOk_of_few {payer : PublicKey} {before : List Instruction}
    (hpayer : tx.message.keys.head? = some payer) (hbefore : tx.message.expand = .ok before)
    (hfew : (distinctKeys payer (before ++ [ix])).length ≤ 255) : ∃ tx', tx.append ix = .ok tx' := by
  have hsigners : (signersOf payer (before ++ [ix])).length ≤ _ := length_signersOf_le
  have hreaders : (readersOf payer (before ++ [ix])).length
      ≤ (distinctKeys payer (before ++ [ix])).length := List.length_filter_le _ _
  exact (append_isOk_iff hpayer hbefore).mpr ⟨by omega, by omega, fun _ => by omega⟩

/-- **When appending is refused.**

Take any transaction, and an instruction that mentions, together with those of the transaction and
the payer, at most 255 keys.  Appending it gives a transaction exactly where there is a key at all,
no lookup is used, and the program and the accounts of every instruction point into the table of
keys.  What is amiss is found in this order:

* without a key, the payer's index fails;
* with lookups, the message is refused in words of its own, whatever its indices are;
* otherwise an index fails. -/
theorem append_refusals
    (hfew : ∀ payer before, tx.message.keys.head? = some payer → tx.message.expand = .ok before →
      (distinctKeys payer (before ++ [ix])).length ≤ 255) :
    ((∃ tx', tx.append ix = .ok tx')
        ↔ tx.message.keys ≠ [] ∧ tx.message.lookups = [] ∧ tx.message.AllResolve)
      ∧ (tx.message.keys = [] → tx.append ix = .error .index)
      ∧ (tx.message.keys ≠ [] → tx.message.lookups ≠ [] → tx.append ix = .error .usesLookups
        ∧ ∃ details, Error.usesLookups.message = "cannot decompile" ++ details)
      ∧ (tx.message.keys ≠ [] → tx.message.lookups = [] → ¬ tx.message.AllResolve →
        tx.append ix = .error .index) := by
  have hnone : tx.message.keys = [] → tx.append ix = .error .index := append_of_no_keys
  have hlookups : tx.message.keys ≠ [] → tx.message.lookups ≠ [] →
      tx.append ix = .error .usesLookups :=
    fun hkeys h => append_of_expand_error hkeys (Message.expand_of_lookups h)
  have hindex : tx.message.keys ≠ [] → tx.message.lookups = [] → ¬ tx.message.AllResolve →
      tx.append ix = .error .index :=
    fun hkeys hplain h => append_of_expand_error hkeys ((Message.expand_decides hplain).2 h)
  refine ⟨⟨?_, ?_⟩, hnone, fun hkeys h => ⟨hlookups hkeys h, ?_⟩, hindex⟩
  · intro hok
    -- each of the refusals rules out that there is a result
    have hnot : ∀ err, tx.append ix ≠ .error err := fun err herr =>
      (exists_error_iff _).mp ⟨err, herr⟩ hok
    have hkeys : tx.message.keys ≠ [] := fun h => hnot _ (hnone h)
    have hplain : tx.message.lookups = [] := by_contra fun h => hnot _ (hlookups hkeys h)
    exact ⟨hkeys, hplain, by_contra fun h => hnot _ (hindex hkeys hplain h)⟩
  · rintro ⟨hkeys, hplain, hall⟩
    obtain ⟨payer, others, hcons⟩ := List.exists_cons_of_ne_nil hkeys
    have hpayer : tx.message.keys.head? = some payer := by rw [hcons, List.head?_cons]
    obtain ⟨before, hbefore⟩ := (Message.expand_decides hplain).1 hall
    exact append_isOk_of_few hpayer hbefore (hfew payer before hpayer hbefore)
  · exact ⟨" a message that uses address lookup tables", rfl⟩

/-- A transaction of version 0 whose header counts more keys than there are, and whose instruction
passes the account of an index to the second of its two keys. -/
def looseTransaction (i : UInt8) : Transaction :=
  { signatures := []
    message :=
      { format := .v0 []
        header := ⟨9, 40, 7⟩
        keys := [Block.ofNat 32 9, Block.ofNat 32 8]
        blockhash := Block.zero 32
        instructions := [⟨1, [0, i], [4]⟩] } }

/-- What it says, if the index is that of its payer. -/
def looseInstruction : Instruction :=
  { program := Block.ofNat 32 8
    accounts := [⟨Block.ofNat 32 9, true, false⟩, ⟨Block.ofNat 32 9, true, false⟩]
    data := [4] }

/-- Its counts do not matter, and its index does. -/
theorem append_refusals_of_loose :
    (∃ tx', (looseTransaction 0).append callingInstruction = .ok tx')
      ∧ (looseTransaction 7).append callingInstruction = .error .index := by
  have hexpands : (looseTransaction 0).message.expand = .ok [looseInstruction] := rfl
  have hfew : ∀ payer before, (looseTransaction 0).message.keys.head? = some payer →
      (looseTransaction 0).message.expand = .ok before →
        (distinctKeys payer (before ++ [callingInstruction])).length ≤ 255 := by
    intro payer before hpayer hbefore
    obtain rfl : Block.ofNat 32 9 = payer := Option.some.inj hpayer
    obtain rfl : [looseInstruction] = before := Except.ok.inj (hexpands.symm.trans hbefore)
    decide
  have hfails : (looseTransaction 7).message.expand = .error .index := rfl
  have hnever : ∀ payer before, (looseTransaction 7).message.keys.head? = some payer →
      (looseTransaction 7).message.expand = .ok before →
        (distinctKeys payer (before ++ [callingInstruction])).length ≤ 255 := by
    intro payer before _ hbefore
    cases hfails.symm.trans hbefore
  obtain ⟨hok, -⟩ := append_refusals hfew
  obtain ⟨-, -, -, hindex⟩ := append_refusals hnever
  have hresolve : (looseTransaction 0).message.AllResolve := by
    by_contra h
    cases hexpands.symm.trans ((Message.expand_decides rfl).2 h)
  have hunresolved : ¬ (looseTransaction 7).message.AllResolve := by decide
  exact ⟨hok.mpr ⟨List.cons_ne_nil _ _, rfl, hresolve⟩,
    hindex (List.cons_ne_nil _ _) rfl hunresolved⟩

end Transaction

end Paymaster
