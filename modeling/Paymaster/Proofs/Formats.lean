import Mathlib
import Paymaster.Proofs.Limits

/-!
# Two formats, one meaning

A legacy message and the message of version 0 that is made of it are read by different rules and
compiled under different limits.  This file says where that makes no difference.

**Reading.**  The legacy rule for the writable positions subtracts bytes, which can wrap; the rule of
version 0 subtracts lengths, which stop at zero.  While the counts of the header fit
(`Message.CountsFit`), neither happens, and the rules agree (`isWritablePosition_inVersion0`).  All
else of expanding looks at the parts that both formats have (`expand_inVersion0`).

**Compiling.**  Both formats share the layout, and differ in what they refuse.  While one byte can
number every key, both refuse what has no layout, and nothing else (`compile_formats`).

The main statement is `Transaction.append_formats`.  It also says what is left: where the payer is
the 257th key, version 0 refuses, and the legacy format need not.
-/

namespace Paymaster

namespace Message

/-- The parts of a message in version 0, without lookups. -/
def inVersion0 (m : Message) : Message :=
  { m with format := .v0 [] }

/-- The counts of the header fit: no more signers are only read than there are signers, and the
others that are only read have room behind the signers. -/
def CountsFit (m : Message) : Prop :=
  m.header.readonlySigned ≤ m.header.required
    ∧ m.header.required.toNat + m.header.readonlyUnsigned.toNat ≤ m.keys.length

instance (m : Message) : Decidable m.CountsFit :=
  inferInstanceAs (Decidable (_ ∧ _))

variable {m : Message} {payer : PublicKey} {ixs : List Instruction}

/-! ## Reading -/

/-- **The rules for writable positions agree**, since no subtraction wraps and none stops short. -/
lemma isWritablePosition_inVersion0 (hformat : m.format = .legacy) (hcounts : m.CountsFit) (i : ℕ) :
    m.inVersion0.isWritablePosition i = m.isWritablePosition i := by
  rcases hcounts with ⟨hsigned, hkeys⟩
  have hsub := UInt8.toNat_sub_of_le _ _ hsigned
  rw [UInt8.le_iff_toNat_le] at hsigned
  have hversion0 : m.inVersion0.isWritablePosition i
      = if i < m.header.required.toNat then
          decide (i < m.header.required.toNat - m.header.readonlySigned.toNat)
        else
          decide (i - m.header.required.toNat
            < m.keys.length - m.header.required.toNat - m.header.readonlyUnsigned.toNat) := rfl
  rw [hversion0, isWritablePosition, hformat, Bool.eq_iff_iff]
  simp only [hsub, Bool.or_eq_true, Bool.and_eq_true, decide_eq_true_eq]
  split_ifs with hi
  · rw [decide_eq_true_eq]
    omega
  · rw [decide_eq_true_eq]
    omega

lemma accountAt_inVersion0 (hformat : m.format = .legacy) (hcounts : m.CountsFit) (i : UInt8) :
    m.inVersion0.accountAt i = m.accountAt i := by
  have hwritable : ∀ key, m.inVersion0.isWritable i.toNat key = m.isWritable i.toNat key := by
    intro key
    rw [isWritable, isWritable, isWritablePosition_inVersion0 hformat hcounts]
    rfl
  simp only [accountAt, hwritable]
  rfl

/-- **Expanding does not depend on the format**, in its result or its error. -/
theorem expand_inVersion0 (hformat : m.format = .legacy) (hcounts : m.CountsFit) :
    m.inVersion0.expand = m.expand := by
  have hone : m.inVersion0.expandOne = m.expandOne := by
    funext ix
    simp only [expandOne, funext (accountAt_inVersion0 hformat hcounts)]
    rfl
  have hlookups : m.inVersion0.lookups = m.lookups := by
    simp only [lookups, inVersion0, hformat]
  rw [expand, expand, hone, hlookups]
  rfl

/-! ## Compiling -/

/-- **Both formats are compiled alike**, while one byte can number every key: where the header
cannot count them, both refuse. -/
lemma compile_formats (blockhash : Blockhash) (hfew : (distinctKeys payer ixs).length ≤ 256) :
    ((∃ err, compile true payer ixs blockhash = .error err)
        ∧ ∃ err, compile false payer ixs blockhash = .error err)
      ∨ ∃ new, compile true payer ixs blockhash = .ok new
        ∧ compile false payer ixs blockhash = .ok new.inVersion0 := by
  cases hlayout : layout? payer (KeyTable.ofInstructions ixs) with
  | none =>
      left
      simp only [compile, hlayout]
      exact ⟨⟨_, rfl⟩, _, rfl⟩
  | some laid =>
      rcases laid with ⟨header, keys⟩
      have hkeys := (layout?_eq_some_iff.mp hlayout).length_keys
      have hroom : ¬ 256 < keys.length := by omega
      right
      simp [compile, hlayout, hroom, inVersion0]

end Message

namespace Transaction

/-- A transaction whose message is in version 0, without lookups. -/
def inVersion0 (tx : Transaction) : Transaction :=
  { tx with message := tx.message.inVersion0 }

variable {tx tx0 : Transaction} {ix : Instruction}

/-! ## Appending -/

/-- Nothing is appended where there is no payer, or where the instructions cannot be told. -/
lemma append_error_of_unknown (hunknown : ¬ ∃ payer before,
      tx.message.keys.head? = some payer ∧ tx.message.expand = .ok before) :
    ∃ err, tx.append ix = .error err := by
  rw [exists_error_iff]
  rintro ⟨tx', h⟩
  obtain ⟨payer, before, _, hpayer, hbefore, -⟩ := append_eq_ok_iff.mp h
  exact hunknown ⟨payer, before, hpayer, hbefore⟩

/-- Appending fails where compiling does. -/
lemma append_error_of_compile {payer : PublicKey} {before : List Instruction} {err : Error}
    (hpayer : tx.message.keys.head? = some payer) (hbefore : tx.message.expand = .ok before)
    (h : Message.compile (tx.message.format = .legacy) payer (before ++ [ix]) tx.message.blockhash
      = .error err) :
    ∃ err, tx.append ix = .error err := by
  rw [exists_error_iff]
  rintro ⟨tx', htx'⟩
  obtain ⟨m, hm, -⟩ := (append_eq_ok_iff_of_known hpayer hbefore).mp htx'
  cases h.symm.trans hm

/-- **Both formats are appended to alike**, while one byte can number every key.  The signatures that
were there do not matter. -/
lemma append_alike {payer : PublicKey} {before : List Instruction} (signatures : List Signature)
    (hformat : tx.message.format = .legacy) (hpayer : tx.message.keys.head? = some payer)
    (hbefore : tx.message.expand = .ok before)
    (hbefore0 : tx.message.inVersion0.expand = .ok before)
    (hfew : (distinctKeys payer (before ++ [ix])).length ≤ 256) :
    ((∃ err, tx.append ix = .error err)
        ∧ ∃ err, append ⟨signatures, tx.message.inVersion0⟩ ix = .error err)
      ∨ ∃ tx', tx.append ix = .ok tx' ∧ tx'.message.format = .legacy
        ∧ append ⟨signatures, tx.message.inVersion0⟩ ix = .ok tx'.inVersion0 := by
  have hlegacy : decide (tx.message.format = .legacy) = true := decide_eq_true hformat
  rcases Message.compile_formats tx.message.blockhash hfew with ⟨⟨_, hold⟩, _, hnew⟩ | ⟨m, hold, hnew⟩
  · rw [← hlegacy] at hold
    exact Or.inl ⟨append_error_of_compile hpayer hbefore hold,
      append_error_of_compile hpayer hbefore0 hnew⟩
  · rw [← hlegacy] at hold
    refine Or.inr ⟨unsigned m, ?_, (format_of_recompile hbefore hold).trans hformat, ?_⟩
    · exact (append_eq_ok_iff_of_known hpayer hbefore).mpr ⟨m, hold, rfl⟩
    · refine (append_eq_ok_iff_of_known ?_ hbefore0).mpr ⟨_, hnew, rfl⟩
      exact hpayer

/-- **The formats are appended to alike**, up to the last key.

Let a legacy transaction have a header whose counts fit, and let another hold the same in version 0,
without lookups.

* Both expand to the same instructions, or fail with the same error.
* Say `before` are these instructions, and with one more they mention at most 256 keys, to which the
  payer does not come as a 257th.  Then appending it fails for both, or gives the same for both, in
  the legacy format and in version 0.
* Where the payer does come as a 257th, version 0 refuses.  The legacy format refuses only where one
  byte does not hold the number of keys that sign, or of those that are only read. -/
theorem append_formats (hformat : tx.message.format = .legacy) (hcounts : tx.message.CountsFit)
    (hsame : tx0.message = tx.message.inVersion0) :
    tx0.message.expand = tx.message.expand
      ∧ (∀ ix, (∀ payer before, tx.message.keys.head? = some payer →
          tx.message.expand = .ok before → (mentionedKeys (before ++ [ix])).length ≤ 256
            ∧ ¬ OneKeyTooMany payer (before ++ [ix])) →
          ((∃ err, tx.append ix = .error err) ∧ ∃ err, tx0.append ix = .error err)
            ∨ ∃ tx', tx.append ix = .ok tx' ∧ tx'.message.format = .legacy
              ∧ tx0.append ix = .ok tx'.inVersion0)
      ∧ ∀ ix payer before, tx.message.keys.head? = some payer → tx.message.expand = .ok before →
          OneKeyTooMany payer (before ++ [ix]) →
            (∃ err, tx0.append ix = .error err)
            ∧ ((∃ tx', tx.append ix = .ok tx') ↔ (signersOf payer (before ++ [ix])).length < 256
              ∧ (readersOf payer (before ++ [ix])).length < 256) := by
  obtain ⟨signatures, message⟩ := tx0
  subst hsame
  have hexpand := Message.expand_inVersion0 hformat hcounts
  refine ⟨hexpand, ?_, ?_⟩
  · intro ix hroom
    by_cases hknown : ∃ payer before,
        tx.message.keys.head? = some payer ∧ tx.message.expand = .ok before
    · rcases hknown with ⟨payer, before, hpayer, hbefore⟩
      rcases hroom payer before hpayer hbefore with ⟨hfew, hone⟩
      exact append_alike signatures hformat hpayer hbefore (hexpand.trans hbefore)
        (length_distinctKeys_le hfew hone)
    · have hunknown := hknown
      rw [← hexpand] at hunknown
      exact Or.inl ⟨append_error_of_unknown hknown, append_error_of_unknown hunknown⟩
  · intro ix payer before hpayer hbefore hmany
    have hlength := length_distinctKeys_of_oneKeyTooMany hmany
    have hversion0 : (∃ tx', append ⟨signatures, tx.message.inVersion0⟩ ix = .ok tx') ↔ _ :=
      append_isOk_iff hpayer (hexpand.trans hbefore)
    rw [exists_error_iff, hversion0, append_isOk_iff hpayer hbefore]
    constructor
    · rintro ⟨-, -, hfew⟩
      have := hfew Format.noConfusion
      omega
    · have hvacuous : tx.message.format ≠ .legacy →
          (distinctKeys payer (before ++ [ix])).length ≤ 256 := fun h => absurd hformat h
      rw [and_iff_left hvacuous]

/-- A legacy transaction that has its payer twice among its keys, with one of its two signers and one
of its other keys only read. -/
def repeatingTransaction : Transaction :=
  { signatures := []
    message :=
      { format := .legacy
        header := ⟨2, 1, 1⟩
        keys := [Block.ofNat 32 9, Block.ofNat 32 7, Block.ofNat 32 9, Block.ofNat 32 8]
        blockhash := Block.zero 32
        instructions := [⟨3, [1, 2, 0], [4]⟩] } }

/-- What it says: the second of its keys signs and is only read. -/
def repeatingInstruction : Instruction :=
  { program := Block.ofNat 32 8
    accounts := [⟨Block.ofNat 32 7, true, false⟩, ⟨Block.ofNat 32 9, false, true⟩,
      ⟨Block.ofNat 32 9, true, true⟩]
    data := [4] }

/-- Both formats take an instruction in. -/
theorem append_formats_of_repeating :
    repeatingTransaction.message.CountsFit
      ∧ ∃ tx', repeatingTransaction.append callingInstruction = .ok tx'
        ∧ repeatingTransaction.inVersion0.append callingInstruction = .ok tx'.inVersion0 := by
  have hcounts : repeatingTransaction.message.CountsFit := by decide
  have hsame : repeatingTransaction.inVersion0.message = repeatingTransaction.message.inVersion0 :=
    rfl
  have hroom : ∀ payer before, repeatingTransaction.message.keys.head? = some payer →
      repeatingTransaction.message.expand = .ok before →
        (mentionedKeys (before ++ [callingInstruction])).length ≤ 256
          ∧ ¬ OneKeyTooMany payer (before ++ [callingInstruction]) := by
    intro payer before _ hbefore
    obtain rfl : [repeatingInstruction] = before := Except.ok.inj ((by rfl : _ = _).trans hbefore)
    exact ⟨by decide, fun hmany => absurd hmany.2 (by decide)⟩
  have hok : ∃ tx', repeatingTransaction.append callingInstruction = .ok tx' := ⟨_, rfl⟩
  obtain ⟨-, halike, -⟩ := append_formats rfl hcounts hsame
  rcases halike callingInstruction hroom with ⟨hfails, -⟩ | ⟨tx', h, -, h0⟩
  · exact absurd hok ((exists_error_iff _).mp hfails)
  · exact ⟨hcounts, tx', h, h0⟩

/-- **The formats part at the 257th key.**  The instruction mentions 256 keys, and the payer is one
more: the legacy format takes it, and version 0 refuses. -/
theorem crowded_formats_part :
    bareTransaction.message.format = .legacy
      ∧ bareTransaction.message.CountsFit
      ∧ bareTransaction.message.expand = .ok []
      ∧ (mentionedKeys ([] ++ [crowd 255 false])).length ≤ 256
      ∧ (∃ tx', bareTransaction.append (crowd 255 false) = .ok tx')
      ∧ ∃ err, bareTransaction.inVersion0.append (crowd 255 false) = .error err := by
  have hmentioned := length_mentionedKeys_crowd (le_refl 255) false
  have hkeys := length_distinctKeys_crowd (le_refl 255) false
  have hsigners := length_signersOf_crowd_false 255
  have hreaders := length_readersOf_crowd 255 false
  have hpayer : bareTransaction.inVersion0.message.keys.head? = some (Block.ofNat 32 9) := rfl
  have hexpand : bareTransaction.inVersion0.message.expand = .ok [] := rfl
  refine ⟨rfl, by decide, rfl, ?_, ?_, ?_⟩
  · rw [List.nil_append]
    omega
  · rw [append_isOk_iff head?_bareTransaction expand_bareTransaction, List.nil_append]
    exact ⟨by omega, by omega, fun h => absurd rfl h⟩
  · rw [exists_error_iff, append_isOk_iff hpayer hexpand, List.nil_append, hkeys]
    rintro ⟨-, -, hfew⟩
    exact absurd (hfew Format.noConfusion) (by decide)

end Transaction

end Paymaster
