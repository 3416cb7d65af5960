import Mathlib
import Paymaster.Proofs.Limits

/-!
# Telling appended texts apart

An instruction that is appended to a transaction can be found in the text that comes of it.  What is
around it does not depend on its data, and its data can be read off.

**Other data.**  Where keys stand is settled by which program is called with which accounts.  So if
one instruction can be appended, another with other data of the same length can be, too
(`Message.compile_of_resembles`, `appendedText_of_resembles`).

**Reading off.**  Two transactions of one format have different bytes, also where a legacy message has
so many signers that it cannot be read back (`eq_of_prefix_of_format`).  So a text with an
instruction appended is not the text that it was appended to (`appendedText_ne`), and two such texts
are the same only for the same data (`data_eq_of_appendedText`).
-/

namespace Paymaster

open Rpc
open Wire (lengthLimit)

/-! ## Other data -/

/-- Two instructions call the same program with the same accounts and with as much data. -/
structure Instruction.Resembles (ix ix' : Instruction) : Prop where
  program : ix'.program = ix.program
  accounts : ix'.accounts = ix.accounts
  length : ix'.data.length = ix.data.length

namespace Message

variable {legacy : Bool} {payer : PublicKey} {ixs : List Instruction} {ix ix' : Instruction}
  {blockhash : Blockhash} {m : Message}

/-- **The layout of a message does not depend on the data** of an instruction, and neither does
whether it can be written. -/
lemma compile_of_resembles (h : ix.Resembles ix')
    (hm : compile legacy payer (ixs ++ [ix]) blockhash = .ok m) :
    ∃ m', compile legacy payer (ixs ++ [ix']) blockhash = .ok m' ∧ m'.fits = m.fits := by
  obtain ⟨hlayout, hfew, hformat, hblockhash, -⟩ := compile_eq_ok_iff.mp hm
  have htable : KeyTable.ofInstructions (ixs ++ [ix']) = KeyTable.ofInstructions (ixs ++ [ix]) := by
    simp [KeyTable.ofInstructions, KeyTable.noteInstruction, h.program, h.accounts]
  have hkeys : ix'.keys = ix.keys := by
    rw [Instruction.keys, Instruction.keys, h.program, h.accounts]
  have hm' : compile legacy payer (ixs ++ [ix']) blockhash
      = .ok { m with instructions := (ixs ++ [ix']).map (compileOne m.keys) } :=
    compile_eq_ok_iff.mpr ⟨htable ▸ hlayout, hfew, hformat, hblockhash, rfl⟩
  have hshort : Short payer (ixs ++ [ix']) ↔ Short payer (ixs ++ [ix]) := by
    simp [Short, distinctKeys, or_imp, forall_and, hkeys, h.accounts, h.length]
  refine ⟨_, hm', ?_⟩
  rw [Bool.eq_iff_iff, fits_of_compile_iff hm', fits_of_compile_iff hm, hshort]

/-- A compiled message has as many instructions as were compiled. -/
lemma length_instructions_of_compile (h : compile legacy payer ixs blockhash = .ok m) :
    m.instructions.length = ixs.length := by
  obtain ⟨-, -, -, -, hinstructions⟩ := compile_eq_ok_iff.mp h
  rw [hinstructions, List.length_map]

/-- The data of the last instruction can be told from a compiled message. -/
lemma data_eq_of_compile (h : compile legacy payer (ixs ++ [ix]) blockhash = .ok m)
    (h' : compile legacy payer (ixs ++ [ix']) blockhash = .ok m) : ix.data = ix'.data := by
  obtain ⟨-, -, -, -, hinstructions⟩ := compile_eq_ok_iff.mp h
  obtain ⟨-, -, -, -, hinstructions'⟩ := compile_eq_ok_iff.mp h'
  have hlast : compileOne m.keys ix = compileOne m.keys ix' := by
    simpa using hinstructions.symm.trans hinstructions'
  exact congrArg CompiledInstruction.data hlast

lemma length_of_mapM {α β : Type} {f : α → Except Error β} {xs : List α} {ys : List β}
    (h : xs.mapM f = .ok ys) : ys.length = xs.length := by
  induction xs generalizing ys with
  | nil =>
      obtain rfl := Except.ok.inj h
      rfl
  | cons x xs ih =>
      simp only [List.mapM_cons, bind_eq_ok_iff, pure_eq_ok_iff] at h
      obtain ⟨y, -, rest, hrest, rfl⟩ := h
      rw [List.length_cons, List.length_cons, ih hrest]

/-- A message expands to as many instructions as it has. -/
lemma length_of_expand (h : m.expand = .ok ixs) : ixs.length = m.instructions.length := by
  unfold expand at h
  split_ifs at h
  exact length_of_mapM h

end Message

namespace Transaction

variable {tx tx' : Transaction} {ix ix' : Instruction} {text : String}

lemma fits_iff : tx.fits = true ↔ tx.signatures.length ≤ lengthLimit ∧ tx.message.fits = true := by
  rw [fits, Bool.and_eq_true, decide_eq_true_eq]

/-- **Two transactions of one format can be told apart by their bytes**, also where the number of
signers makes a legacy message unreadable. -/
lemma eq_of_prefix_of_format (htx : tx.fits = true) (htx' : tx'.fits = true)
    (hformat : tx'.message.format = tx.message.format) (h : tx.toBytes <+: tx'.toBytes) :
    tx = tx' := by
  cases hlegacy : tx.message.format with
  | v0 ls =>
      have hexpressible : tx.Expressible := ⟨htx, fun h => by cases hlegacy.symm.trans h⟩
      have hexpressible' : tx'.Expressible :=
        ⟨htx', fun h => by cases hlegacy.symm.trans (hformat.symm.trans h)⟩
      exact eq_of_toBytes_prefix ⟨hexpressible, h⟩ ⟨hexpressible', List.prefix_refl _⟩
  | legacy =>
      have hsignatures := Wire.readList_inverts (Wire.readBlock_inverts 64)
      obtain ⟨rest, hrest⟩ := h
      obtain ⟨hmany, hmessage⟩ := fits_iff.mp htx
      obtain ⟨hmany', hmessage'⟩ := fits_iff.mp htx'
      have hbytes : tx.message.toBytes = tx.message.bodyBytes := by rw [Message.toBytes, hlegacy]
      have hbytes' : tx'.message.toBytes = tx'.message.bodyBytes := by
        rw [Message.toBytes, hformat, hlegacy]
      rw [toBytes, toBytes, hbytes, hbytes', List.append_assoc] at hrest
      have hread := (hsignatures _ tx.signatures (tx.message.bodyBytes ++ rest)).mpr
        ⟨⟨hmany, fun _ _ => trivial⟩, hrest.symm⟩
      have hread' := (hsignatures _ tx'.signatures tx'.message.bodyBytes).mpr
        ⟨⟨hmany', fun _ _ => trivial⟩, rfl⟩
      obtain ⟨hsame, hbody⟩ := Prod.mk.inj (Option.some.inj (hread.symm.trans hread'))
      -- what is behind the signatures is read as a body, whatever its first byte is
      have hfirst := (Message.readBody_eq_some_iff _ rest tx.message).mpr
        ⟨hlegacy, (Message.fits_iff _).mp hmessage |>.1, hbody.symm⟩
      have hsecond := (Message.readBody_eq_some_iff tx'.message.bodyBytes [] tx'.message).mpr
        ⟨hformat.trans hlegacy, (Message.fits_iff _).mp hmessage' |>.1, (List.append_nil _).symm⟩
      obtain ⟨hmessages, -⟩ := Prod.mk.inj (Option.some.inj (hfirst.symm.trans hsecond))
      obtain ⟨signatures, message⟩ := tx
      obtain ⟨signatures', message'⟩ := tx'
      rw [mk.injEq]
      exact ⟨hsame, hmessages⟩

/-- Signatures in the places of the signers do not make a list too long either. -/
lemma fits_partiallySign (m : Message) (seeds : List Crypto.Ed25519.Seed) :
    (partiallySign m seeds).fits = m.fits := by
  have hrequired := m.header.required.toNat_lt
  have hplaces : (partiallySign m seeds).signatures.length ≤ lengthLimit := by
    rw [partiallySign, List.length_map, List.length_take, lengthLimit]
    omega
  rw [fits, decide_eq_true hplaces]
  rfl

lemma Encoding.textOf_injective (e : Encoding) : Function.Injective e.textOf := by
  intro bytes bytes' h
  have hback := e.bytesOf_textOf bytes
  rw [h, e.bytesOf_textOf] at hback
  exact (Except.ok.inj hback).symm

/-- What a text with one more instruction was made of. -/
lemma appendedText_eq_ok {tx : Transaction} (h : tx.appendedText .base64 ix = .ok text) :
    ∃ payer before m, tx.message.keys.head? = some payer ∧ tx.message.expand = .ok before
      ∧ Message.compile (tx.message.format = .legacy) payer (before ++ [ix]) tx.message.blockhash
        = .ok m
      ∧ m.fits = true ∧ text = Encoding.base64.textOf (unsigned m).toBytes := by
  obtain ⟨tx', happend, hencode⟩ := bind_eq_ok_iff.mp h
  obtain ⟨payer, before, m, hpayer, hbefore, hm, rfl⟩ := append_eq_ok_iff.mp happend
  obtain ⟨hfits, htext⟩ := encode_eq_ok_iff.mp hencode
  exact ⟨payer, before, m, hpayer, hbefore, hm, (fits_unsigned m).symm.trans hfits, htext⟩

/-- **Which payment it is does not matter** to whether it can be appended. -/
lemma appendedText_of_resembles (hresembles : ix.Resembles ix')
    (h : tx.appendedText .base64 ix = .ok text) :
    ∃ text', tx.appendedText .base64 ix' = .ok text' := by
  obtain ⟨payer, before, m, hpayer, hbefore, hm, hfits, -⟩ := appendedText_eq_ok h
  obtain ⟨m', hm', hfits'⟩ := Message.compile_of_resembles hresembles hm
  have happend := (append_eq_ok_iff_of_known hpayer hbefore).mpr ⟨m', hm', rfl⟩
  refine ⟨_, bind_eq_ok_iff.mpr ⟨_, happend, encode_eq_ok_iff.mpr ⟨?_, rfl⟩⟩⟩
  rw [fits_unsigned, hfits', hfits]

/-- A text with one more instruction is not the text that was decoded. -/
lemma appendedText_ne (hdecode : decode .base64 (.str (Text.ofString text)) = .ok tx) :
    tx.appendedText .base64 ix ≠ .ok text := by
  intro h
  obtain ⟨payer, before, m, hpayer, hbefore, hm, hfits, rfl⟩ := appendedText_eq_ok h
  obtain ⟨hexpressible, hprefix⟩ := (decode_textOf_iff _ _ _).mp hdecode
  have hsame : tx = unsigned m := eq_of_prefix_of_format hexpressible.1
    ((fits_unsigned m).trans hfits) (format_of_recompile hbefore hm) hprefix
  have hcount := Message.length_of_expand hbefore
  have hcount' := Message.length_instructions_of_compile hm
  rw [congrArg Transaction.message hsame, unsigned, hcount', List.length_append] at hcount
  simp at hcount

/-- Texts with one more instruction show its data. -/
lemma data_eq_of_appendedText (h : tx.appendedText .base64 ix = .ok text)
    (h' : tx.appendedText .base64 ix' = .ok text) : ix.data = ix'.data := by
  obtain ⟨payer, before, m, hpayer, hbefore, hm, hfits, rfl⟩ := appendedText_eq_ok h
  obtain ⟨payer', before', m', hpayer', hbefore', hm', hfits', htext⟩ := appendedText_eq_ok h'
  obtain rfl := Option.some.inj (hpayer.symm.trans hpayer')
  obtain rfl := Except.ok.inj (hbefore.symm.trans hbefore')
  have hbytes := Encoding.base64.textOf_injective htext
  have hsame : unsigned m = unsigned m' := eq_of_prefix_of_format ((fits_unsigned m).trans hfits)
    ((fits_unsigned m').trans hfits')
    ((format_of_recompile hbefore hm').trans (format_of_recompile hbefore hm).symm)
    (hbytes ▸ List.prefix_refl _)
  obtain rfl : m = m' := congrArg Transaction.message hsame
  exact Message.data_eq_of_compile hm hm'

end Transaction

end Paymaster
