import Mathlib
import Paymaster.Message.Compile
import Paymaster.Message.Roles

/-!
# What a table of keys knows

A table of keys is built by noting one use after the other.  This file says what it holds in the
end, and where `Message.layout?` puts it.

**Contents.**  `KeyTable.Summarises` is the invariant of the notes: the keys stand in the order of
their bytes, they are exactly those that were used, and a role is asked for exactly when some use
asked for it.  One note preserves it (`Summarises.note`), hence a whole list of instructions has it
(`ofInstructions_summarises`).

**Layout.**  `Layout` names the four groups behind the payer.  The groups are disjoint because a
key has one usage, and that is what makes a position in the list of keys tell its role.
-/

namespace Paymaster

/-! ## Uses -/

/-- The keys that an instruction mentions. -/
def Instruction.keys (ix : Instruction) : List PublicKey :=
  ix.program :: ix.accounts.map (·.key)

/-- The uses that an instruction makes of its keys: its program is only called. -/
def Instruction.uses (ix : Instruction) : List (PublicKey × Usage) :=
  (ix.program, ⟨false, false⟩) :: ix.accounts.map fun a => (a.key, ⟨a.isSigner, a.isWritable⟩)

lemma Instruction.map_uses (ix : Instruction) : ix.uses.map (·.1) = ix.keys := by
  simp [uses, keys]

namespace KeyTable

/-- The keys stand in the order of their bytes, each once. -/
def Ordered (table : KeyTable) : Prop :=
  table.Pairwise fun a b => a.1.bytes < b.1.bytes

/-- Whether some use of a key asks for a role. -/
def AsksFor (role : Usage → Bool) (uses : List (PublicKey × Usage)) (key : PublicKey) : Prop :=
  ∃ usage, (key, usage) ∈ uses ∧ role usage = true

/-! ## One note -/

lemma mem_keys_note (key k : PublicKey) (usage : Usage) (table : KeyTable) :
    k ∈ (note key usage table).map (·.1) ↔ k = key ∨ k ∈ table.map (·.1) := by
  induction table with
  | nil => simp [note]
  | cons entry rest ih =>
      obtain ⟨other, known⟩ := entry
      simp only [note]
      split_ifs with heq hlt
      · subst heq
        simp
      · simp
      · simp only [List.map_cons, List.mem_cons, ih]
        tauto

lemma note_ordered (key : PublicKey) (usage : Usage) {table : KeyTable} (h : Ordered table) :
    Ordered (note key usage table) := by
  induction table with
  | nil => simp [note, Ordered]
  | cons entry rest ih =>
      obtain ⟨other, known⟩ := entry
      obtain ⟨hfirst, hrest⟩ := List.pairwise_cons.mp h
      simp only [note]
      split_ifs with heq hlt
      · exact List.pairwise_cons.mpr ⟨hfirst, hrest⟩
      · refine List.pairwise_cons.mpr ⟨?_, h⟩
        intro b hb
        rcases List.mem_cons.mp hb with rfl | hb
        · exact hlt
        · exact List.lt_trans hlt (hfirst b hb)
      · refine List.pairwise_cons.mpr ⟨?_, ih hrest⟩
        intro b hb
        have hb' : b.1 ∈ (note key usage rest).map (·.1) := List.mem_map_of_mem hb
        rcases (mem_keys_note key b.1 usage rest).mp hb' with hkey | hkey
        · -- neither equal nor smaller, so the noted key is greater
          rw [hkey]
          by_contra hnot
          exact heq (Block.ext (List.le_antisymm hnot hlt))
        · obtain ⟨c, hc, hcb⟩ := List.mem_map.mp hkey
          rw [← hcb]
          exact hfirst c hc

lemma asksFor_cons {role : Usage → Bool} (other k : PublicKey) (usage : Usage)
    (uses : List (PublicKey × Usage)) :
    AsksFor role ((other, usage) :: uses) k
      ↔ (k = other ∧ role usage = true) ∨ AsksFor role uses k := by
  simp only [AsksFor, List.mem_cons, Prod.mk.injEq]
  constructor
  · rintro ⟨u, ⟨hk, hu⟩ | hmem, hrole⟩
    · exact Or.inl ⟨hk, hu ▸ hrole⟩
    · exact Or.inr ⟨u, hmem, hrole⟩
  · rintro (⟨hk, hrole⟩ | ⟨u, hmem, hrole⟩)
    · exact ⟨usage, Or.inl ⟨hk, rfl⟩, hrole⟩
    · exact ⟨u, Or.inr hmem, hrole⟩

/-- A note adds its own roles and takes none away. -/
lemma asksFor_note {role : Usage → Bool} (hrole : ∀ u v, role (u.merge v) = (role u || role v))
    (key k : PublicKey) (usage : Usage) (table : KeyTable) :
    AsksFor role (note key usage table) k
      ↔ (k = key ∧ role usage = true) ∨ AsksFor role table k := by
  induction table with
  | nil => exact asksFor_cons key k usage []
  | cons entry rest ih =>
      obtain ⟨other, known⟩ := entry
      simp only [note]
      split_ifs with heq hlt
      · subst heq
        rw [asksFor_cons, asksFor_cons, hrole, Bool.or_eq_true]
        tauto
      · exact asksFor_cons key k usage _
      · rw [asksFor_cons, asksFor_cons, ih]
        tauto

/-! ## All notes -/

/-- **The invariant of a table.**  It holds the keys of some uses, in order, and for each key the
roles that its uses ask for. -/
structure Summarises (table : KeyTable) (uses : List (PublicKey × Usage)) : Prop where
  ordered : Ordered table
  keys : ∀ k, k ∈ table.map (·.1) ↔ k ∈ uses.map (·.1)
  signs : ∀ k, AsksFor Usage.signs table k ↔ AsksFor Usage.signs uses k
  written : ∀ k, AsksFor Usage.written table k ↔ AsksFor Usage.written uses k

lemma Summarises.empty : Summarises [] [] :=
  ⟨List.Pairwise.nil, fun _ => Iff.rfl, fun _ => Iff.rfl, fun _ => Iff.rfl⟩

/-- One more use. -/
lemma Summarises.note {table : KeyTable} {uses : List (PublicKey × Usage)}
    (h : Summarises table uses) (use : PublicKey × Usage) :
    Summarises (KeyTable.note use.1 use.2 table) (use :: uses) where
  ordered := note_ordered _ _ h.ordered
  keys k := by
    rw [mem_keys_note, h.keys, List.map_cons, List.mem_cons]
  signs k := by
    rw [asksFor_note (fun _ _ => rfl), asksFor_cons, h.signs]
  written k := by
    rw [asksFor_note (fun _ _ => rfl), asksFor_cons, h.written]

/-- What a table says does not depend on the order in which its uses are listed. -/
lemma Summarises.of_perm {table : KeyTable} {uses others : List (PublicKey × Usage)}
    (h : Summarises table uses) (hperm : uses.Perm others) : Summarises table others where
  ordered := h.ordered
  keys k := (h.keys k).trans (hperm.map _).mem_iff
  signs k := by
    rw [h.signs]
    simp only [AsksFor, hperm.mem_iff]
  written k := by
    rw [h.written]
    simp only [AsksFor, hperm.mem_iff]

lemma Summarises.foldl {table : KeyTable} {uses : List (PublicKey × Usage)}
    (h : Summarises table uses) (more : List (PublicKey × Usage)) :
    Summarises (more.foldl (fun t use => KeyTable.note use.1 use.2 t) table) (uses ++ more) := by
  induction more generalizing table uses with
  | nil => simpa using h
  | cons use more ih =>
      refine (ih (h.note use)).of_perm ?_
      simp [List.perm_middle.symm]

lemma noteInstruction_eq (table : KeyTable) (ix : Instruction) :
    noteInstruction table ix = ix.uses.foldl (fun t use => note use.1 use.2 t) table := by
  rw [noteInstruction, Instruction.uses, List.foldl_cons, List.foldl_map]

/-- **The table of some instructions** summarises all their uses. -/
theorem ofInstructions_summarises (instructions : List Instruction) :
    Summarises (ofInstructions instructions) (instructions.flatMap Instruction.uses) := by
  have hrun : ∀ (ixs : List Instruction) (table : KeyTable) (uses : List (PublicKey × Usage)),
      Summarises table uses →
        Summarises (ixs.foldl noteInstruction table) (uses ++ ixs.flatMap Instruction.uses) := by
    intro ixs
    induction ixs with
    | nil => intro table uses h; simpa using h
    | cons ix ixs ih =>
        intro table uses h
        have hstep := ih _ _ (h.foldl ix.uses)
        rw [← noteInstruction_eq] at hstep
        simpa [List.append_assoc] using hstep
  simpa [ofInstructions] using hrun instructions [] [] Summarises.empty

/-! ## One usage for each key -/

lemma Ordered.nodup {table : KeyTable} (h : Ordered table) : (table.map (·.1)).Nodup := by
  refine List.pairwise_map.mpr (h.imp ?_)
  intro a b hlt heq
  rw [heq] at hlt
  exact List.lt_irrefl _ hlt

lemma Ordered.usage_unique {table : KeyTable} (h : Ordered table) {k : PublicKey} {u v : Usage}
    (hu : (k, u) ∈ table) (hv : (k, v) ∈ table) : u = v := by
  have hinj := List.inj_on_of_nodup_map h.nodup hu hv rfl
  exact (Prod.mk.inj hinj).2

lemma mem_keysOf {table : KeyTable} {payer k : PublicKey} {usage : Usage} :
    k ∈ table.keysOf payer usage ↔ k ≠ payer ∧ (k, usage) ∈ table := by
  simp only [keysOf, List.mem_map, List.mem_filter, decide_eq_true_eq, Prod.exists,
    exists_and_right, exists_eq_right]
  constructor
  · rintro ⟨u, hmem, hne, rfl⟩
    exact ⟨hne, hmem⟩
  · rintro ⟨hne, hmem⟩
    exact ⟨usage, hmem, hne, rfl⟩

lemma keysOf_nodup {table : KeyTable} (h : Ordered table) (payer : PublicKey) (usage : Usage) :
    (table.keysOf payer usage).Nodup :=
  Ordered.nodup (List.Pairwise.sublist List.filter_sublist h)

/-- Keys of two usages are apart. -/
lemma keysOf_disjoint {table : KeyTable} (h : Ordered table) (payer : PublicKey) {u v : Usage}
    (hne : u ≠ v) : List.Disjoint (table.keysOf payer u) (table.keysOf payer v) := by
  intro k hu hv
  exact hne (h.usage_unique (mem_keysOf.mp hu).2 (mem_keysOf.mp hv).2)

lemma Ordered.asksFor_iff {table : KeyTable} (h : Ordered table) {k : PublicKey} {usage : Usage}
    (hk : (k, usage) ∈ table) (role : Usage → Bool) :
    AsksFor role table k ↔ role usage = true := by
  constructor
  · rintro ⟨other, hother, hrole⟩
    rwa [h.usage_unique hk hother]
  · intro hrole
    exact ⟨usage, hk, hrole⟩

/-- **The entry of a key** is all that the table asks for it. -/
lemma Ordered.mem_iff {table : KeyTable} (h : Ordered table) {k : PublicKey} {usage : Usage} :
    (k, usage) ∈ table ↔ k ∈ table.map (·.1)
      ∧ (AsksFor Usage.signs table k ↔ usage.signs = true)
      ∧ (AsksFor Usage.written table k ↔ usage.written = true) := by
  constructor
  · intro hk
    exact ⟨List.mem_map_of_mem hk, h.asksFor_iff hk _, h.asksFor_iff hk _⟩
  · rintro ⟨hkey, hsigns, hwritten⟩
    obtain ⟨⟨_, other⟩, hother, rfl⟩ := List.mem_map.mp hkey
    rw [h.asksFor_iff hother] at hsigns hwritten
    have hsame : other = usage := by
      cases other
      cases usage
      simp_all
    rwa [← hsame]

lemma keysOf_pairwise {table : KeyTable} (h : Ordered table) (payer : PublicKey) (usage : Usage) :
    (table.keysOf payer usage).Pairwise fun a b => a.bytes < b.bytes :=
  List.pairwise_map.mpr (List.Pairwise.sublist List.filter_sublist h)

/-- **The order of the keys follows from what they are**, so a group is known by its members. -/
lemma keysOf_congr {table other : KeyTable} {payer : PublicKey} {usage : Usage}
    (h : Ordered table) (h' : Ordered other)
    (hsame : ∀ k ≠ payer, (k, usage) ∈ table ↔ (k, usage) ∈ other) :
    table.keysOf payer usage = other.keysOf payer usage := by
  have hmem : ∀ k, k ∈ table.keysOf payer usage ↔ k ∈ other.keysOf payer usage := by
    intro k
    rw [mem_keysOf, mem_keysOf]
    exact and_congr_right fun hne => hsame k hne
  have hperm := (List.perm_ext_iff_of_nodup (keysOf_nodup h payer usage)
    (keysOf_nodup h' payer usage)).mpr hmem
  refine List.Perm.eq_of_pairwise ?_ (keysOf_pairwise h payer usage)
    (keysOf_pairwise h' payer usage) hperm
  intro a b _ _ hab hba
  exact absurd hba (List.lt_asymm hab)

/-- Two lists of uses ask for the same, for every key but one. -/
structure AgreeBut (payer : PublicKey) (uses others : List (PublicKey × Usage)) : Prop where
  keys : ∀ k ≠ payer, k ∈ uses.map (·.1) ↔ k ∈ others.map (·.1)
  signs : ∀ k ≠ payer, AsksFor Usage.signs uses k ↔ AsksFor Usage.signs others k
  written : ∀ k ≠ payer, AsksFor Usage.written uses k ↔ AsksFor Usage.written others k

/-- **What a table says of a key follows from the uses of that key.** -/
lemma Summarises.mem_iff_of_agreeBut {table other : KeyTable}
    {uses others : List (PublicKey × Usage)} {payer k : PublicKey} {usage : Usage}
    (h : Summarises table uses) (h' : Summarises other others)
    (hagree : AgreeBut payer uses others) (hne : k ≠ payer) :
    (k, usage) ∈ table ↔ (k, usage) ∈ other := by
  rw [h.ordered.mem_iff, h'.ordered.mem_iff, h.keys, h'.keys, h.signs, h'.signs, h.written,
    h'.written, hagree.keys k hne, hagree.signs k hne, hagree.written k hne]

end KeyTable

namespace Message

/-! ## Where the keys stand -/

/-- The keys that must sign, in their order: the payer, those that are written, and the others. -/
def signerKeys (payer : PublicKey) (table : KeyTable) : List PublicKey :=
  payer :: table.keysOf payer ⟨true, true⟩ ++ table.keysOf payer ⟨true, false⟩

/-- The keys that need not sign, in their order: those that are written, and the others. -/
def otherKeys (payer : PublicKey) (table : KeyTable) : List PublicKey :=
  table.keysOf payer ⟨false, true⟩ ++ table.keysOf payer ⟨false, false⟩

/-- A header and a list of keys are laid out for a payer and a table. -/
structure Layout (payer : PublicKey) (table : KeyTable) (header : Header)
    (keys : List PublicKey) : Prop where
  keys_eq : keys = signerKeys payer table ++ otherKeys payer table
  required : header.required.toNat = (signerKeys payer table).length
  readonlySigned : header.readonlySigned.toNat = (table.keysOf payer ⟨true, false⟩).length
  readonlyUnsigned : header.readonlyUnsigned.toNat = (table.keysOf payer ⟨false, false⟩).length

lemma headerCount?_eq_some_iff {n : ℕ} {b : UInt8} : headerCount? n = some b ↔ b.toNat = n := by
  unfold headerCount?
  constructor
  · intro h
    split_ifs at h with hn
    rw [← Option.some.inj h]
    exact UInt8.toNat_ofNat_of_lt' hn
  · rintro rfl
    rw [if_pos b.toNat_lt, UInt8.ofNat_toNat]

/-- **The layout exists** exactly when one byte holds each count of the header. -/
theorem layout?_eq_some_iff {payer : PublicKey} {table : KeyTable} {header : Header}
    {keys : List PublicKey} :
    layout? payer table = some (header, keys) ↔ Layout payer table header keys := by
  simp only [layout?, bind, pure, Option.bind_eq_some_iff, headerCount?_eq_some_iff,
    Option.some.injEq, Prod.mk.injEq]
  constructor
  · rintro ⟨required, hr, readonlySigned, hs, readonlyUnsigned, hu, rfl, rfl⟩
    exact ⟨rfl, hr, hs, hu⟩
  · rintro ⟨rfl, hr, hs, hu⟩
    exact ⟨header.required, hr, header.readonlySigned, hs, header.readonlyUnsigned, hu, rfl, rfl⟩

/-- **The layout follows from the uses**, and the payer's own do not matter. -/
lemma layout?_congr {table other : KeyTable} {uses others : List (PublicKey × Usage)}
    {payer : PublicKey} (h : table.Summarises uses) (h' : other.Summarises others)
    (hagree : KeyTable.AgreeBut payer uses others) : layout? payer table = layout? payer other := by
  have hgroup : ∀ usage, table.keysOf payer usage = other.keysOf payer usage := fun usage =>
    KeyTable.keysOf_congr h.ordered h'.ordered fun _ hne => h.mem_iff_of_agreeBut h' hagree hne
  simp only [layout?, hgroup]

/-- No key stands in two groups, and the payer in none. -/
lemma nodup_keys {table : KeyTable} (htable : table.Ordered) (payer : PublicKey) :
    (signerKeys payer table ++ otherKeys payer table).Nodup := by
  have hnodup := KeyTable.keysOf_nodup htable payer
  have hpayer : ∀ usage, payer ∉ table.keysOf payer usage :=
    fun usage hmem => (KeyTable.mem_keysOf.mp hmem).1 rfl
  have hapart : ∀ {u v : Usage}, u ≠ v →
      List.Disjoint (table.keysOf payer u) (table.keysOf payer v) :=
    KeyTable.keysOf_disjoint htable payer
  rw [signerKeys, otherKeys, List.cons_append, List.cons_append, List.nodup_cons]
  refine ⟨by simp [hpayer], List.Nodup.append ?_ ?_ ?_⟩
  · exact (hnodup _).append (hnodup _) (hapart (by decide))
  · exact (hnodup _).append (hnodup _) (hapart (by decide))
  · simp only [List.disjoint_append_left, List.disjoint_append_right]
    exact ⟨⟨hapart (by decide), hapart (by decide)⟩, hapart (by decide), hapart (by decide)⟩

/-- A key stands within the front part of a list exactly when it is in it. -/
lemma idxOf_append_lt_iff (front back : List PublicKey) (k : PublicKey) :
    (front ++ back).idxOf k < front.length ↔ k ∈ front := by
  by_cases hk : k ∈ front
  · rw [List.idxOf_append_of_mem hk]
    exact ⟨fun _ => hk, fun _ => List.idxOf_lt_length_of_mem hk⟩
  · rw [List.idxOf_append_of_notMem hk]
    exact ⟨fun h => absurd h (by omega), fun h => absurd h hk⟩

namespace Layout

variable {payer k : PublicKey} {table : KeyTable} {header : Header} {keys : List PublicKey}

lemma mem_signerKeys :
    k ∈ signerKeys payer table ↔ k = payer ∨ KeyTable.AsksFor Usage.signs table k := by
  simp only [signerKeys, List.cons_append, List.mem_cons, List.mem_append,
    KeyTable.mem_keysOf, KeyTable.AsksFor]
  constructor
  · rintro (rfl | ⟨-, hmem⟩ | ⟨-, hmem⟩)
    · exact Or.inl rfl
    · exact Or.inr ⟨_, hmem, rfl⟩
    · exact Or.inr ⟨_, hmem, rfl⟩
  · rintro (rfl | ⟨⟨signs, written⟩, hmem, hsigns⟩)
    · exact Or.inl rfl
    · by_cases hk : k = payer
      · exact Or.inl hk
      · have hs : signs = true := hsigns
        subst hs
        cases written with
        | true => exact Or.inr (Or.inl ⟨hk, hmem⟩)
        | false => exact Or.inr (Or.inr ⟨hk, hmem⟩)

lemma mem_writable :
    k ∈ payer :: table.keysOf payer ⟨true, true⟩ ∨ k ∈ table.keysOf payer ⟨false, true⟩
      ↔ k = payer ∨ KeyTable.AsksFor Usage.written table k := by
  simp only [List.mem_cons, KeyTable.mem_keysOf, KeyTable.AsksFor]
  constructor
  · rintro ((rfl | ⟨-, hmem⟩) | ⟨-, hmem⟩)
    · exact Or.inl rfl
    · exact Or.inr ⟨_, hmem, rfl⟩
    · exact Or.inr ⟨_, hmem, rfl⟩
  · rintro (rfl | ⟨⟨signs, written⟩, hmem, hwritten⟩)
    · exact Or.inl (Or.inl rfl)
    · by_cases hk : k = payer
      · exact Or.inl (Or.inl hk)
      · have hw : written = true := hwritten
        subst hw
        cases signs with
        | true => exact Or.inl (Or.inr ⟨hk, hmem⟩)
        | false => exact Or.inr ⟨hk, hmem⟩

/-- The keys are the payer and those of the table. -/
lemma mem_keys (h : Layout payer table header keys) :
    k ∈ keys ↔ k = payer ∨ k ∈ table.map (·.1) := by
  rw [h.keys_eq]
  simp only [signerKeys, otherKeys, List.cons_append, List.mem_cons, List.mem_append,
    KeyTable.mem_keysOf, List.mem_map, Prod.exists, exists_and_right, exists_eq_right]
  constructor
  · rintro (rfl | (⟨-, hmem⟩ | ⟨-, hmem⟩) | ⟨-, hmem⟩ | ⟨-, hmem⟩)
    · exact Or.inl rfl
    all_goals exact Or.inr ⟨_, hmem⟩
  · rintro (rfl | ⟨⟨signs, written⟩, hmem⟩)
    · exact Or.inl rfl
    · by_cases hk : k = payer
      · exact Or.inl hk
      · cases signs <;> cases written <;> simp [hk, hmem]

lemma nodup (h : Layout payer table header keys) (htable : table.Ordered) : keys.Nodup := by
  rw [h.keys_eq]
  exact nodup_keys htable payer

/-! ## What a position says -/

variable {m : Message}

/-- The writable positions are the front part of the signers and the front part of the others,
in either format. -/
lemma isWritablePosition_iff (h : Layout payer table m.header m.keys) (i : ℕ) :
    m.isWritablePosition i = true
      ↔ i < (payer :: table.keysOf payer ⟨true, true⟩).length
        ∨ ((signerKeys payer table).length ≤ i
          ∧ i < (signerKeys payer table ++ table.keysOf payer ⟨false, true⟩).length) := by
  have hsigners : (signerKeys payer table).length
      = (payer :: table.keysOf payer ⟨true, true⟩).length
        + (table.keysOf payer ⟨true, false⟩).length := by
    rw [signerKeys, List.length_append]
  have hkeys : m.keys.length = (signerKeys payer table).length
      + (table.keysOf payer ⟨false, true⟩).length
      + (table.keysOf payer ⟨false, false⟩).length := by
    rw [h.keys_eq, otherKeys, List.length_append, List.length_append, Nat.add_assoc]
  -- the legacy format subtracts the two as bytes, and must not wrap
  have hle : m.header.readonlySigned ≤ m.header.required := by
    rw [UInt8.le_iff_toNat_le, h.required, h.readonlySigned, hsigners]
    omega
  have hsub : (m.header.required - m.header.readonlySigned).toNat
      = (payer :: table.keysOf payer ⟨true, true⟩).length := by
    rw [UInt8.toNat_sub_of_le _ _ hle, h.required, h.readonlySigned, hsigners]
    omega
  rw [List.length_append]
  unfold isWritablePosition
  cases m.format with
  | legacy =>
      simp only [hsub, h.required, h.readonlyUnsigned, hkeys, Bool.or_eq_true, Bool.and_eq_true,
        decide_eq_true_eq]
      omega
  | v0 ls =>
      simp only [h.required, h.readonlySigned, h.readonlyUnsigned, hkeys]
      split_ifs with hi
      · simp only [decide_eq_true_eq]
        omega
      · simp only [decide_eq_true_eq]
        omega

/-- **Where a key stands says whether it signs.** -/
theorem isSigner_idxOf_iff (h : Layout payer table m.header m.keys) (k : PublicKey) :
    m.isSigner (m.keys.idxOf k) = true ↔ k = payer ∨ KeyTable.AsksFor Usage.signs table k := by
  rw [isSigner, decide_eq_true_eq, h.required, h.keys_eq, idxOf_append_lt_iff, mem_signerKeys]

/-- **Where a key stands says whether it may be written**, demotion apart. -/
theorem isWritablePosition_idxOf_iff (h : Layout payer table m.header m.keys)
    (htable : table.Ordered) (k : PublicKey) :
    m.isWritablePosition (m.keys.idxOf k) = true
      ↔ k = payer ∨ KeyTable.AsksFor Usage.written table k := by
  have hfront : m.keys.idxOf k < (payer :: table.keysOf payer ⟨true, true⟩).length
      ↔ k ∈ payer :: table.keysOf payer ⟨true, true⟩ := by
    rw [h.keys_eq, signerKeys, List.append_assoc]
    exact idxOf_append_lt_iff _ _ k
  have hsigners : m.keys.idxOf k < (signerKeys payer table).length
      ↔ k ∈ signerKeys payer table := by
    rw [h.keys_eq]
    exact idxOf_append_lt_iff _ _ k
  have hothers : m.keys.idxOf k
        < (signerKeys payer table ++ table.keysOf payer ⟨false, true⟩).length
      ↔ k ∈ signerKeys payer table ++ table.keysOf payer ⟨false, true⟩ := by
    rw [h.keys_eq, otherKeys, ← List.append_assoc]
    exact idxOf_append_lt_iff _ _ k
  rw [h.isWritablePosition_iff, ← not_lt, hfront, hsigners, hothers, List.mem_append,
    ← mem_writable]
  constructor
  · rintro (hk | ⟨hnot, hk | hk⟩)
    · exact Or.inl hk
    · exact absurd hk hnot
    · exact Or.inr hk
  · rintro (hk | hk)
    · exact Or.inl hk
    · refine Or.inr ⟨?_, Or.inr hk⟩
      intro hsigner
      obtain ⟨hne, hmem⟩ := KeyTable.mem_keysOf.mp hk
      -- a key that need not sign has no second entry that says it must
      rcases mem_signerKeys.mp hsigner with heq | ⟨usage, hmem', hsigns⟩
      · exact hne heq
      · rw [htable.usage_unique hmem' hmem] at hsigns
        exact Bool.noConfusion hsigns

end Layout

end Message

end Paymaster
