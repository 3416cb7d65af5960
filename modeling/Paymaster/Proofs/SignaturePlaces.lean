import Mathlib
import Paymaster.Proofs.WireFormat

/-!
# Who signs where

A message is signed by some wallets at once.  Each of its signers has a place, in the order of the
keys, and a wallet fills the places of its own key and no other.

**One place.**  `signatureOf` is what some seeds put in the place of a key: what the seed of this key
signs (`signatureOf_of_mem`), and nothing yet without it (`signatureOf_of_forall_ne`).  So it depends
on no other seed, nor on their order (`signatureOf_congr`), and seeds can be given in two parts
(`signatureOf_append`).

**All places.**  What holds of one place holds of the list, and what is signed is what stands behind
this list on the wire.  The main statement is `partiallySign_fills_places`.
-/

namespace Paymaster

open Crypto.Ed25519 (Seed publicKey sign)

/-- The keys that must sign, as far as there are keys. -/
def Message.requiredKeys (m : Message) : List PublicKey :=
  m.keys.take m.header.required.toNat

namespace Transaction

/-- What some seeds put in the place of a key. -/
def signatureOf (seeds : List Seed) (payload : Bytes) (key : PublicKey) : Signature :=
  signatureBy (seeds.map fun seed => (publicKey seed, seed)) payload key

/-- A place that is filled once stays as it is, and an open one takes what comes next. -/
def filled (first second : Signature) : Signature :=
  if first = noSignature then second else first

variable {seeds others : List Seed} {seed : Seed} {payload : Bytes} {key : PublicKey}

/-! ## One place -/

lemma signatureOf_nil : signatureOf [] payload key = noSignature := rfl

lemma signatureOf_cons :
    signatureOf (seed :: seeds) payload key
      = if key = publicKey seed then sign seed payload else signatureOf seeds payload key := by
  simp only [signatureOf, signatureBy, List.map_cons, List.lookup_cons]
  by_cases hkey : key = publicKey seed
  · rw [if_pos hkey, beq_iff_eq.mpr hkey]
  · rw [if_neg hkey, beq_eq_false_iff_ne.mpr hkey]

/-- Nobody signs for a key that is not theirs. -/
lemma signatureOf_of_forall_ne (hnone : ∀ seed ∈ seeds, publicKey seed ≠ key) :
    signatureOf seeds payload key = noSignature := by
  induction seeds with
  | nil => exact signatureOf_nil
  | cons seed seeds ih =>
      rcases List.forall_mem_cons.mp hnone with ⟨hother, hnone⟩
      rw [signatureOf_cons, if_neg hother.symm, ih hnone]

/-- **The owner of a key signs for it**, wherever its seed stands. -/
lemma signatureOf_of_mem (hdistinct : (seeds.map publicKey).Nodup) (hseed : seed ∈ seeds) :
    signatureOf seeds payload (publicKey seed) = sign seed payload := by
  induction seeds with
  | nil => cases hseed
  | cons first seeds ih =>
      rcases List.nodup_cons.mp hdistinct with ⟨hnew, hdistinct⟩
      rw [signatureOf_cons]
      rcases List.mem_cons.mp hseed with rfl | hseed
      · rw [if_pos rfl]
      · have hother : publicKey seed ≠ publicKey first := by
          intro heq
          exact hnew (heq ▸ List.mem_map_of_mem hseed)
        rw [if_neg hother, ih hdistinct hseed]

/-- **Only the seed of a key matters for its place.** -/
lemma signatureOf_congr (hdistinct : (seeds.map publicKey).Nodup)
    (hdistinct' : (others.map publicKey).Nodup)
    (hsame : ∀ seed, publicKey seed = key → (seed ∈ others ↔ seed ∈ seeds)) :
    signatureOf others payload key = signatureOf seeds payload key := by
  by_cases howner : ∃ seed ∈ seeds, publicKey seed = key
  · rcases howner with ⟨seed, hseed, rfl⟩
    rw [signatureOf_of_mem hdistinct hseed,
      signatureOf_of_mem hdistinct' ((hsame seed rfl).mpr hseed)]
  · push Not at howner
    have howner' : ∀ seed ∈ others, publicKey seed ≠ key := by
      intro seed hseed heq
      exact howner seed ((hsame seed heq).mp hseed) heq
    rw [signatureOf_of_forall_ne howner, signatureOf_of_forall_ne howner']

/-- **Two parts sign one after the other**, if no signature looks like an open place. -/
lemma signatureOf_append {front back : List Seed}
    (hsigned : ∀ seed ∈ front, sign seed payload ≠ noSignature) :
    signatureOf (front ++ back) payload key
      = filled (signatureOf front payload key) (signatureOf back payload key) := by
  induction front with
  | nil => simp [signatureOf_nil, filled]
  | cons seed front ih =>
      rcases List.forall_mem_cons.mp hsigned with ⟨hseed, hfront⟩
      rw [List.cons_append, signatureOf_cons, signatureOf_cons]
      by_cases hkey : key = publicKey seed
      · rw [if_pos hkey, if_pos hkey, filled, if_neg hseed]
      · rw [if_neg hkey, if_neg hkey, ih hfront]

/-! ## All places -/

variable {m : Message}

lemma partiallySign_eq (m : Message) (seeds : List Seed) :
    partiallySign m seeds
      = { signatures := m.requiredKeys.map (signatureOf seeds m.toBytes), message := m } := rfl

/-- Seeds that are not required have no effect, and neither has their order. -/
lemma partiallySign_congr (hdistinct : (seeds.map publicKey).Nodup)
    (hdistinct' : (others.map publicKey).Nodup)
    (hsame : ∀ seed, publicKey seed ∈ m.requiredKeys → (seed ∈ others ↔ seed ∈ seeds)) :
    partiallySign m others = partiallySign m seeds := by
  have hplaces : m.requiredKeys.map (signatureOf others m.toBytes)
      = m.requiredKeys.map (signatureOf seeds m.toBytes) := by
    refine List.map_congr_left fun key hkey => ?_
    refine signatureOf_congr hdistinct hdistinct' ?_
    rintro seed rfl
    exact hsame seed hkey
  rw [partiallySign_eq, partiallySign_eq, hplaces]

/-- One place for each required signer, as far as there are keys. -/
lemma length_signatures_partiallySign (m : Message) (seeds : List Seed) :
    (partiallySign m seeds).signatures.length = min m.header.required.toNat m.keys.length := by
  rw [partiallySign_eq, List.length_map, Message.requiredKeys, List.length_take]

/-- There are never too many places to write their number. -/
lemma length_signatures_partiallySign_le (m : Message) (seeds : List Seed) :
    (partiallySign m seeds).signatures.length ≤ Wire.lengthLimit := by
  have hrequired := m.header.required.toNat_lt
  rw [length_signatures_partiallySign, Wire.lengthLimit]
  omega

lemma getElem?_signatures_partiallySign (seeds : List Seed) {i : ℕ}
    (hkey : m.requiredKeys[i]? = some key) :
    (partiallySign m seeds).signatures[i]? = some (signatureOf seeds m.toBytes key) := by
  rw [partiallySign_eq, List.getElem?_map, hkey, Option.map_some]

/-- **Two parts sign all places** one after the other. -/
lemma signatures_partiallySign_append {front back : List Seed}
    (hsigned : ∀ seed ∈ front, sign seed m.toBytes ≠ noSignature) :
    (partiallySign m (front ++ back)).signatures
      = List.zipWith filled (partiallySign m front).signatures
          (partiallySign m back).signatures := by
  have hplace : signatureOf (front ++ back) m.toBytes = fun key =>
      filled (signatureOf front m.toBytes key) (signatureOf back m.toBytes key) :=
    funext fun _ => signatureOf_append hsigned
  rw [partiallySign_eq, partiallySign_eq, partiallySign_eq, hplace, List.zipWith_map,
    List.zipWith_self]

/-- **What is signed is what stands behind the signatures** on the wire. -/
lemma readList_toBytes_partiallySign (m : Message) (seeds : List Seed) :
    Wire.readList (Wire.readBlock 64) (partiallySign m seeds).toBytes
      = some ((partiallySign m seeds).signatures, m.toBytes) :=
  (Wire.readList_inverts (Wire.readBlock_inverts 64) _ _ _).mpr
    ⟨⟨length_signatures_partiallySign_le m seeds, fun _ _ => trivial⟩, rfl⟩

/-- **Signing fills exactly the right places, over exactly the bytes that are sent.**

Say some seeds have distinct public keys.  Signing keeps the message, and makes as many signatures as
its header requires and it has keys.

* In the place of each key is the signature of the seed whose public key this is.  It is open if no
  seed has this key.
* What is signed is what stands behind the signatures in the bytes of the result, and if these bytes
  can be told apart they are what is encoded.
* Seeds that are not required have no effect, and neither has their order.
* If the seeds are given in two parts, and none of the first part makes a signature that looks like an
  open place, then the first part fills its places, and the second the others. -/
theorem partiallySign_fills_places (m : Message) (hdistinct : (seeds.map publicKey).Nodup) :
    (partiallySign m seeds).message = m
      ∧ (partiallySign m seeds).signatures.length = min m.header.required.toNat m.keys.length
      ∧ (∀ (i : ℕ) (key : PublicKey), m.requiredKeys[i]? = some key →
        (∀ seed ∈ seeds, publicKey seed = key →
          (partiallySign m seeds).signatures[i]? = some (sign seed m.toBytes))
        ∧ ((∀ seed ∈ seeds, publicKey seed ≠ key) →
          (partiallySign m seeds).signatures[i]? = some noSignature))
      ∧ Wire.readList (Wire.readBlock 64) (partiallySign m seeds).toBytes
        = some ((partiallySign m seeds).signatures, m.toBytes)
      ∧ (m.Expressible → ∀ e, encode e (partiallySign m seeds)
        = .ok (e.textOf (partiallySign m seeds).toBytes))
      ∧ partiallySign m (seeds.filter (publicKey · ∈ m.requiredKeys)) = partiallySign m seeds
      ∧ (∀ others, others.Perm seeds → partiallySign m others = partiallySign m seeds)
      ∧ ∀ front back, seeds = front ++ back →
        (∀ seed ∈ front, sign seed m.toBytes ≠ noSignature) →
          (partiallySign m seeds).signatures
            = List.zipWith filled (partiallySign m front).signatures
                (partiallySign m back).signatures := by
  refine ⟨rfl, length_signatures_partiallySign m seeds, ?_, readList_toBytes_partiallySign m seeds,
    ?_, ?_, ?_, ?_⟩
  · intro i key hkey
    have hplace := getElem?_signatures_partiallySign seeds hkey
    constructor
    · rintro seed hseed rfl
      rw [hplace, signatureOf_of_mem hdistinct hseed]
    · intro hnone
      rw [hplace, signatureOf_of_forall_ne hnone]
  · intro hm e
    exact encode_of_expressible e
      ((expressible_iff _).mpr ⟨length_signatures_partiallySign_le m seeds, hm⟩)
  · refine partiallySign_congr hdistinct (hdistinct.sublist ?_) ?_
    · exact List.filter_sublist.map _
    · intro seed hrequired
      rw [List.mem_filter, decide_eq_true_eq]
      exact and_iff_left hrequired
  · intro others hperm
    refine partiallySign_congr hdistinct ((hperm.map _).nodup_iff.mpr hdistinct) ?_
    intro seed _
    exact hperm.mem_iff
  · rintro front back rfl hsigned
    exact signatures_partiallySign_append hsigned

/-- A message of version 0 that requires four signers, and has three keys: one stands twice. -/
def sharedMessage : Message :=
  { format := .v0 []
    header := ⟨4, 0, 0⟩
    keys := [publicKey (Block.ofNat 32 11), Block.ofNat 32 7, publicKey (Block.ofNat 32 11)]
    blockhash := Block.zero 32
    instructions := [] }

/-- The wallet signs twice, and nobody signs for the key in between.  The other seed is not required,
and there is no fourth key. -/
theorem partiallySign_fills_places_of_two :
    ([Block.ofNat 32 14, Block.ofNat 32 11].map publicKey).Nodup
      ∧ ∃ tx, tx = partiallySign sharedMessage [Block.ofNat 32 14, Block.ofNat 32 11]
        ∧ tx.signatures.length = 3
        ∧ tx.signatures[0]? = some (sign (Block.ofNat 32 11) sharedMessage.toBytes)
        ∧ tx.signatures[1]? = some noSignature
        ∧ tx.signatures[2]? = some (sign (Block.ofNat 32 11) sharedMessage.toBytes) := by
  -- the kernel makes the public keys here
  have hdistinct : ([Block.ofNat 32 14, Block.ofNat 32 11].map publicKey).Nodup := by decide +kernel
  have hother : ∀ seed ∈ [Block.ofNat 32 14, Block.ofNat 32 11],
      publicKey seed ≠ Block.ofNat 32 7 := by decide +kernel
  have hwallet : Block.ofNat 32 11 ∈ [Block.ofNat 32 14, Block.ofNat 32 11] :=
    List.mem_cons_of_mem _ List.mem_cons_self
  obtain ⟨-, hlength, hplaces, -⟩ := partiallySign_fills_places sharedMessage hdistinct
  exact ⟨hdistinct, _, rfl, hlength, (hplaces 0 _ rfl).1 _ hwallet rfl, (hplaces 1 _ rfl).2 hother,
    (hplaces 2 _ rfl).1 _ hwallet rfl⟩

end Transaction

end Paymaster
