import Mathlib
import Paymaster.Proofs.Calls
import Paymaster.Reply.Views

/-!
# What replies say

A record holds what a reply says in a place that its shape gives it.  This file leads the parts of
a record back to the members of the reply's result, so that whatever is done with a record can be
said of the reply.

**Members.**  `Json.member` looks a member up in any value; what is no object has none.  It agrees
with how the sections of a reply are read (`memberOf_eq`).

**Fields.**  Reading some fields succeeds when reading each of them does, and gives what is read
for each (`readFields_value_iff`, `readFields_items_iff`, `readFields_nested_iff`).

**Records.**  What the estimate, the block hash and the configuration in a reply are.
-/

namespace Paymaster

open Rpc

/-- A member of a value, or null if there is none. -/
def Json.member (v : Json) (name : String) : Json :=
  match v with
  | .obj members => Json.memberD members name .null
  | _ => .null

namespace Reply

/-! ## Sections and fields -/

lemma sectionMembers_eq_ok {v : Json} {part : Option (List (Text × Json))}
    (h : sectionMembers v = .ok part) :
    (part = none ∧ v.isBlank = true) ∨ ∃ members, v = .obj members ∧ part = some members := by
  unfold sectionMembers at h
  split_ifs at h with hblank
  · exact Or.inl ⟨(Except.ok.inj h).symm, hblank⟩
  · cases v with
    | obj members => exact Or.inr ⟨members, rfl, (Except.ok.inj h).symm⟩
    | _ => cases h

/-- A member of a section is that member of the value that the section is. -/
lemma memberOf_eq {v : Json} {part : Option (List (Text × Json))}
    (h : sectionMembers v = .ok part) (name : String) : memberOf part name = v.member name := by
  obtain ⟨rfl, hblank⟩ | ⟨members, rfl, rfl⟩ := sectionMembers_eq_ok h
  · cases v with
    | obj members =>
        have hnil : members = [] := by simpa [Json.isBlank] using hblank
        rw [hnil]
        rfl
    | _ => rfl
  · rfl

lemma plainMember_null (part : Option (List (Text × Json))) (name : String) :
    plainMember part name .null .null = memberOf part name := by
  cases part <;> rfl

/-- A member that is there is read whatever stands in for one that is not. -/
lemma plainMember_of_memberOf {part : Option (List (Text × Json))} {name : String}
    {absent blank v : Json} (h : memberOf part name = v) (hv : v ≠ .null) :
    plainMember part name absent blank = v := by
  cases part with
  | none => exact absurd h.symm hv
  | some members =>
      simp only [memberOf, plainMember, Json.memberD] at h ⊢
      cases hlookup : members.lookup (name : Text) with
      | none =>
          rw [hlookup] at h
          exact absurd h.symm hv
      | some w =>
          rw [hlookup] at h
          exact h

lemma readFields_value_iff {name : String} {absent blank v : Json} {rest : Fields}
    {part : Option (List (Text × Json))} {others : Record rest} :
    readFields (.value name absent blank rest) part = .ok (v, others)
      ↔ plainMember part name absent blank = v ∧ readFields rest part = .ok others := by
  rw [readFields]
  constructor
  · intro h
    obtain ⟨others', hothers, h⟩ := bind_eq_ok_iff.mp h
    cases h
    exact ⟨rfl, hothers⟩
  · rintro ⟨rfl, hothers⟩
    exact bind_eq_ok_iff.mpr ⟨others, hothers, rfl⟩

lemma readFields_items_iff {name : String} {rest : Fields} {items : List Json}
    {part : Option (List (Text × Json))} {others : Record rest} :
    readFields (.items name rest) part = .ok (items, others)
      ↔ listItems (memberOf part name) = .ok items ∧ readFields rest part = .ok others := by
  rw [readFields]
  constructor
  · intro h
    obtain ⟨items', hitems, h⟩ := bind_eq_ok_iff.mp h
    obtain ⟨others', hothers, h⟩ := bind_eq_ok_iff.mp h
    cases h
    exact ⟨hitems, hothers⟩
  · rintro ⟨hitems, hothers⟩
    exact bind_eq_ok_iff.mpr ⟨items, hitems, bind_eq_ok_iff.mpr ⟨others, hothers, rfl⟩⟩

lemma readFields_nested_iff {name title : String} {inner rest : Fields} {r : Record inner}
    {part : Option (List (Text × Json))} {others : Record rest} :
    readFields (.nested name title inner rest) part = .ok (r, others)
      ↔ (∃ sub, sectionMembers (memberOf part name) = .ok sub ∧ readFields inner sub = .ok r)
        ∧ readFields rest part = .ok others := by
  rw [readFields]
  constructor
  · intro h
    obtain ⟨sub, hsub, h⟩ := bind_eq_ok_iff.mp h
    obtain ⟨r', hr, h⟩ := bind_eq_ok_iff.mp h
    obtain ⟨others', hothers, h⟩ := bind_eq_ok_iff.mp h
    cases h
    exact ⟨⟨sub, hsub, hr⟩, hothers⟩
  · rintro ⟨⟨sub, hsub, hr⟩, hothers⟩
    refine bind_eq_ok_iff.mpr ⟨sub, hsub, bind_eq_ok_iff.mpr ⟨r, hr, ?_⟩⟩
    exact bind_eq_ok_iff.mpr ⟨others, hothers, rfl⟩

lemma decode_eq_ok_iff {f : Fields} {v : Json} {r : Record f} :
    decode f v = .ok r ↔ ∃ part, sectionMembers v = .ok part ∧ readFields f part = .ok r :=
  bind_eq_ok_iff

/-! ## Records -/

/-- **An estimate** is the members of the result that it is read from. -/
lemma estimate_of_decode {v : Json} {r : Record Catalog.estimateFields}
    (h : decode Catalog.estimateFields v = .ok r) :
    (FeeEstimate.ofRecord r).inToken = v.member "fee_in_token"
      ∧ (FeeEstimate.ofRecord r).paymentAddress = v.member "payment_address" := by
  obtain ⟨part, hpart, h⟩ := decode_eq_ok_iff.mp h
  obtain ⟨inLamports, inToken, signer, address, ⟨⟩⟩ := r
  obtain ⟨-, h⟩ := readFields_value_iff.mp h
  obtain ⟨hfee, h⟩ := readFields_value_iff.mp h
  obtain ⟨-, h⟩ := readFields_value_iff.mp h
  obtain ⟨haddress, -⟩ := readFields_value_iff.mp h
  rw [plainMember_null, memberOf_eq hpart] at hfee haddress
  exact ⟨hfee.symm, haddress.symm⟩

/-- **A block hash** is the member of the result that it is read from. -/
lemma blockhash_of_decode {v : Json} {r : Record Catalog.blockhash.fields}
    (h : decode Catalog.blockhash.fields v = .ok r) : blockhashOf r = v.member "blockhash" := by
  obtain ⟨part, hpart, h⟩ := decode_eq_ok_iff.mp h
  obtain ⟨hash, ⟨⟩⟩ := r
  obtain ⟨hhash, -⟩ := readFields_value_iff.mp h
  rw [plainMember_null, memberOf_eq hpart] at hhash
  exact hhash.symm

/-- **The tokens and the price of a configuration** are in the members of its section on what the
server takes. -/
lemma config_of_decode {v : Json} {r : Record Catalog.config.fields}
    (h : decode Catalog.config.fields v = .ok r) :
    listItems ((v.member "validation_config").member "allowed_spl_paid_tokens")
        = .ok (Config.ofRecord r).validation.paidTokens
      ∧ ((Config.ofRecord r).validation.price.isFree = false →
        ((v.member "validation_config").member "price").member "type" ≠ .str "free") := by
  obtain ⟨part, hpart, h⟩ := decode_eq_ok_iff.mp h
  obtain ⟨feePayers, validation, methods, ⟨⟩⟩ := r
  obtain ⟨-, h⟩ := readFields_items_iff.mp h
  obtain ⟨⟨sub, hsub, hvalidation⟩, -⟩ := readFields_nested_iff.mp h
  rw [memberOf_eq hpart] at hsub
  obtain ⟨lamports, signatures, source, programs, tokens, paid, accounts, policy, price, others⟩ :=
    validation
  obtain ⟨-, h⟩ := readFields_value_iff.mp hvalidation
  obtain ⟨-, h⟩ := readFields_value_iff.mp h
  obtain ⟨-, h⟩ := readFields_value_iff.mp h
  obtain ⟨-, h⟩ := readFields_items_iff.mp h
  obtain ⟨-, h⟩ := readFields_items_iff.mp h
  obtain ⟨hpaid, h⟩ := readFields_items_iff.mp h
  obtain ⟨-, h⟩ := readFields_items_iff.mp h
  obtain ⟨-, h⟩ := readFields_nested_iff.mp h
  obtain ⟨⟨sect, hsect, hprice⟩, -⟩ := readFields_nested_iff.mp h
  rw [memberOf_eq hsub] at hpaid hsect
  obtain ⟨model, margin, amount, token, ⟨⟩⟩ := price
  obtain ⟨hmodel, -⟩ := readFields_value_iff.mp hprice
  refine ⟨hpaid, ?_⟩
  intro hfree htype
  rw [← memberOf_eq hsect] at htype
  rw [plainMember_of_memberOf htype Json.noConfusion] at hmodel
  subst hmodel
  cases hfree

end Reply

end Paymaster
