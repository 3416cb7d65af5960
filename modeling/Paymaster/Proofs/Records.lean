import Mathlib
import Paymaster.Proofs.Replies

/-!
# Records written out

A record is read out of an object, and can be written out as one.  This file says that the two undo
each other, for every shape of the catalog.

**Names.**  Each field is looked up by its name, so reading sees an object only through the names of
its fields (`readFields_congr`).  What stands in front of the object under another name is passed
over (`readFields_cons`).

**There and back.**  While no name stands twice among the fields (`Fields.Distinct`), a record that
is written out is read back as it was (`decode_toJson`).

**What is written.**  `Fields.Writes` says of some members, without mentioning records, that they are
those of an instance: all names in order, a list for each list, and an instance again for each
section.  Every record is written so, and whatever is so is a record written out (`writes_iff`).

The main statement is `decode_undoes_toJson`.
-/

namespace Paymaster.Reply

variable {f rest : Fields} {members others : List (Text × Json)}

/-! ## Names -/

/-- No name stands twice among some fields, nor among those of a section. -/
def Fields.Distinct : Fields → Prop
  | .done => True
  | .value name _ _ rest => name ∉ rest.names ∧ rest.Distinct
  | .items name rest => name ∉ rest.names ∧ rest.Distinct
  | .nested name _ inner rest => name ∉ rest.names ∧ inner.Distinct ∧ rest.Distinct

instance Fields.decidableDistinct : (f : Fields) → Decidable f.Distinct
  | .done => .isTrue trivial
  | .value _ _ _ rest =>
    have := rest.decidableDistinct
    inferInstanceAs (Decidable (_ ∧ _))
  | .items _ rest =>
    have := rest.decidableDistinct
    inferInstanceAs (Decidable (_ ∧ _))
  | .nested _ _ inner rest =>
    have := inner.decidableDistinct
    have := rest.decidableDistinct
    inferInstanceAs (Decidable (_ ∧ _ ∧ _))

/-- The names of every shape are distinct. -/
lemma Catalog.distinct_of_mem_all {shape : Shape} (h : shape ∈ Catalog.all) :
    shape.fields.Distinct := by
  have hall : ∀ shape ∈ Catalog.all, shape.fields.Distinct := by decide
  exact hall shape h

/-- **Reading sees the names of the fields only.** -/
lemma readFields_congr
    (h : ∀ name ∈ f.names, members.lookup (name : Text) = others.lookup (name : Text)) :
    readFields f (some members) = readFields f (some others) := by
  induction f with
  | done => rfl
  | value name absent blank rest ih =>
      obtain ⟨hname, hrest⟩ := List.forall_mem_cons.mp h
      simp only [readFields, plainMember, Json.memberD, hname, ih hrest]
      rfl
  | items name rest ih =>
      obtain ⟨hname, hrest⟩ := List.forall_mem_cons.mp h
      simp only [readFields, memberOf, Json.memberD, hname, ih hrest]
      rfl
  | nested name title inner rest _ ih =>
      obtain ⟨hname, hrest⟩ := List.forall_mem_cons.mp h
      simp only [readFields, memberOf, Json.memberD, hname, ih hrest]
      rfl

/-- A member of another name is passed over. -/
lemma readFields_cons {name : String} (h : name ∉ f.names) (v : Json)
    (members : List (Text × Json)) :
    readFields f (some (((name : Text), v) :: members)) = readFields f (some members) := by
  refine readFields_congr fun other hother => ?_
  have hne : (other : Text) ≠ name := fun heq => h (Text.ofString_injective heq ▸ hother)
  rw [List.lookup_cons, beq_eq_false_iff_ne.mpr hne]

lemma memberD_cons_self (name : Text) (v absent : Json) (members : List (Text × Json)) :
    Json.memberD ((name, v) :: members) name absent = v := by
  simp [Json.memberD]

/-! ## There and back -/

lemma listItems_arr (items : List Json) : listItems (.arr items) = .ok items := by
  cases items <;> rfl

/-- The members of a record decode as they are read: a section without members is one without
fields, so that its being blank makes no difference. -/
lemma decode_toJson_of_readFields {r : Record f}
    (h : readFields f (some (toMembers f r)) = .ok r) : decode f (toJson f r) = .ok r := by
  cases f with
  | done => rfl
  | _ => exact h

/-- **A record is read back from its members.** -/
lemma readFields_toMembers (hf : f.Distinct) (r : Record f) :
    readFields f (some (toMembers f r)) = .ok r := by
  induction f with
  | done => rfl
  | value name absent blank rest ih =>
      obtain ⟨hname, hrest⟩ := hf
      obtain ⟨v, others⟩ := r
      refine readFields_value_iff.mpr ⟨memberD_cons_self name v absent _, ?_⟩
      rw [toMembers, readFields_cons hname]
      exact ih hrest others
  | items name rest ih =>
      obtain ⟨hname, hrest⟩ := hf
      obtain ⟨items, others⟩ := r
      refine readFields_items_iff.mpr ⟨?_, ?_⟩
      · rw [toMembers, memberOf, memberD_cons_self, listItems_arr]
      · rw [toMembers, readFields_cons hname]
        exact ih hrest others
  | nested name title inner rest ihInner ih =>
      obtain ⟨hname, hinner, hrest⟩ := hf
      obtain ⟨record, others⟩ := r
      refine readFields_nested_iff.mpr ⟨?_, ?_⟩
      · rw [toMembers, memberOf, memberD_cons_self]
        exact decode_eq_ok_iff.mp (decode_toJson_of_readFields (ihInner hinner record))
      · rw [toMembers, readFields_cons hname]
        exact ih hrest others

/-- **A record that is written out decodes to itself.** -/
lemma decode_toJson (hf : f.Distinct) (r : Record f) : decode f (toJson f r) = .ok r :=
  decode_toJson_of_readFields (readFields_toMembers hf r)

/-! ## What is written -/

/-- Some members are those of an instance: the names of the fields in order, with any value for a
plain one, a list for a list, and an object with the members of an instance for a section. -/
def Fields.Writes : Fields → List (Text × Json) → Prop
  | .done, members => members = []
  | .value name _ _ rest, members => ∃ v others, members = (↑name, v) :: others ∧ rest.Writes others
  | .items name rest, members =>
    ∃ items others, members = (↑name, .arr items) :: others ∧ rest.Writes others
  | .nested name _ inner rest, members =>
    ∃ part others, members = (↑name, .obj part) :: others ∧ inner.Writes part ∧ rest.Writes others

/-- **What is written is a record**, and every record is. -/
lemma writes_iff : f.Writes members ↔ ∃ r, toMembers f r = members := by
  induction f generalizing members with
  | done =>
      constructor
      · rintro rfl
        exact ⟨(), rfl⟩
      · rintro ⟨_, rfl⟩
        rfl
  | value name absent blank rest ih =>
      constructor
      · rintro ⟨v, others, rfl, hothers⟩
        obtain ⟨r, rfl⟩ := ih.mp hothers
        exact ⟨(v, r), rfl⟩
      · rintro ⟨⟨v, r⟩, rfl⟩
        exact ⟨v, _, rfl, ih.mpr ⟨r, rfl⟩⟩
  | items name rest ih =>
      constructor
      · rintro ⟨items, others, rfl, hothers⟩
        obtain ⟨r, rfl⟩ := ih.mp hothers
        exact ⟨(items, r), rfl⟩
      · rintro ⟨⟨items, r⟩, rfl⟩
        exact ⟨items, _, rfl, ih.mpr ⟨r, rfl⟩⟩
  | nested name title inner rest ihInner ih =>
      constructor
      · rintro ⟨part, others, rfl, hpart, hothers⟩
        obtain ⟨record, rfl⟩ := ihInner.mp hpart
        obtain ⟨r, rfl⟩ := ih.mp hothers
        exact ⟨(record, r), rfl⟩
      · rintro ⟨⟨record, r⟩, rfl⟩
        exact ⟨_, _, rfl, ihInner.mpr ⟨record, rfl⟩, ih.mpr ⟨r, rfl⟩⟩

/-- **Decoding undoes writing out**, for every shape of the catalog.

* A record that is written out decodes to itself.
* An object with the members of an instance decodes to a record that is written out as this object.
* Whatever a value decodes to has the members of an instance, and decodes to itself again when it is
  written out. -/
theorem decode_undoes_toJson {shape : Shape} (hshape : shape ∈ Catalog.all) :
    (∀ r, decode shape.fields (toJson shape.fields r) = .ok r)
      ∧ (∀ members, shape.fields.Writes members →
        ∃ r, decode shape.fields (.obj members) = .ok r ∧ toJson shape.fields r = .obj members)
      ∧ ∀ v r, decode shape.fields v = .ok r →
        shape.fields.Writes (toMembers shape.fields r)
          ∧ decode shape.fields (toJson shape.fields r) = .ok r := by
  have hback := decode_toJson (Catalog.distinct_of_mem_all hshape)
  refine ⟨hback, ?_, ?_⟩
  · intro members hmembers
    obtain ⟨r, rfl⟩ := writes_iff.mp hmembers
    exact ⟨r, hback r, rfl⟩
  · intro v r _
    exact ⟨writes_iff.mpr ⟨r, rfl⟩, hback r⟩

/-- The members of a fixed price. -/
def fixedPrice : List (Text × Json) :=
  [("type", .str "fixed"), ("margin", .null), ("amount", .int 100), ("token", .str "mint")]

/-- A fixed price has the members of an instance, and is read and written as it is. -/
theorem decode_undoes_toJson_of_fixed :
    ∃ r, decode Catalog.priceConfig.fields (.obj fixedPrice) = .ok r
      ∧ toJson Catalog.priceConfig.fields r = .obj fixedPrice := by
  have hshape : Catalog.priceConfig ∈ Catalog.all := by simp [Catalog.all]
  have hmembers : Catalog.priceConfig.fields.Writes fixedPrice :=
    ⟨_, _, rfl, _, _, rfl, _, _, rfl, _, _, rfl, rfl⟩
  exact (decode_undoes_toJson hshape).2.1 fixedPrice hmembers

end Paymaster.Reply
