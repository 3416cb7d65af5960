import Mathlib
import Paymaster.Proofs.Records

/-!
# Members that no field asks for

A reply may hold more than its shape lists, and hold it in any order.  This file says what becomes of
the record.

**Edits.**  `Fields.Edit` is one change that no field asks for: a member under a name that is no
field's, another order, or such a change inside a section.  A run of them leaves the objects in
agreement (`Fields.Edits.agrees`): every value and every list is looked up as before, and so is what
a section is looked up for.

**Reading.**  What is read of objects in agreement differs in one case only (`readFields_of_agrees`).
A section that was empty counts as blank, and one to which a member was added does not, so that a
value which has one stand-in for a blank section and another for a missing member goes over from
the one to the other (`Fields.Fills`).

**The catalog.**  There is one such value, the margin of a price (`fills_iff_fillsPrice`).  The shapes
that hold no price are steady: each of their values has one stand-in (`Catalog.isSteady_of_priceless`).

The main statement is `unknown_members_ignored_iff`.
-/

namespace Paymaster.Reply

/-- Some members of an object. -/
abbrev Members := List (Text × Json)

variable {f inner rest : Fields} {a b c : Members} {name : String}

/-! ## Edits -/

/-- A name is that of a section, with some fields, among others. -/
def Fields.HasSection : Fields → String → Fields → Prop
  | .done, _, _ => False
  | .value _ _ _ rest, name, inner => rest.HasSection name inner
  | .items _ rest, name, inner => rest.HasSection name inner
  | .nested other _ fields rest, name, inner =>
    (other = name ∧ fields = inner) ∨ rest.HasSection name inner

/-- A change to an object that no field asks for.  A member that is added goes in front, and one that
is changed stands there: where it stands is a matter of order. -/
inductive Fields.Edit : Fields → Members → Members → Prop where
  /-- A member under a name that is no field's. -/
  | add {f : Fields} {a : Members} (key : Text) (v : Json)
      (unknown : ∀ name ∈ f.names, (name : Text) ≠ key) : Edit f a ((key, v) :: a)
  /-- Another order of an object, whose names are distinct. -/
  | reorder {f : Fields} {a b : Members} (distinct : (a.map (·.1)).Nodup) (perm : a.Perm b) :
      Edit f a b
  /-- A change inside a section. -/
  | inside {f inner : Fields} {name : String} {a b c : Members} (is : f.HasSection name inner)
      (edit : Edit inner a b) :
      Edit f (((name : Text), .obj a) :: c) (((name : Text), .obj b) :: c)

/-- Changes to an object that no field asks for, one after the other. -/
def Fields.Edits (f : Fields) : Members → Members → Prop :=
  Relation.ReflTransGen f.Edit

/-! ## Agreement -/

/-- What is looked up is the same, or it is an object both times and these are related. -/
inductive Alike (related : Members → Members → Prop) : Option Json → Option Json → Prop where
  | same (v : Option Json) : Alike related v v
  | members {a b : Members} (h : related a b) : Alike related (some (.obj a)) (some (.obj b))

/-- The fields look the same up in both objects; sections may differ in what their own fields do not
look up, but none has been emptied. -/
def Fields.Agrees : Fields → Members → Members → Prop
  | .done, _, _ => True
  | .value name _ _ rest, a, b => b.lookup (name : Text) = a.lookup (name : Text) ∧ rest.Agrees a b
  | .items name rest, a, b => b.lookup (name : Text) = a.lookup (name : Text) ∧ rest.Agrees a b
  | .nested name _ inner rest, a, b =>
    Alike (fun c d => (d = [] → c = []) ∧ inner.Agrees c d) (a.lookup (name : Text))
        (b.lookup (name : Text))
      ∧ rest.Agrees a b

lemma Alike.trans {related : Members → Members → Prop}
    (htrans : ∀ a b c, related a b → related b c → related a c) {u v w : Option Json}
    (h : Alike related u v) (h' : Alike related v w) : Alike related u w := by
  cases h with
  | same => exact h'
  | members hab =>
      cases h' with
      | same => exact .members hab
      | members hbc => exact .members (htrans _ _ _ hab hbc)

lemma Fields.Agrees.trans (h : f.Agrees a b) (h' : f.Agrees b c) : f.Agrees a c := by
  induction f generalizing a b c with
  | done => trivial
  | value name absent blank rest ih => exact ⟨h'.1.trans h.1, ih h.2 h'.2⟩
  | items name rest ih => exact ⟨h'.1.trans h.1, ih h.2 h'.2⟩
  | nested name title inner rest ihInner ih =>
      refine ⟨h.1.trans ?_ h'.1, ih h.2 h'.2⟩
      rintro x y z ⟨hxy, hagree⟩ ⟨hyz, hagree'⟩
      exact ⟨hxy ∘ hyz, ihInner hagree hagree'⟩

/-- Objects agree if every name is looked up alike. -/
lemma agrees_of_lookup
    (h : ∀ name ∈ f.names, b.lookup (name : Text) = a.lookup (name : Text)) : f.Agrees a b := by
  induction f with
  | done => trivial
  | value name absent blank rest ih =>
      obtain ⟨hname, hrest⟩ := List.forall_mem_cons.mp h
      exact ⟨hname, ih hrest⟩
  | items name rest ih =>
      obtain ⟨hname, hrest⟩ := List.forall_mem_cons.mp h
      exact ⟨hname, ih hrest⟩
  | nested name title inner rest _ ih =>
      obtain ⟨hname, hrest⟩ := List.forall_mem_cons.mp h
      exact ⟨hname ▸ .same _, ih hrest⟩

/-- The order of distinct names does not matter to a lookup. -/
lemma lookup_of_perm (h : a.Perm b) (hdistinct : (a.map (·.1)).Nodup) (key : Text) :
    b.lookup key = a.lookup key := by
  induction h with
  | nil => rfl
  | cons m _ ih =>
      obtain ⟨-, htail⟩ := List.nodup_cons.mp hdistinct
      obtain ⟨first, v⟩ := m
      simp only [List.lookup_cons, ih htail]
  | swap m n l =>
      obtain ⟨hfirst, -⟩ := List.nodup_cons.mp hdistinct
      obtain ⟨first, v⟩ := m
      obtain ⟨second, w⟩ := n
      have hne : second ≠ first := fun heq => hfirst (by simp [heq])
      simp only [List.lookup_cons]
      by_cases hsecond : key = second
      · have hother : (key == first) = false := beq_eq_false_iff_ne.mpr (hsecond ▸ hne)
        simp only [hother]
      · have hother : (key == second) = false := beq_eq_false_iff_ne.mpr hsecond
        simp only [hother]
  | trans hab _ ih ih' =>
      rw [ih' ((hab.map _).nodup_iff.mp hdistinct), ih hdistinct]

lemma Fields.HasSection.mem_names (h : f.HasSection name inner) : name ∈ f.names := by
  induction f with
  | done => exact h.elim
  | value _ _ _ rest ih => exact List.mem_cons_of_mem _ (ih h)
  | items _ rest ih => exact List.mem_cons_of_mem _ (ih h)
  | nested other _ fields rest _ ih =>
      rcases h with ⟨rfl, -⟩ | h
      · exact List.mem_cons_self
      · exact List.mem_cons_of_mem _ (ih h)

lemma Fields.HasSection.distinct (h : f.HasSection name inner) (hf : f.Distinct) :
    inner.Distinct := by
  induction f with
  | done => exact h.elim
  | value _ _ _ rest ih => exact ih h hf.2
  | items _ rest ih => exact ih h hf.2
  | nested other _ fields rest _ ih =>
      rcases h with ⟨-, rfl⟩ | h
      · exact hf.2.1
      · exact ih h hf.2.2

lemma lookup_cons_of_ne {other : String} (hne : other ≠ name) (v : Json) (c : Members) :
    List.lookup (other : Text) (((name : Text), v) :: c) = c.lookup (other : Text) := by
  have htext : (other : Text) ≠ (name : Text) := fun heq => hne (Text.ofString_injective heq)
  rw [List.lookup_cons, beq_eq_false_iff_ne.mpr htext]

/-- A section in front that agrees leaves the whole in agreement: every other name is looked up behind
it. -/
lemma agrees_inside (hf : f.Distinct) (h : f.HasSection name inner) (hempty : b = [] → a = [])
    (hagree : inner.Agrees a b) (c : Members) :
    f.Agrees (((name : Text), .obj a) :: c) (((name : Text), .obj b) :: c) := by
  have hbehind : ∀ other : String, other ≠ name →
      List.lookup (other : Text) (((name : Text), .obj b) :: c)
        = List.lookup (other : Text) (((name : Text), .obj a) :: c) := by
    intro other hne
    rw [lookup_cons_of_ne hne, lookup_cons_of_ne hne]
  induction f with
  | done => exact h.elim
  | value other absent blank rest ih =>
      have h : rest.HasSection name inner := h
      have hne : other ≠ name := fun heq => hf.1 (heq ▸ h.mem_names)
      exact ⟨hbehind other hne, ih hf.2 h⟩
  | items other rest ih =>
      have h : rest.HasSection name inner := h
      have hne : other ≠ name := fun heq => hf.1 (heq ▸ h.mem_names)
      exact ⟨hbehind other hne, ih hf.2 h⟩
  | nested other title fields rest _ ih =>
      rcases h with ⟨rfl, rfl⟩ | h
      · refine ⟨?_, agrees_of_lookup fun known hknown => hbehind known ?_⟩
        · rw [List.lookup_cons_self, List.lookup_cons_self]
          exact .members ⟨hempty, hagree⟩
        · rintro rfl
          exact hf.1 hknown
      · have hne : other ≠ name := fun heq => hf.1 (heq ▸ h.mem_names)
        exact ⟨hbehind other hne ▸ .same _, ih hf.2.2 h⟩

lemma Fields.Edit.eq_nil (h : f.Edit a b) (hb : b = []) : a = [] := by
  subst hb
  cases h with
  | reorder _ hperm => exact hperm.eq_nil

/-- **An edit leaves an object in agreement.** -/
lemma Fields.Edit.agrees (h : f.Edit a b) (hf : f.Distinct) : f.Agrees a b := by
  induction h with
  | add key v unknown =>
      refine agrees_of_lookup fun known hknown => ?_
      rw [List.lookup_cons, beq_eq_false_iff_ne.mpr (unknown known hknown)]
  | reorder distinct perm => exact agrees_of_lookup fun known _ => lookup_of_perm perm distinct known
  | inside is edit ih => exact agrees_inside hf is edit.eq_nil (ih (is.distinct hf)) _

/-- **So does a run of edits**, and it does not empty an object. -/
lemma Fields.Edits.agrees (h : f.Edits a b) (hf : f.Distinct) :
    (b = [] → a = []) ∧ f.Agrees a b := by
  induction h with
  | refl => exact ⟨id, agrees_of_lookup fun _ _ => rfl⟩
  | tail _ step ih => exact ⟨ih.1 ∘ step.eq_nil, ih.2.trans (step.agrees hf)⟩

/-! ## Reading -/

/-- What is read of an object: one without members is blank. -/
def partOf (a : Members) : Option Members :=
  if a.isEmpty then none else some a

lemma sectionMembers_obj (a : Members) : sectionMembers (.obj a) = .ok (partOf a) := by
  cases a <;> rfl

lemma memberOf_partOf (a : Members) (name : String) :
    memberOf (partOf a) name = (a.lookup (name : Text)).getD .null := by
  cases a <;> rfl

/-- A section without members gets some, among the fields of which a value has one stand-in for a
blank section and another for a missing member. -/
def Fields.Fills : Fields → Members → Members → Prop
  | .done, _, _ => False
  | .value _ absent blank rest, a, b => (absent ≠ blank ∧ a = [] ∧ b ≠ []) ∨ rest.Fills a b
  | .items _ rest, a, b => rest.Fills a b
  | .nested name _ inner rest, a, b =>
    (∃ c d, a.lookup (name : Text) = some (.obj c) ∧ b.lookup (name : Text) = some (.obj d)
      ∧ inner.Fills c d)
    ∨ rest.Fills a b

lemma not_fills_self : ¬ f.Fills a a := by
  induction f generalizing a with
  | done => exact id
  | value name absent blank rest ih =>
      rintro (⟨-, hempty, hsome⟩ | h)
      · exact hsome hempty
      · exact ih h
  | items name rest ih => exact ih
  | nested name title inner rest ihInner ih =>
      rintro (⟨c, d, hc, hd, h⟩ | h)
      · obtain rfl : c = d := by simpa using hc.symm.trans hd
        exact ihInner h
      · exact ih h

/-- A value that is looked up alike is read alike, unless its section goes over from blank to not
blank between different stand-ins. -/
lemma plainMember_eq_iff {absent blank : Json} (hempty : b = [] → a = [])
    (hlookup : b.lookup (name : Text) = a.lookup (name : Text)) :
    plainMember (partOf b) name absent blank = plainMember (partOf a) name absent blank
      ↔ ¬ (absent ≠ blank ∧ a = [] ∧ b ≠ []) := by
  cases b with
  | nil =>
      obtain rfl := hempty rfl
      simp
  | cons m b =>
      cases a with
      | nil => simp [partOf, plainMember, Json.memberD, hlookup]
      | cons n a => simp [partOf, plainMember, Json.memberD, hlookup]

/-- **What is read of objects in agreement.**  Reading goes on as it did, and gives another record
just where a section is filled. -/
lemma readFields_of_agrees {r : Record f} (hempty : b = [] → a = []) (h : f.Agrees a b)
    (hr : readFields f (partOf a) = .ok r) :
    ∃ r', readFields f (partOf b) = .ok r' ∧ (r' = r ↔ ¬ f.Fills a b) := by
  induction f generalizing a b with
  | done => exact ⟨(), rfl, iff_of_true rfl id⟩
  | value name absent blank rest ih =>
      obtain ⟨v, others⟩ := r
      obtain ⟨rfl, hothers⟩ := readFields_value_iff.mp hr
      obtain ⟨others', hread, hsame⟩ := ih hempty h.2 hothers
      refine ⟨(plainMember (partOf b) name absent blank, others'),
        readFields_value_iff.mpr ⟨rfl, hread⟩, ?_⟩
      rw [Fields.Fills, not_or, ← hsame, ← plainMember_eq_iff hempty h.1]
      exact Prod.mk.injEq _ _ _ _ ▸ Iff.rfl
  | items name rest ih =>
      obtain ⟨items, others⟩ := r
      obtain ⟨hitems, hothers⟩ := readFields_items_iff.mp hr
      obtain ⟨others', hread, hsame⟩ := ih hempty h.2 hothers
      rw [memberOf_partOf, ← h.1, ← memberOf_partOf] at hitems
      refine ⟨(items, others'), readFields_items_iff.mpr ⟨hitems, hread⟩, ?_⟩
      rw [Fields.Fills, ← hsame]
      exact ⟨fun heq => (Prod.mk.inj heq).2, congrArg (Prod.mk items)⟩
  | nested name title inner rest ihInner ih =>
      obtain ⟨record, others⟩ := r
      obtain ⟨⟨part, hpart, hrecord⟩, hothers⟩ := readFields_nested_iff.mp hr
      obtain ⟨others', hread, hsame⟩ := ih hempty h.2 hothers
      obtain ⟨record', hrecord', hinner⟩ : ∃ record',
          (∃ part', sectionMembers (memberOf (partOf b) name) = .ok part'
            ∧ readFields inner part' = .ok record')
          ∧ (record' = record ↔ ¬ ∃ c d, a.lookup (name : Text) = some (.obj c)
            ∧ b.lookup (name : Text) = some (.obj d) ∧ inner.Fills c d) := by
        rw [memberOf_partOf] at hpart ⊢
        have halike := h.1
        revert hpart halike
        generalize a.lookup (name : Text) = u
        generalize b.lookup (name : Text) = w
        intro hpart halike
        cases halike with
        | same =>
            refine ⟨record, ⟨part, hpart, hrecord⟩, iff_of_true rfl ?_⟩
            rintro ⟨c, d, hc, hd, hfills⟩
            obtain rfl : c = d := by simpa using hc.symm.trans hd
            exact not_fills_self hfills
        | @members c d hagree =>
            obtain rfl := Except.ok.inj ((sectionMembers_obj c).symm.trans hpart)
            obtain ⟨record', hread', hsame'⟩ := ihInner hagree.1 hagree.2 hrecord
            refine ⟨record', ⟨_, sectionMembers_obj d, hread'⟩, ?_⟩
            simpa using hsame'
      refine ⟨(record', others'), readFields_nested_iff.mpr ⟨hrecord', hread⟩, ?_⟩
      rw [Fields.Fills, not_or, ← hsame, ← hinner]
      exact Prod.mk.injEq _ _ _ _ ▸ Iff.rfl

/-! ## The catalog -/

/-- Every value has one stand-in for a blank section and for a missing member. -/
def Fields.IsSteady : Fields → Prop
  | .done => True
  | .value _ absent blank rest => absent = blank ∧ rest.IsSteady
  | .items _ rest => rest.IsSteady
  | .nested _ _ inner rest => inner.IsSteady ∧ rest.IsSteady

/-- **Steady fields cannot be filled.** -/
lemma Fields.IsSteady.not_fills (h : f.IsSteady) : ¬ f.Fills a b := by
  induction f generalizing a b with
  | done => exact id
  | value name absent blank rest ih =>
      rintro (⟨hne, -⟩ | hfills)
      · exact hne h.1
      · exact ih h.2 hfills
  | items name rest ih => exact ih h
  | nested name title inner rest ihInner ih =>
      rintro (⟨c, d, -, -, hfills⟩ | hfills)
      · exact ihInner h.1 hfills
      · exact ih h.2 hfills

namespace Catalog

lemma isSteady_plains (names : List String) (h : rest.IsSteady) : (plains names rest).IsSteady := by
  induction names with
  | nil => exact h
  | cons name names ih => exact ⟨rfl, ih⟩

lemma isSteady_switches (names : List String) (h : rest.IsSteady) :
    (switches names rest).IsSteady := by
  induction names with
  | nil => exact h
  | cons name names ih => exact ⟨rfl, ih⟩

lemma isSteady_tokenSwitches : tokenSwitches.IsSteady := isSteady_switches _ trivial

lemma isSteady_systemPolicy : systemPolicy.fields.IsSteady :=
  isSteady_switches _ ⟨isSteady_switches _ trivial, trivial⟩

lemma isSteady_feePayerPolicy : feePayerPolicy.fields.IsSteady :=
  ⟨isSteady_systemPolicy, isSteady_tokenSwitches, isSteady_tokenSwitches, trivial⟩

lemma isSteady_enabledMethods : enabledMethods.fields.IsSteady := isSteady_switches _ trivial

end Catalog

lemma fills_withDefault (name : String) (missing : Json) :
    (Catalog.withDefault name missing rest).Fills a b ↔ rest.Fills a b := by
  rw [Catalog.withDefault, Fields.Fills]
  exact or_iff_right fun h => h.1 rfl

/-- A price is the one section with a value of two stand-ins: its margin is null where it is missing,
and zero where there is no price. -/
lemma fills_priceConfig_iff : Catalog.priceConfig.fields.Fills a b ↔ a = [] ∧ b ≠ [] := by
  have hrest : (Catalog.plains ["amount", "token"] .done).IsSteady :=
    Catalog.isSteady_plains _ trivial
  rw [Catalog.priceConfig, fills_withDefault, Fields.Fills, or_iff_left hrest.not_fills]
  exact and_iff_right Json.noConfusion

lemma fills_validationConfig_iff :
    Catalog.validationConfig.fields.Fills a b ↔ a.lookup ("price" : Text) = some (.obj [])
      ∧ ∃ d ≠ [], b.lookup ("price" : Text) = some (.obj d) := by
  simp only [Catalog.validationConfig, fills_withDefault, Fields.Fills,
    Catalog.isSteady_feePayerPolicy.not_fills, fills_priceConfig_iff, Catalog.token2022Config,
    and_false, exists_false, false_or, or_false]
  constructor
  · rintro ⟨c, d, hc, hd, rfl, hsome⟩
    exact ⟨hc, d, hsome, hd⟩
  · rintro ⟨hc, d, hsome, hd⟩
    exact ⟨[], d, hc, hd, rfl, hsome⟩

lemma fills_config_iff :
    Catalog.config.fields.Fills a b ↔ ∃ c d, a.lookup ("validation_config" : Text) = some (.obj c)
      ∧ b.lookup ("validation_config" : Text) = some (.obj d)
      ∧ Catalog.validationConfig.fields.Fills c d := by
  simp only [Catalog.config, Fields.Fills, Catalog.isSteady_enabledMethods.not_fills, and_false,
    exists_false, or_false]

/-- The price in a reply: the reply itself, or a section of it. -/
def priceIn (shape : Shape) (v : Json) : Json :=
  if shape.title = "PriceConfig" then v
  else if shape.title = "ValidationConfig" then v.member "price"
  else if shape.title = "Config" then (v.member "validation_config").member "price"
  else .null

/-- A price without members gets some. -/
def FillsPrice (shape : Shape) (v w : Json) : Prop :=
  priceIn shape v = .obj [] ∧ ∃ members ≠ [], priceIn shape w = .obj members

lemma member_eq_obj_iff {v : Json} {members : Members} :
    v.member name = .obj members
      ↔ ∃ a, v = .obj a ∧ a.lookup (name : Text) = some (.obj members) := by
  cases v with
  | obj a =>
      simp only [Json.member, Json.memberD, Json.obj.injEq, exists_eq_left']
      cases a.lookup (name : Text) <;> simp
  | _ => simp [Json.member]

/-- The shapes that hold a price. -/
def Catalog.priced : List Shape := [priceConfig, validationConfig, config]

/-- The shapes that hold none. -/
def Catalog.priceless : List Shape :=
  [noncePolicy, systemPolicy, tokenPolicy, token2022Policy, feePayerPolicy, token2022Config,
   enabledMethods, blockhash, version, supportedTokens, payerSigner, transactionFee, bundleFee,
   signedTransaction, sentTransaction, paidTransaction, signedBundle, sentBundle, transfer]

namespace Catalog

variable {shape : Shape}

lemma mem_priced_or_priceless (h : shape ∈ all) : shape ∈ priced ∨ shape ∈ priceless := by
  have hsub : all ⊆ priced ++ priceless := by
    simp only [all, priced, priceless, List.cons_append, List.nil_append, List.cons_subset,
      List.mem_cons, List.nil_subset, true_or, or_true, and_self]
  exact List.mem_append.mp (hsub h)

lemma isSteady_of_priceless : ∀ shape ∈ priceless, shape.fields.IsSteady := by
  simp only [priceless, List.forall_mem_cons]
  -- the policies of the server, then the answers of its methods
  refine ⟨isSteady_switches _ trivial, isSteady_systemPolicy, isSteady_tokenSwitches,
    isSteady_tokenSwitches, isSteady_feePayerPolicy, trivial, isSteady_enabledMethods, ?_⟩
  refine ⟨isSteady_plains _ trivial, isSteady_plains _ trivial, trivial,
    isSteady_plains _ trivial, isSteady_plains _ trivial, isSteady_plains _ trivial, ?_⟩
  exact ⟨isSteady_plains _ trivial, isSteady_plains _ trivial, isSteady_plains _ trivial,
    isSteady_plains _ trivial, isSteady_plains _ trivial, isSteady_plains _ trivial,
    List.forall_mem_nil _⟩

lemma priceIn_of_priceless (h : shape ∈ priceless) (v : Json) : priceIn shape v = .null := by
  have htitles : ∀ title ∈ priceless.map (·.title),
      title ≠ "PriceConfig" ∧ title ≠ "ValidationConfig" ∧ title ≠ "Config" := by
    decide
  obtain ⟨hprice, hvalidation, hconfig⟩ := htitles _ (List.mem_map_of_mem h)
  rw [priceIn, if_neg hprice, if_neg hvalidation, if_neg hconfig]

end Catalog

/-- **Only a price is filled.** -/
lemma fills_iff_fillsPrice {shape : Shape} (h : shape ∈ Catalog.all) :
    shape.fields.Fills a b ↔ FillsPrice shape (.obj a) (.obj b) := by
  rcases Catalog.mem_priced_or_priceless h with hprice | hnone
  · simp only [Catalog.priced, List.mem_cons, List.not_mem_nil, or_false] at hprice
    rcases hprice with rfl | rfl | rfl
    · rw [fills_priceConfig_iff]
      simp [FillsPrice, priceIn, Catalog.priceConfig]
    · rw [fills_validationConfig_iff]
      simp [FillsPrice, priceIn, Catalog.validationConfig, member_eq_obj_iff]
    · rw [fills_config_iff]
      simp only [fills_validationConfig_iff, FillsPrice, priceIn, Catalog.config, String.reduceEq,
        if_true, if_false, member_eq_obj_iff, Json.obj.injEq, exists_eq_left']
      constructor
      · rintro ⟨c, d, hc, hd, hempty, members, hsome, hmembers⟩
        exact ⟨⟨c, hc, hempty⟩, members, hsome, d, hd, hmembers⟩
      · rintro ⟨⟨c, hc, hempty⟩, members, hsome, d, hd, hmembers⟩
        exact ⟨c, d, hc, hd, hempty, members, hsome, hmembers⟩
  · refine iff_of_false (Catalog.isSteady_of_priceless shape hnone).not_fills ?_
    rintro ⟨hprice, -⟩
    cases (Catalog.priceIn_of_priceless hnone _).symm.trans hprice

/-- **Members that no field asks for are ignored, but for those of an empty price.**  Whatever an
object decodes to, it still decodes after members of other names are added, at the top or in a
section, and members are reordered.  The record is the same, unless a price without members was
given some. -/
theorem unknown_members_ignored_iff {shape : Shape} (hshape : shape ∈ Catalog.all)
    (hedits : shape.fields.Edits a b) {r : Record shape.fields}
    (h : decode shape.fields (.obj a) = .ok r) :
    ∃ r', decode shape.fields (.obj b) = .ok r'
      ∧ (r' = r ↔ ¬ FillsPrice shape (.obj a) (.obj b)) := by
  obtain ⟨hempty, hagrees⟩ := hedits.agrees (Catalog.distinct_of_mem_all hshape)
  obtain ⟨part, hpart, hr⟩ := decode_eq_ok_iff.mp h
  obtain rfl := Except.ok.inj ((sectionMembers_obj a).symm.trans hpart)
  obtain ⟨r', hr', hsame⟩ := readFields_of_agrees hempty hagrees hr
  rw [fills_iff_fillsPrice hshape] at hsame
  exact ⟨r', decode_eq_ok_iff.mpr ⟨_, sectionMembers_obj b, hr'⟩, hsame⟩

/-- A section with a free price. -/
def freePrice : Members := [("price", .obj [("type", .str "free")]), ("max_signatures", .int 5)]

/-- The same in another order, with a comment, and with a note in the price. -/
def notedPrice : Members :=
  [("comment", .null), ("max_signatures", .int 5),
    ("price", .obj [("note", .bool true), ("type", .str "free")])]

/-- A note in a price that is not empty is passed over, and so is a comment. -/
theorem unknown_members_ignored_of_note :
    ∃ r, decode Catalog.validationConfig.fields (.obj freePrice) = .ok r
      ∧ decode Catalog.validationConfig.fields (.obj notedPrice) = .ok r := by
  have hshape : Catalog.validationConfig ∈ Catalog.all := by simp [Catalog.all]
  have hsection : Catalog.validationConfig.fields.HasSection "price" Catalog.priceConfig.fields := by
    simp [Catalog.validationConfig, Catalog.withDefault, Fields.HasSection]
  have hnoted : Catalog.validationConfig.fields.Edits freePrice
      [("price", .obj [("note", .bool true), ("type", .str "free")]), ("max_signatures", .int 5)] :=
    .single (.inside hsection (.add "note" (.bool true) (by decide)))
  have hedits : Catalog.validationConfig.fields.Edits freePrice notedPrice :=
    (hnoted.tail (.reorder (by decide) (.swap _ _ _))).tail (.add "comment" .null (by decide))
  obtain ⟨r, hr⟩ : ∃ r, decode Catalog.validationConfig.fields (.obj freePrice) = .ok r := ⟨_, rfl⟩
  obtain ⟨r', hr', hsame⟩ := unknown_members_ignored_iff hshape hedits hr
  have hfree : ¬ FillsPrice Catalog.validationConfig (.obj freePrice) (.obj notedPrice) := by
    rintro ⟨hempty, -⟩
    cases hempty
  rw [hsame.mpr hfree] at hr'
  exact ⟨r, hr, hr'⟩

/-- A note in an empty price is not: the margin was zero, for want of a price, and is null now, for
want of a margin. -/
theorem note_opens_margin :
    Catalog.priceConfig.fields.Edits [] [("x", .int 1)]
      ∧ ∃ r r', decode Catalog.priceConfig.fields (.obj []) = .ok r
        ∧ decode Catalog.priceConfig.fields (.obj [("x", .int 1)]) = .ok r'
        ∧ (Price.ofRecord r).margin = .double .zero ∧ (Price.ofRecord r').margin = .null := by
  refine ⟨.single (.add "x" (.int 1) (by decide)), _, _, rfl, rfl, rfl, rfl⟩

end Paymaster.Reply
