import Mathlib
import Paymaster.Proofs.Records

/-!
# What a configuration may look like

A configuration is read leniently, and is refused for its shape alone.  This file says which of its
values are looked at, and at which of them a reading fails.

**Places.**  A `Place` is a path of member names, with what is expected at its end: a section or a
list.  A document fits it if the value there is blank, is an object, or, for a list, can be gone
through in another way (`Place.Fits`).  A value that does not fit is refused as no section or as no
list (`Place.fault`).

**Reading.**  The places of a shape come in the order in which it is read (`Fields.places`).  Reading
fails at the first place that the document does not fit, and succeeds if it fits them all
(`failure_decode`).

**Lists.**  What is read at the place of a list is held as a list (`items_of_readFields`).

The main statement is `config_refused_at_first_misfit`.
-/

namespace Paymaster

/-- The value at the end of a path of member names. -/
def Json.at (v : Json) (path : List String) : Json :=
  path.foldl Json.member v

namespace Reply

/-! ## Places -/

/-- What a value is read as: a section, or a list. -/
inductive Role where
  | nested
  | items
deriving Repr, DecidableEq

namespace Role

/-- The kinds of value that are read in a role, other than the blank ones. -/
def kinds : Role → List Json.Kind
  | nested => [.obj]
  | items => [.arr, .str, .obj]

/-- A value can be read in a role. -/
def Suits (role : Role) (v : Json) : Prop :=
  v.isBlank = true ∨ v.kind ∈ role.kinds

instance (role : Role) (v : Json) : Decidable (role.Suits v) :=
  inferInstanceAs (Decidable (_ ∨ _))

/-- How a value is refused that cannot be read in a role. -/
def refusal : Role → Json → Error
  | nested, v => .noOperation v.kind "get"
  | items, v => .notIterable v.kind

end Role

/-- Where a document is looked at, and what for. -/
structure Place where
  role : Role
  path : List String
deriving Repr, DecidableEq

namespace Place

/-- A document can be read at a place. -/
def Fits (p : Place) (v : Json) : Prop :=
  p.role.Suits (v.at p.path)

instance (p : Place) (v : Json) : Decidable (p.Fits v) :=
  inferInstanceAs (Decidable (p.role.Suits _))

/-- The error of a document that cannot be read at a place. -/
def fault (p : Place) (v : Json) : Error :=
  p.role.refusal (v.at p.path)

/-- A place of a section, seen from what the section is a member of. -/
def below (name : String) (p : Place) : Place :=
  { p with path := name :: p.path }

end Place

/-- The places of some fields, in the order in which they are read. -/
def Fields.places : Fields → List Place
  | .done => []
  | .value _ _ _ rest => rest.places
  | .items name rest => ⟨.items, [name]⟩ :: rest.places
  | .nested name _ inner rest =>
    (⟨.nested, []⟩ :: inner.places).map (.below name) ++ rest.places

/-- The error at the first place that a document does not fit. -/
def firstFault (places : List Place) (v : Json) : Option Error :=
  (places.find? fun p => ¬ p.Fits v).map fun p => p.fault v

section FirstFault

variable (p : Place) (ps qs : List Place) (v : Json)

lemma firstFault_cons :
    firstFault (p :: ps) v = if p.Fits v then firstFault ps v else some (p.fault v) := by
  by_cases hp : p.Fits v <;> simp [firstFault, hp]

lemma firstFault_append : firstFault (ps ++ qs) v = (firstFault ps v).or (firstFault qs v) := by
  simp only [firstFault, List.find?_append, Option.map_or]

/-- Below a member, a document is looked at as that member is by itself. -/
lemma firstFault_below (name : String) :
    firstFault (ps.map (.below name)) v = firstFault ps (v.member name) := by
  simp only [firstFault, List.find?_map, Option.map_map]
  rfl

lemma firstFault_eq_none_iff : firstFault ps v = none ↔ ∀ p ∈ ps, p.Fits v := by
  simp [firstFault]

lemma firstFault_eq_some_iff {e : Error} :
    firstFault ps v = some e ↔
      ∃ before p after, ps = before ++ p :: after ∧ (∀ q ∈ before, q.Fits v) ∧ ¬ p.Fits v
        ∧ e = p.fault v := by
  simp only [firstFault, Option.map_eq_some_iff, List.find?_eq_some_iff_append, decide_eq_true_eq,
    Bool.not_eq_true', decide_eq_false_iff_not, not_not]
  constructor
  · rintro ⟨p, ⟨hp, before, after, rfl, hbefore⟩, rfl⟩
    exact ⟨before, p, after, rfl, hbefore, hp, rfl⟩
  · rintro ⟨before, p, after, rfl, hbefore, hp, rfl⟩
    exact ⟨p, ⟨hp, before, after, rfl, hbefore⟩, rfl⟩

end FirstFault

/-! ## Reading -/

section Failure

variable {α β : Type}

/-- The error of a result that is none. -/
def failure : Except Error α → Option Error
  | .ok _ => none
  | .error e => some e

lemma failure_eq_none_iff {x : Except Error α} : failure x = none ↔ ∃ a, x = .ok a := by
  cases x <;> simp [failure]

lemma failure_eq_some_iff {x : Except Error α} {e : Error} : failure x = some e ↔ x = .error e := by
  cases x <;> simp [failure]

/-- Two readings, one after the other, fail as the first of them that fails. -/
lemma failure_pair (x : Except Error α) (y : Except Error β) :
    failure (do let a ← x; let b ← y; return (a, b)) = (failure x).or (failure y) := by
  cases x with
  | error e => rfl
  | ok a => cases y <;> rfl

end Failure

lemma failure_sectionMembers (v : Json) :
    failure (sectionMembers v)
      = if Role.nested.Suits v then none else some (Role.nested.refusal v) := by
  by_cases hblank : v.isBlank = true
  · simp [sectionMembers, Role.Suits, failure, hblank]
  · cases v <;> simp [sectionMembers, Role.Suits, failure, hblank, Role.kinds, Role.refusal, Json.kind]

lemma failure_listItems (v : Json) :
    failure (listItems v) = if Role.items.Suits v then none else some (Role.items.refusal v) := by
  by_cases hblank : v.isBlank = true
  · simp [listItems, Role.Suits, failure, hblank]
  · cases v <;> simp [listItems, Role.Suits, failure, hblank, Role.kinds, Role.refusal, Json.kind]

/-- A value fails to decode as no section, or in its fields. -/
lemma failure_decode_of_fields {f : Fields}
    (hfields : ∀ {v part}, sectionMembers v = .ok part →
      failure (readFields f part) = firstFault f.places v) (v : Json) :
    failure (decode f v) = firstFault (⟨.nested, []⟩ :: f.places) v := by
  have hsection := failure_sectionMembers v
  rw [firstFault_cons]
  change _ = if Role.nested.Suits v then firstFault f.places v else some (Role.nested.refusal v)
  cases hmembers : sectionMembers v with
  | ok part =>
      rw [hmembers] at hsection
      have hsuits : Role.nested.Suits v := by
        by_contra hnot
        rw [if_neg hnot] at hsection
        cases hsection
      rw [if_pos hsuits, ← hfields hmembers, decode, hmembers]
      rfl
  | error e =>
      rw [hmembers] at hsection
      have hnot : ¬ Role.nested.Suits v := by
        intro hsuits
        rw [if_pos hsuits] at hsection
        cases hsection
      rw [if_neg hnot, decode, hmembers]
      rw [if_neg hnot] at hsection
      exact hsection

/-- **Fields fail at the first place that the document does not fit.** -/
lemma failure_readFields {f : Fields} {v : Json} {part : Option (List (Text × Json))}
    (hpart : sectionMembers v = .ok part) : failure (readFields f part) = firstFault f.places v := by
  induction f generalizing v part with
  | done => rfl
  | value name absent blank rest ih =>
      rw [Fields.places, ← ih hpart, readFields]
      cases readFields rest part <;> rfl
  | items name rest ih =>
      calc failure (readFields (.items name rest) part)
          = (failure (listItems (memberOf part name))).or (failure (readFields rest part)) :=
            failure_pair _ _
        _ = (if Role.items.Suits (v.member name) then none
              else some (Role.items.refusal (v.member name))).or (firstFault rest.places v) := by
            rw [memberOf_eq hpart, failure_listItems, ih hpart]
        _ = firstFault (⟨.items, [name]⟩ :: rest.places) v := by
            rw [firstFault_cons]
            change _ = if Role.items.Suits (v.member name) then _ else some (Role.items.refusal _)
            split_ifs <;> rfl
  | nested name title inner rest ihInner ih =>
      calc failure (readFields (.nested name title inner rest) part)
          = (failure (decode inner (memberOf part name))).or (failure (readFields rest part)) := by
            rw [← failure_pair, decode, bind_assoc]
            rfl
        _ = (firstFault (⟨.nested, []⟩ :: inner.places) (v.member name)).or
              (firstFault rest.places v) := by
            rw [memberOf_eq hpart, failure_decode_of_fields ihInner, ih hpart]
        _ = firstFault (Fields.nested name title inner rest).places v := by
            rw [Fields.places, firstFault_append, firstFault_below]

/-- **A document fails to decode at the first place that it does not fit.** -/
lemma failure_decode (f : Fields) (v : Json) :
    failure (decode f v) = firstFault (⟨.nested, []⟩ :: f.places) v :=
  failure_decode_of_fields failure_readFields v

/-! ## Lists -/

/-- The place of a list is below a field. -/
lemma Fields.path_of_mem_places {f : Fields} {p : Place} (h : p ∈ f.places) :
    ∃ name ∈ f.names, ∃ path, p.path = name :: path := by
  induction f with
  | done => cases h
  | value name absent blank rest ih =>
      obtain ⟨other, hother, hpath⟩ := ih h
      exact ⟨other, List.mem_cons_of_mem _ hother, hpath⟩
  | items name rest ih =>
      obtain rfl | h := List.mem_cons.mp h
      · exact ⟨name, List.mem_cons_self, [], rfl⟩
      · obtain ⟨other, hother, hpath⟩ := ih h
        exact ⟨other, List.mem_cons_of_mem _ hother, hpath⟩
  | nested name title inner rest _ ih =>
      obtain h | h := List.mem_append.mp h
      · obtain ⟨q, -, rfl⟩ := List.mem_map.mp h
        exact ⟨name, List.mem_cons_self, q.path, rfl⟩
      · obtain ⟨other, hother, hpath⟩ := ih h
        exact ⟨other, List.mem_cons_of_mem _ hother, hpath⟩

lemma member_cons_self (name : String) (v : Json) (members : List (Text × Json)) :
    (Json.obj (((name : Text), v) :: members)).member name = v :=
  memberD_cons_self name v .null members

/-- A member of another name is passed over on the way to a place of the fields behind it. -/
lemma at_cons {rest : Fields} {name : String} {p : Place} (hname : name ∉ rest.names)
    (hp : p ∈ rest.places) (v : Json) (members : List (Text × Json)) :
    (Json.obj (((name : Text), v) :: members)).at p.path = (Json.obj members).at p.path := by
  obtain ⟨other, hother, path, hpath⟩ := Fields.path_of_mem_places hp
  have hne : (other : Text) ≠ name := fun heq => hname (Text.ofString_injective heq ▸ hother)
  have hmember : (Json.obj (((name : Text), v) :: members)).member other
      = (Json.obj members).member other := by
    simp only [Json.member, Json.memberD, List.lookup_cons, beq_eq_false_iff_ne.mpr hne]
  rw [hpath]
  exact congrArg (fun w => List.foldl Json.member w path) hmember

/-- The list that a document was gone through for at a place is what a value holds there. -/
def Place.Holds (p : Place) (v w : Json) : Prop :=
  ∃ items, listItems (v.at p.path) = .ok items ∧ w.at p.path = .arr items

/-- **What is read at the place of a list is held as a list.** -/
lemma items_of_readFields {f : Fields} (hf : f.Distinct) {v : Json} {r : Record f}
    {part : Option (List (Text × Json))} (hpart : sectionMembers v = .ok part)
    (h : readFields f part = .ok r) {p : Place} (hp : p ∈ f.places) (hrole : p.role = .items) :
    p.Holds v (toJson f r) := by
  induction f generalizing v part p with
  | done => cases hp
  | value name absent blank rest ih =>
      obtain ⟨hname, hrest⟩ := hf
      obtain ⟨w, others⟩ := r
      obtain ⟨items, hitems, hat⟩ :=
        ih hrest hpart (readFields_value_iff.mp h).2 hp hrole
      exact ⟨items, hitems, (at_cons hname hp w _).trans hat⟩
  | items name rest ih =>
      obtain ⟨hname, hrest⟩ := hf
      obtain ⟨read, others⟩ := r
      obtain ⟨hread, h⟩ := readFields_items_iff.mp h
      obtain rfl | hp := List.mem_cons.mp hp
      · rw [memberOf_eq hpart] at hread
        exact ⟨read, hread, member_cons_self name _ _⟩
      · obtain ⟨items, hitems, hat⟩ := ih hrest hpart h hp hrole
        exact ⟨items, hitems, (at_cons hname hp _ _).trans hat⟩
  | nested name title inner rest ihInner ih =>
      obtain ⟨hname, hinner, hrest⟩ := hf
      obtain ⟨record, others⟩ := r
      obtain ⟨⟨sub, hsub, hrecord⟩, h⟩ := readFields_nested_iff.mp h
      obtain hp | hp := List.mem_append.mp hp
      · obtain ⟨q, hq, rfl⟩ := List.mem_map.mp hp
        obtain rfl | hq := List.mem_cons.mp hq
        · cases hrole
        · rw [memberOf_eq hpart] at hsub
          obtain ⟨items, hitems, hat⟩ := ihInner hinner hsub hrecord hq hrole
          refine ⟨items, hitems, ?_⟩
          exact (congrArg (Json.at · q.path) (member_cons_self name _ _)).trans hat
      · obtain ⟨items, hitems, hat⟩ := ih hrest hpart h hp hrole
        exact ⟨items, hitems, (at_cons hname hp _ _).trans hat⟩

/-! ## The configuration -/

/-- The places of a configuration, in the order in which they are read. -/
def configPlaces : List Place :=
  [⟨.nested, []⟩,
   ⟨.items, ["fee_payers"]⟩,
   ⟨.nested, ["validation_config"]⟩,
   ⟨.items, ["validation_config", "allowed_programs"]⟩,
   ⟨.items, ["validation_config", "allowed_tokens"]⟩,
   ⟨.items, ["validation_config", "allowed_spl_paid_tokens"]⟩,
   ⟨.items, ["validation_config", "disallowed_accounts"]⟩,
   ⟨.nested, ["validation_config", "fee_payer_policy"]⟩,
   ⟨.nested, ["validation_config", "fee_payer_policy", "system"]⟩,
   ⟨.nested, ["validation_config", "fee_payer_policy", "system", "nonce"]⟩,
   ⟨.nested, ["validation_config", "fee_payer_policy", "spl_token"]⟩,
   ⟨.nested, ["validation_config", "fee_payer_policy", "token_2022"]⟩,
   ⟨.nested, ["validation_config", "price"]⟩,
   ⟨.nested, ["validation_config", "token2022"]⟩,
   ⟨.items, ["validation_config", "token2022", "blocked_mint_extensions"]⟩,
   ⟨.items, ["validation_config", "token2022", "blocked_account_extensions"]⟩,
   ⟨.nested, ["enabled_methods"]⟩]

lemma configPlaces_eq : configPlaces = ⟨.nested, []⟩ :: Catalog.config.fields.places := by
  decide

/-- **A configuration is refused at the first place that the document does not fit**, and nothing
else in the document matters.

* The document decodes exactly if it fits every place of a configuration.
* Otherwise the error is that of the first place that it does not fit: of a section, or of a list.
* What was read of a list is held as one. -/
theorem config_refused_at_first_misfit (v : Json) :
    ((∃ r, decode Catalog.config.fields v = .ok r) ↔ ∀ p ∈ configPlaces, p.Fits v)
      ∧ (∀ e, decode Catalog.config.fields v = .error e ↔
        ∃ before p after, configPlaces = before ++ p :: after ∧ (∀ q ∈ before, q.Fits v)
          ∧ ¬ p.Fits v ∧ e = p.fault v)
      ∧ ∀ r, decode Catalog.config.fields v = .ok r →
        ∀ p ∈ configPlaces, p.role = .items → p.Holds v (toJson Catalog.config.fields r) := by
  have hfailure : failure (decode Catalog.config.fields v) = firstFault configPlaces v := by
    rw [configPlaces_eq, failure_decode]
  refine ⟨?_, ?_, ?_⟩
  · rw [← failure_eq_none_iff, hfailure, firstFault_eq_none_iff]
  · intro e
    rw [← failure_eq_some_iff, hfailure, firstFault_eq_some_iff]
  · intro r hr p hp hrole
    have hdistinct : Catalog.config.fields.Distinct :=
      Catalog.distinct_of_mem_all (by simp [Catalog.all])
    obtain ⟨part, hpart, h⟩ := decode_eq_ok_iff.mp hr
    rw [configPlaces_eq] at hp
    obtain rfl | hp := List.mem_cons.mp hp
    · cases hrole
    · exact items_of_readFields hdistinct hpart h hp hrole

/-- A document whose price is no section, and whose later places do not fit either. -/
def textPrice : Json :=
  .obj [("enabled_methods", .int 1),
    ("validation_config", .obj [("token2022", .arr [.null]), ("price", .str "free")])]

/-- A document that fits although its lists are a text and an object, and its sections are blank. -/
def lenient : Json :=
  .obj [("fee_payers", .str "ab"), ("enabled_methods", .arr []),
    ("validation_config", .obj [("allowed_tokens", .obj [("mint", .bool true)]), ("price", .int 0)])]

/-- The lenient document decodes, with each of its lists held as one, and the other is refused for its
price, which is read before the tokens' extensions and the methods. -/
theorem config_refused_of_text_price :
    (∃ r, decode Catalog.config.fields lenient = .ok r
        ∧ ∀ p ∈ configPlaces, p.role = .items → p.Holds lenient (toJson Catalog.config.fields r))
      ∧ decode Catalog.config.fields textPrice = .error (.noOperation .str "get") := by
  constructor
  · obtain ⟨hdecodes, -, hlists⟩ := config_refused_at_first_misfit lenient
    obtain ⟨r, hr⟩ := hdecodes.mpr (by decide)
    exact ⟨r, hr, hlists r hr⟩
  · refine ((config_refused_at_first_misfit textPrice).2.1 _).mpr ?_
    exact ⟨configPlaces.take 12, ⟨.nested, ["validation_config", "price"]⟩, configPlaces.drop 13,
      rfl, by decide, by decide, rfl⟩

end Reply

end Paymaster
