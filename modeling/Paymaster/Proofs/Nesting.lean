import Mathlib
import Paymaster.Json.Display
import Paymaster.Json.Reader
import Paymaster.Proofs.Actions
import Paymaster.Proofs.TextForm

/-!
# How deep a value is

What stands in the way of writing or showing a value is looked for along the value, and the first
of it is reported.  This file says what a value without an obstacle is, and that whatever is read is
one.

**Height.**  `Json.height` counts how many values stand inside each other, and `Json.Short` says that
no whole number has too many digits.  A value has no obstacle just when its height fits the room and
its numbers are short (`obstacle?_eq_none_iff`), so more room is never in the way
(`obstacle?_of_le`), and nothing is in the way of what stands in such a value
(`obstacle?_of_within`).

**Reading.**  The reader counts its levels down as the height counts them up, and takes no longer
numbers than are spelled (`readValue_fits`, by induction on the fuel).  So what it gives, and
whatever stands in that, can be written in the same room, and shown in any room that is greater
(`unshowable?_of_read`).

**Towers.**  A list inside enough others is too deep for any stack (`obstacle?_tower`).
-/

namespace Paymaster

namespace Numeral

lemma length_decimal_le {n width : ℕ} (hpos : 0 < width) (h : n < 10 ^ width) :
    (decimal n).length ≤ width := by
  unfold decimal
  split_ifs
  · exact hpos
  · rw [List.length_reverse, List.length_map]
    exact length_digits_le h

/-- A number is below the power of ten that has more digits than it. -/
lemma lt_pow_length_decimal (n : ℕ) : n < 10 ^ (decimal n).length := by
  unfold decimal
  split_ifs with hzero
  · rw [hzero]
    exact Nat.pow_pos (by decide)
  · rw [List.length_reverse, List.length_map]
    have hdigits := value_lt 10 (digits 8 n).reverse fun d hd =>
      lt_of_mem_digits (List.mem_reverse.mp hd)
    rwa [value_reverse_digits, List.length_reverse] at hdigits

end Numeral

namespace Json

open Rpc (map_eq_ok_iff)

/-! ## Height -/

mutual

/-- How many values stand inside each other, with the innermost or without it if it is no
container. -/
def height (leaves : Bool) : Json → ℕ
  | arr items => heightOfItems leaves items + 1
  | obj members => heightOfMembers leaves members + 1
  | _ => leaves.toNat

/-- The greatest height of some items. -/
def heightOfItems (leaves : Bool) : List Json → ℕ
  | [] => 0
  | v :: rest => max (height leaves v) (heightOfItems leaves rest)

/-- The greatest height of the values of some members. -/
def heightOfMembers (leaves : Bool) : List (Text × Json) → ℕ
  | [] => 0
  | (_, v) :: rest => max (height leaves v) (heightOfMembers leaves rest)

end

mutual

/-- No whole number in a value has more digits than are spelled. -/
def Short : Json → Prop
  | int n => (Numeral.decimal n.natAbs).length ≤ Numeral.digitLimit
  | arr items => ShortItems items
  | obj members => ShortMembers members
  | _ => True

/-- No whole number in some items has too many digits. -/
def ShortItems : List Json → Prop
  | [] => True
  | v :: rest => Short v ∧ ShortItems rest

/-- No whole number in the values of some members has too many digits. -/
def ShortMembers : List (Text × Json) → Prop
  | [] => True
  | (_, v) :: rest => Short v ∧ ShortMembers rest

end

lemma leaf_eq_none_iff {leaves : Bool} {room : ℕ} :
    (if leaves ∧ room = 0 then some Obstacle.tooDeep else none) = none ↔ leaves.toNat ≤ room := by
  cases leaves <;> simp [Nat.one_le_iff_ne_zero]

mutual

/-- **Nothing stands in the way of a value** just when it is no higher than the room and its numbers
are short. -/
lemma obstacle?_eq_none_iff {leaves : Bool} {room : ℕ} :
    ∀ v : Json, obstacle? leaves room v = none ↔ height leaves v ≤ room ∧ Short v
  | arr items => by
      cases room with
      | zero => simp [obstacle?, height]
      | succ room =>
          rw [obstacle?, height, Short, Nat.add_le_add_iff_right]
          exact obstacleOfItems?_eq_none_iff items
  | obj members => by
      cases room with
      | zero => simp [obstacle?, height]
      | succ room =>
          rw [obstacle?, height, Short, Nat.add_le_add_iff_right]
          exact obstacleOfMembers?_eq_none_iff members
  | int n => by
      simp only [obstacle?, height, Short, ← leaf_eq_none_iff]
      split_ifs with hdeep hlong
      · simp
      · simp [hlong]
      · simp [Nat.le_of_not_lt hlong]
  | null => by simp only [obstacle?, height, Short, leaf_eq_none_iff, and_true]
  | bool b => by simp only [obstacle?, height, Short, leaf_eq_none_iff, and_true]
  | double x => by simp only [obstacle?, height, Short, leaf_eq_none_iff, and_true]
  | str text => by simp only [obstacle?, height, Short, leaf_eq_none_iff, and_true]

lemma obstacleOfItems?_eq_none_iff {leaves : Bool} {room : ℕ} :
    ∀ items : List Json, obstacleOfItems? leaves room items = none
      ↔ heightOfItems leaves items ≤ room ∧ ShortItems items
  | [] => by simp [obstacleOfItems?, heightOfItems, ShortItems]
  | v :: rest => by
      rw [obstacleOfItems?, heightOfItems, ShortItems, Option.or_eq_none_iff,
        obstacle?_eq_none_iff v, obstacleOfItems?_eq_none_iff rest, max_le_iff]
      tauto

lemma obstacleOfMembers?_eq_none_iff {leaves : Bool} {room : ℕ} :
    ∀ members : List (Text × Json), obstacleOfMembers? leaves room members = none
      ↔ heightOfMembers leaves members ≤ room ∧ ShortMembers members
  | [] => by simp [obstacleOfMembers?, heightOfMembers, ShortMembers]
  | (_, v) :: rest => by
      rw [obstacleOfMembers?, heightOfMembers, ShortMembers, Option.or_eq_none_iff,
        obstacle?_eq_none_iff v, obstacleOfMembers?_eq_none_iff rest, max_le_iff]
      tauto

end

/-- What an obstacle says of a value of some height whose numbers are short or not. -/
def Obstacle.Says (room height : ℕ) (short : Prop) : Obstacle → Prop
  | tooDeep => room < height
  | longNumber => ¬ short

lemma Obstacle.Says.mono {o : Obstacle} {room height height' : ℕ} {short short' : Prop}
    (h : o.Says room height short) (hheight : height ≤ height') (hshort : short' → short) :
    o.Says room height' short' := by
  cases o with
  | tooDeep => exact Nat.lt_of_lt_of_le h hheight
  | longNumber => exact fun h' => h (hshort h')

lemma Obstacle.Says.succ {o : Obstacle} {room height : ℕ} {short : Prop}
    (h : o.Says room height short) : o.Says (room + 1) (height + 1) short := by
  cases o with
  | tooDeep => exact Nat.succ_lt_succ h
  | longNumber => exact h

/-- An innermost value for which no level is left is too deep. -/
lemma says_of_leaf {leaves : Bool} {room : ℕ} {short : Prop} {o : Obstacle}
    (h : (if leaves ∧ room = 0 then some Obstacle.tooDeep else none) = some o) :
    o.Says room leaves.toNat short := by
  split_ifs at h with hdeep
  cases h
  simp [Obstacle.Says, hdeep]

mutual

/-- **What stands in the way of a value** is its height, or a number that is too long. -/
lemma says_of_obstacle? {leaves : Bool} {room : ℕ} {o : Obstacle} :
    ∀ v : Json, obstacle? leaves room v = some o → o.Says room (height leaves v) (Short v)
  | arr items, h => by
      cases room with
      | zero =>
          cases h
          exact Nat.succ_pos _
      | succ room => exact (says_of_obstacleOfItems? items h).succ
  | obj members, h => by
      cases room with
      | zero =>
          cases h
          exact Nat.succ_pos _
      | succ room => exact (says_of_obstacleOfMembers? members h).succ
  | int n, h => by
      simp only [obstacle?] at h
      split_ifs at h with hdeep hlong
      · cases h
        simp [Obstacle.Says, height, hdeep]
      · cases h
        exact Nat.not_le_of_lt hlong
  | null, h => says_of_leaf h
  | bool _, h => says_of_leaf h
  | double _, h => says_of_leaf h
  | str _, h => says_of_leaf h

lemma says_of_obstacleOfItems? {leaves : Bool} {room : ℕ} {o : Obstacle} :
    ∀ items : List Json, obstacleOfItems? leaves room items = some o →
      o.Says room (heightOfItems leaves items) (ShortItems items)
  | v :: rest, h => by
      rw [obstacleOfItems?, Option.or_eq_some_iff] at h
      rcases h with h | ⟨-, h⟩
      · exact (says_of_obstacle? v h).mono (le_max_left _ _) And.left
      · exact (says_of_obstacleOfItems? rest h).mono (le_max_right _ _) And.right

lemma says_of_obstacleOfMembers? {leaves : Bool} {room : ℕ} {o : Obstacle} :
    ∀ members : List (Text × Json), obstacleOfMembers? leaves room members = some o →
      o.Says room (heightOfMembers leaves members) (ShortMembers members)
  | (_, v) :: rest, h => by
      rw [obstacleOfMembers?, Option.or_eq_some_iff] at h
      rcases h with h | ⟨-, h⟩
      · exact (says_of_obstacle? v h).mono (le_max_left _ _) And.left
      · exact (says_of_obstacleOfMembers? rest h).mono (le_max_right _ _) And.right

end

/-- More room is never in the way. -/
lemma obstacle?_of_le {leaves : Bool} {room more : ℕ} {v : Json} (hle : room ≤ more)
    (h : obstacle? leaves room v = none) : obstacle? leaves more v = none := by
  obtain ⟨hheight, hshort⟩ := (obstacle?_eq_none_iff v).mp h
  exact (obstacle?_eq_none_iff v).mpr ⟨hheight.trans hle, hshort⟩

mutual

/-- The innermost values add at most one level. -/
lemma height_true_le : ∀ v : Json, height true v ≤ height false v + 1
  | arr items => by
      rw [height, height]
      exact Nat.add_le_add_right (heightOfItems_true_le items) 1
  | obj members => by
      rw [height, height]
      exact Nat.add_le_add_right (heightOfMembers_true_le members) 1
  | null => le_rfl
  | bool _ => le_rfl
  | int _ => le_rfl
  | double _ => le_rfl
  | str _ => le_rfl

lemma heightOfItems_true_le :
    ∀ items : List Json, heightOfItems true items ≤ heightOfItems false items + 1
  | [] => Nat.zero_le _
  | v :: rest => by
      have hv := height_true_le v
      have hrest := heightOfItems_true_le rest
      rw [heightOfItems, heightOfItems]
      omega

lemma heightOfMembers_true_le :
    ∀ members : List (Text × Json),
      heightOfMembers true members ≤ heightOfMembers false members + 1
  | [] => Nat.zero_le _
  | (_, v) :: rest => by
      have hv := height_true_le v
      have hrest := heightOfMembers_true_le rest
      rw [heightOfMembers, heightOfMembers]
      omega

end

/-- Nothing stands in the way of some items just when it does not for each. -/
lemma obstacleOfItems?_eq_none_iff_forall {leaves : Bool} {room : ℕ} {items : List Json} :
    obstacleOfItems? leaves room items = none
      ↔ ∀ v ∈ items, obstacle? leaves room v = none := by
  induction items with
  | nil => simp [obstacleOfItems?]
  | cons v rest ih => rw [obstacleOfItems?, Option.or_eq_none_iff, ih, List.forall_mem_cons]

/-- Nothing stands in the way of some members just when it does not for the value of each. -/
lemma obstacleOfMembers?_eq_none_iff_forall {leaves : Bool} {room : ℕ}
    {members : List (Text × Json)} :
    obstacleOfMembers? leaves room members = none
      ↔ ∀ m ∈ members, obstacle? leaves room m.2 = none := by
  induction members with
  | nil => simp [obstacleOfMembers?]
  | cons m rest ih =>
      obtain ⟨name, v⟩ := m
      rw [obstacleOfMembers?, Option.or_eq_none_iff, ih, List.forall_mem_cons]

/-- A value stands somewhere in another, or is the other. -/
inductive Within (v : Json) : Json → Prop
  | refl : Within v v
  | item {w : Json} {items : List Json} : w ∈ items → Within v w → Within v (arr items)
  | member {m : Text × Json} {members : List (Text × Json)} :
    m ∈ members → Within v m.2 → Within v (obj members)

/-- What stands in the way of no value stands in the way of nothing within it. -/
lemma obstacle?_of_within {leaves : Bool} {room : ℕ} {v whole : Json} (hwithin : v.Within whole)
    (h : obstacle? leaves room whole = none) : obstacle? leaves room v = none := by
  induction hwithin generalizing room with
  | refl => exact h
  | item hmem _ ih =>
      cases room with
      | zero => cases h
      | succ room =>
          exact obstacle?_of_le room.le_succ
            (ih (obstacleOfItems?_eq_none_iff_forall.mp h _ hmem))
  | member hmem _ ih =>
      cases room with
      | zero => cases h
      | succ room =>
          exact obstacle?_of_le room.le_succ
            (ih (obstacleOfMembers?_eq_none_iff_forall.mp h _ hmem))

/-! ## Reading -/

/-- The members of an object are some of those that were read. -/
lemma mem_of_mem_putMember {name : Text} {v : Json} {members : List (Text × Json)}
    {m : Text × Json} (h : m ∈ putMember name v members) : m.2 = v ∨ m ∈ members := by
  induction members with
  | nil =>
      rw [putMember, List.mem_singleton] at h
      exact Or.inl (congrArg Prod.snd h)
  | cons first rest ih =>
      obtain ⟨other, w⟩ := first
      rw [putMember] at h
      split_ifs at h
      · rcases List.mem_cons.mp h with rfl | h
        · exact Or.inl rfl
        · exact Or.inr (List.mem_cons_of_mem _ h)
      · rcases List.mem_cons.mp h with rfl | h
        · exact Or.inr List.mem_cons_self
        · exact (ih h).imp_right (List.mem_cons_of_mem _)

/-- What is done to the values of all members is done to those that are left of them. -/
lemma obstacleOfMembers?_distinctMembers {room : ℕ} {members : List (Text × Json)}
    (h : obstacleOfMembers? false room members = none) :
    obstacleOfMembers? false room (distinctMembers members) = none := by
  rw [obstacleOfMembers?_eq_none_iff_forall] at h ⊢
  suffices ∀ acc : List (Text × Json), (∀ m ∈ acc, obstacle? false room m.2 = none) →
      ∀ m ∈ members.foldl (fun acc m => putMember m.1 m.2 acc) acc,
        obstacle? false room m.2 = none from
    this [] (List.forall_mem_nil _)
  induction members with
  | nil => exact fun acc hacc => hacc
  | cons first rest ih =>
      obtain ⟨hfirst, hrest⟩ := List.forall_mem_cons.mp h
      refine fun acc hacc => ih hrest _ fun m hm => ?_
      obtain hv | hm := mem_of_mem_putMember hm
      · rw [hv]
        exact hfirst
      · exact hacc m hm

lemma ofDigits_lt {ds : List CodePoint} (h : ∀ p ∈ ds, isDigit p = true) :
    ofDigits ds < 10 ^ ds.length := by
  have hdigits : ∀ d ∈ ds.map (fun p => p.value - 48), d < 10 := by
    intro d hd
    obtain ⟨p, hp, rfl⟩ := List.mem_map.mp hd
    have hp := h p hp
    simp only [isDigit, Bool.and_eq_true, decide_eq_true_eq] at hp
    omega
  simpa [ofDigits] using Numeral.value_lt 10 _ hdigits

lemma isDigit_of_mem_readWhole (text : List CodePoint) :
    ∀ p ∈ (readWhole text).1, isDigit p = true := by
  intro p hp
  unfold readWhole at hp
  split at hp
  · rw [List.mem_singleton.mp hp]
    rfl
  · exact List.mem_takeWhile_imp hp

/-- A number that is read has no more digits than are spelled. -/
lemma readMagnitude_fits {negative : Bool} {text rest : List CodePoint} {v : Json}
    (h : readMagnitude negative text = some (.ok (v, rest))) (room : ℕ) :
    obstacle? false room v = none := by
  have hdigits := isDigit_of_mem_readWhole text
  unfold readMagnitude at h
  generalize readWhole text = whole at h hdigits
  obtain ⟨ds, behind⟩ := whole
  dsimp only at h hdigits
  have hshort : ¬ ds.isEmpty = true → ¬ Numeral.digitLimit < ds.length →
      (Numeral.decimal (ofDigits ds)).length ≤ Numeral.digitLimit := by
    intro hempty hlong
    have hpos : 0 < ds.length := List.length_pos_iff.mpr (by simpa using hempty)
    exact (Numeral.length_decimal_le hpos (ofDigits_lt hdigits)).trans (Nat.le_of_not_lt hlong)
  split_ifs at h with hempty hwhole hlong
  · cases h
  · cases h
    simp [obstacle?, hshort hempty hlong]
  · cases h
    simp [obstacle?, hshort hempty hlong]
  · cases h
    simp [obstacle?]

/-- Nothing stands in the way of a word or a number that is read. -/
lemma readPlain_fits {text rest : List CodePoint} {v : Json} (h : readPlain text = .ok (v, rest))
    (room : ℕ) : obstacle? false room v = none := by
  unfold readPlain at h
  split at h
  · rename_i found hfound
    obtain rfl := Except.ok.inj h
    have hwords : ∀ w ∈ words, obstacle? false room w.2 = none := by simp [words, obstacle?]
    obtain ⟨⟨word, w⟩, hmem, hw⟩ := List.exists_of_findSome?_eq_some hfound
    obtain ⟨left, -, heq⟩ := Option.map_eq_some_iff.mp hw
    cases heq
    exact hwords _ hmem
  · have hnumber : ∀ (negative : Bool) (digits : List CodePoint),
        (readMagnitude negative digits).getD (.error (.unexpected .value text.length))
          = .ok (v, rest) → obstacle? false room v = none := by
      intro negative digits h
      cases hmagnitude : readMagnitude negative digits with
      | none =>
          rw [hmagnitude] at h
          cases h
      | some result =>
          rw [hmagnitude] at h
          exact readMagnitude_fits (hmagnitude.trans (congrArg some h)) room
    dsimp only at h
    split at h
    · exact hnumber _ _ h
    · exact hnumber _ _ h

mutual

/-- **What is read fits**: nothing stands in the way of a value that was read in the same room. -/
lemma readValue_fits : ∀ {fuel room : ℕ} {text rest : List CodePoint} {v : Json},
    readValue fuel room text = .ok (v, rest) → obstacle? false room v = none
  | 0, _, _, _, _, h => by
      rw [readValue] at h
      cases h
  | fuel + 1, room, text, rest, v, h => by
      rw [readValue.eq_def] at h
      dsimp only at h
      split at h
      · obtain ⟨⟨s, left⟩, -, heq⟩ := map_eq_ok_iff.mp h
        cases heq
        simp [obstacle?]
      · cases room with
        | zero => cases h
        | succ room =>
            dsimp only at h
            split at h
            · cases h
              rfl
            · obtain ⟨⟨items, left⟩, hitems, heq⟩ := map_eq_ok_iff.mp h
              cases heq
              exact readItems_fits hitems
      · cases room with
        | zero => cases h
        | succ room =>
            dsimp only at h
            split at h
            · cases h
              rfl
            · obtain ⟨⟨members, left⟩, hmembers, heq⟩ := map_eq_ok_iff.mp h
              cases heq
              exact obstacleOfMembers?_distinctMembers (readMembers_fits hmembers)
      · exact readPlain_fits h room

/-- Items that are read fit. -/
lemma readItems_fits : ∀ {fuel room : ℕ} {text rest : List CodePoint} {items : List Json},
    readItems fuel room text = .ok (items, rest) → obstacleOfItems? false room items = none
  | 0, _, _, _, _, h => by
      rw [readItems] at h
      cases h
  | fuel + 1, room, text, rest, items, h => by
      rw [readItems] at h
      split at h
      · cases h
      · rename_i v behind hvalue
        have hv := readValue_fits hvalue
        split at h
        · cases h
          rw [obstacleOfItems?, hv]
          rfl
        · obtain ⟨⟨others, left⟩, hothers, heq⟩ := map_eq_ok_iff.mp h
          cases heq
          rw [obstacleOfItems?, hv]
          exact readItems_fits hothers
        · cases h

/-- Members that are read fit. -/
lemma readMembers_fits : ∀ {fuel room : ℕ} {text rest : List CodePoint}
    {members : List (Text × Json)}, readMembers fuel room text = .ok (members, rest) →
      obstacleOfMembers? false room members = none
  | 0, _, _, _, _, h => by
      rw [readMembers] at h
      cases h
  | fuel + 1, room, text, rest, members, h => by
      rw [readMembers.eq_def] at h
      dsimp only at h
      split at h
      · split at h
        · cases h
        · split at h
          · split at h
            · cases h
            · rename_i v behind hvalue
              have hv := readValue_fits hvalue
              split at h
              · cases h
                rw [obstacleOfMembers?, hv]
                rfl
              · obtain ⟨⟨others, left⟩, hothers, heq⟩ := map_eq_ok_iff.mp h
                cases heq
                rw [obstacleOfMembers?, hv]
                exact readMembers_fits hothers
              · cases h
          · cases h
      · cases h

end

lemma ofBytes?_fits {room : ℕ} {bytes : Bytes} {v : Json} (h : ofBytes? room bytes = .ok v) :
    obstacle? false room v = none := by
  unfold ofBytes? at h
  split at h
  · cases h
  · rename_i text _
    cases hread : readText room text.points with
    | error stop =>
        rw [ofText?, hread] at h
        cases h
    | ok w =>
        obtain rfl : w = v := by
          rw [ofText?, hread] at h
          exact Except.ok.inj h
        unfold readText at hread
        split at hread
        · cases hread
        · rename_i u rest hvalue
          split at hread
          · obtain rfl := Except.ok.inj hread
            exact readValue_fits hvalue
          · cases hread

/-! ## Showing -/

section Showing

variable [Stack] {v : Json}

lemma unshowable?_eq_none_iff :
    v.unshowable? = none ↔ v.height true ≤ Stack.showing ∧ v.Short :=
  obstacle?_eq_none_iff v

/-- **What is read can be shown**, and so can whatever stands in it. -/
theorem unshowable?_of_read {bytes : Bytes} {reply : Json}
    (h : ofBytes? Stack.reading bytes = .ok reply) (hwithin : v.Within reply) :
    v.unshowable? = none := by
  obtain ⟨hheight, hshort⟩ :=
    (obstacle?_eq_none_iff v).mp (obstacle?_of_within hwithin (ofBytes?_fits h))
  have hleaves := height_true_le v
  have hroom := Stack.reading_lt_showing
  exact unshowable?_eq_none_iff.mpr ⟨by omega, hshort⟩

/-- A text is shown whatever the stack. -/
lemma unshowable?_str (text : Text) : (str text).unshowable? = none :=
  unshowable?_eq_none_iff.mpr ⟨Nat.one_le_of_lt Stack.reading_lt_showing, trivial⟩

/-- A number is not shown from the power of ten on that has more digits than are spelled. -/
lemma unshowable?_int {n : ℕ} (h : 10 ^ Numeral.digitLimit ≤ n) :
    (int n).unshowable? = some .longNumber := by
  have hlong : Numeral.digitLimit < (Numeral.decimal (n : ℤ).natAbs).length := by
    rw [Int.natAbs_natCast]
    exact (Nat.pow_lt_pow_iff_right (by decide)).mp
      (h.trans_lt (Numeral.lt_pow_length_decimal n))
  have hroom : ¬ (true = true ∧ Stack.showing = 0) := fun hzero =>
    Nat.not_lt_zero _ (hzero.2 ▸ Stack.reading_lt_showing)
  rw [unshowable?, obstacle?, if_neg hroom, if_pos hlong]

end Showing

/-! ## Towers -/

/-- An empty list inside `n` others. -/
def tower : ℕ → Json
  | 0 => arr []
  | n + 1 => arr [tower n]

lemma height_tower (leaves : Bool) (n : ℕ) : height leaves (tower n) = n + 1 := by
  induction n with
  | zero => rfl
  | succ n ih =>
      rw [tower, height, heightOfItems, ih, heightOfItems]
      rfl

/-- A tower is too deep where there is not a level more than there are lists around the innermost. -/
lemma obstacle?_tower {leaves : Bool} {room n : ℕ} (h : room ≤ n) :
    obstacle? leaves room (tower n) = some .tooDeep := by
  induction n generalizing room with
  | zero =>
      obtain rfl := Nat.le_zero.mp h
      rfl
  | succ n ih =>
      cases room with
      | zero => rfl
      | succ room =>
          rw [tower, obstacle?, obstacleOfItems?, ih (Nat.le_of_succ_le_succ h)]
          rfl

end Json

end Paymaster
