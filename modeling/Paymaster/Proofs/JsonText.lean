import Mathlib
import Paymaster.Json.Obstacle
import Paymaster.Json.Reader
import Paymaster.Json.Writer
import Paymaster.Proofs.TextForm

/-!
# JSON survives its text

A request is written in the compact form and a reply is read by a reader that takes more than that.
This file shows that the reader gives back what the writer wrote, through the bytes and the choice
of their encoding.

**What comes back.**  `Json.Plain` leaves out numbers with a fraction, texts with half of a pair, and
objects that name a member twice; `Json.obstacle?` is what the writer itself refuses.

**Layers.**  A string comes back by its pieces: a character beyond the first plane is written as a
pair of units, and the reader joins the pair again (`joinPieces_piecesOf`).  A number comes back
where no digit, point or exponent stands behind it (`Stops`).  Values follow the constructors
(`readValue_writeChars`), with the fuel bounded by the length of the text and the room by the
obstacle that is not there.  The main statement is `ofBytes?_write`.
-/

namespace Paymaster

namespace Json

open Text.Encoding (Piece joinPieces isHighHalf isLowHalf joinHalves encodeUtf8 decodeUtf8 detect)

/-- The code points of some characters. -/
def inked (cs : List Char) : List CodePoint :=
  cs.map .char

@[simp] lemma inked_nil : inked [] = [] := rfl

@[simp] lemma inked_cons (c : Char) (cs : List Char) : inked (c :: cs) = .char c :: inked cs := rfl

@[simp] lemma inked_append (cs ds : List Char) : inked (cs ++ ds) = inked cs ++ inked ds :=
  List.map_append

/-! ## Strings -/

/-- No character is half of a pair. -/
lemma toNat_range (c : Char) :
    c.toNat < 0xD800 ∨ (0xDFFF < c.toNat ∧ c.toNat < 0x110000) :=
  c.valid

/-- What a character in a string is read as, before pairs are joined. -/
def piecesOf (c : Char) : List Piece :=
  if c = '"' ∨ c = '\\' ∨ c = '\n' ∨ c = '\r' ∨ c = '\t' ∨ c = '\x0c' ∨ c = '\x08'
      ∨ (0x20 ≤ c.toNat ∧ c.toNat ≤ 0x7E) then
    [.point (.char c)]
  else if c.toNat < 0x10000 then [.unit c.toNat]
  else [.unit (0xD800 + (c.toNat - 0x10000) / 0x400), .unit (0xDC00 + (c.toNat - 0x10000) % 0x400)]

lemma hexValue?_hexDigit : ∀ d < 16, Bytes.hexValue? (Bytes.hexDigit d) = some d := by
  decide

lemma stringPieces_digit {count value d : ℕ} (hd : d < 16) (hcount : count < 3)
    (rest : List CodePoint) :
    stringPieces (.unit count value) (.char (Bytes.hexDigit d) :: rest)
      = stringPieces (.unit (count + 1) (value * 16 + d)) rest := by
  simp [stringPieces, CodePoint.char?, hexValue?_hexDigit d hd, hcount]

lemma stringPieces_lastDigit {value d : ℕ} (hd : d < 16) {rest : List CodePoint}
    (hrest : rest ≠ []) :
    stringPieces (.unit 3 value) (.char (Bytes.hexDigit d) :: rest)
      = (stringPieces .none rest).map fun (ps, left) => (.unit (value * 16 + d) :: ps, left) := by
  simp [stringPieces, CodePoint.char?, hexValue?_hexDigit d hd, hrest]

/-- Four digits make a unit, if the string goes on behind them. -/
lemma stringPieces_unitEscape {u : ℕ} (hu : u < 0x10000) {rest : List CodePoint}
    (hrest : rest ≠ []) :
    stringPieces .none (inked (unitEscape u) ++ rest)
      = (stringPieces .none rest).map fun (ps, left) => (.unit u :: ps, left) := by
  have hlt : ∀ n, n % 16 < 16 := fun n => Nat.mod_lt _ (by decide)
  have hvalue : (((0 * 16 + u / 16 / 16 / 16 % 16) * 16 + u / 16 / 16 % 16) * 16 + u / 16 % 16) * 16
      + u % 16 = u := by
    omega
  have hstart : stringPieces .none (inked (unitEscape u) ++ rest)
      = stringPieces (.unit 0 0) (.char (Bytes.hexDigit (u / 16 / 16 / 16 % 16))
        :: .char (Bytes.hexDigit (u / 16 / 16 % 16)) :: .char (Bytes.hexDigit (u / 16 % 16))
        :: .char (Bytes.hexDigit (u % 16)) :: rest) := by
    simp [unitEscape, Bytes.hexDigits, stringPieces]
  rw [hstart, stringPieces_digit (hlt _) (by decide), stringPieces_digit (hlt _) (by decide),
    stringPieces_digit (hlt _) (by decide), stringPieces_lastDigit (hlt _) hrest, hvalue]

/-- A letter behind a backslash stands for its character. -/
lemma stringPieces_escape {c letter : Char} (hletter : escapeLetter? letter = some c)
    (hu : letter ≠ 'u') (rest : List CodePoint) :
    stringPieces .none (inked ['\\', letter] ++ rest)
      = (stringPieces .none rest).map fun (ps, left) => (.point (.char c) :: ps, left) := by
  simp [stringPieces, CodePoint.char?, hletter, hu]

/-- **A character in a string** is read as its pieces. -/
lemma stringPieces_writeChar (c : Char) {rest : List CodePoint} (hrest : rest ≠ []) :
    stringPieces .none (inked (writeChar c) ++ rest)
      = (stringPieces .none rest).map fun (ps, left) => (piecesOf c ++ ps, left) := by
  unfold writeChar
  split_ifs with hquote hback hline hreturn htab hfeed hbackspace hprints
  · subst hquote
    exact stringPieces_escape rfl (by decide) rest
  · subst hback
    exact stringPieces_escape rfl (by decide) rest
  · subst hline
    exact stringPieces_escape rfl (by decide) rest
  · subst hreturn
    exact stringPieces_escape rfl (by decide) rest
  · subst htab
    exact stringPieces_escape rfl (by decide) rest
  · subst hfeed
    exact stringPieces_escape rfl (by decide) rest
  · subst hbackspace
    exact stringPieces_escape rfl (by decide) rest
  · have hvisible : ¬ c.toNat < 32 := by omega
    simp [stringPieces, piecesOf, CodePoint.value, hquote, hback, hprints, hvisible]
  · have hpieces : piecesOf c = if c.toNat < 0x10000 then [.unit c.toNat]
        else [.unit (0xD800 + (c.toNat - 0x10000) / 0x400),
          .unit (0xDC00 + (c.toNat - 0x10000) % 0x400)] := by
      rw [piecesOf, if_neg]
      simp [hquote, hback, hline, hreturn, htab, hfeed, hbackspace, hprints]
    have hvalid := toNat_range c
    rw [hpieces, codeEscape, CodePoint.value]
    split_ifs with hplane
    · exact stringPieces_unitEscape hplane hrest
    · -- behind the first escape of a pair the string goes on with the second
      rw [inked_append, List.append_assoc, stringPieces_unitEscape (by omega) (by simp [hrest]),
        stringPieces_unitEscape (by omega) hrest]
      cases stringPieces .none rest <;> rfl

lemma joinHalves_split {n : ℕ} (h : 0x10000 ≤ n) :
    joinHalves (0xD800 + (n - 0x10000) / 0x400) (0xDC00 + (n - 0x10000) % 0x400) = n := by
  unfold joinHalves
  rw [Nat.add_sub_cancel_left, Nat.add_sub_cancel_left, Nat.add_assoc, Nat.div_add_mod',
    Nat.add_sub_cancel' h]

/-- **Pairs are joined again.** -/
lemma joinPieces_piecesOf (c : Char) (ps : List Piece) :
    joinPieces none (piecesOf c ++ ps) = .char c :: joinPieces none ps := by
  have hvalid := toNat_range c
  have hchar : CodePoint.ofNat c.toNat = .char c := CodePoint.ofNat_value (.char c)
  unfold piecesOf
  split_ifs with hpoint hplane
  · rfl
  · have hhalf : isHighHalf c.toNat = false := by
      rw [isHighHalf, Bool.and_eq_false_iff, decide_eq_false_iff_not, decide_eq_false_iff_not]
      omega
    simp [joinPieces, hhalf, hchar]
  · have hhigh : isHighHalf (0xD800 + (c.toNat - 0x10000) / 0x400) = true := by
      rw [isHighHalf, Bool.and_eq_true, decide_eq_true_eq, decide_eq_true_eq]
      omega
    have hlow : isLowHalf (0xDC00 + (c.toNat - 0x10000) % 0x400) = true := by
      rw [isLowHalf, Bool.and_eq_true, decide_eq_true_eq, decide_eq_true_eq]
      omega
    simp [joinPieces, hhigh, hlow, joinHalves_split (Nat.le_of_not_lt hplane), hchar]

/-- The characters of a string, up to its closing quote. -/
lemma stringPieces_writeChars (cs : List Char) (rest : List CodePoint) :
    stringPieces .none (inked (cs.flatMap writeChar) ++ .char '"' :: rest)
      = .ok (cs.flatMap piecesOf, rest) := by
  induction cs with
  | nil => simp [stringPieces]
  | cons c cs ih =>
      rw [List.flatMap_cons, inked_append, List.append_assoc, stringPieces_writeChar c (by simp),
        ih]
      rfl

lemma joinPieces_flatMap (cs : List Char) : joinPieces none (cs.flatMap piecesOf) = inked cs := by
  induction cs with
  | nil => rfl
  | cons c cs ih => rw [List.flatMap_cons, joinPieces_piecesOf, ih, inked_cons]

/-- The characters in the quotes of a string. -/
lemma writeString_ofChars (cs : List Char) :
    writeString (Text.ofChars cs) = '"' :: cs.flatMap writeChar ++ ['"'] := by
  simp [writeString, Text.ofChars, List.flatMap_map, writePoint]

/-- **A string comes back**, from behind its opening quote on. -/
lemma readString_writeString (cs : List Char) (rest : List CodePoint) :
    readString (inked (cs.flatMap writeChar) ++ .char '"' :: rest)
      = .ok (Text.ofChars cs, rest) := by
  rw [readString, stringPieces_writeChars]
  simp only [joinPieces_flatMap]
  rfl

/-! ## Numbers -/

/-- No number goes on with what stands behind it. -/
def Stops (rest : List CodePoint) : Prop :=
  ∀ p ∈ rest.head?, isDigit p = false ∧ p ≠ .char '.' ∧ p ≠ .char 'e' ∧ p ≠ .char 'E'

lemma stops_cons {c : Char} (h : isDigit (.char c) = false ∧ c ≠ '.' ∧ c ≠ 'e' ∧ c ≠ 'E')
    (rest : List CodePoint) : Stops (.char c :: rest) := by
  intro p hp
  obtain rfl := Option.some.inj hp
  simpa using h

lemma isDigit_decimalDigit :
    ∀ d < 10, isDigit (.char (Numeral.decimalDigit d)) = true
      ∧ (CodePoint.char (Numeral.decimalDigit d)).value - 48 = d := by
  decide

lemma spanDigits_append {ds rest : List CodePoint} (hds : ∀ p ∈ ds, isDigit p = true)
    (hrest : Stops rest) : spanDigits (ds ++ rest) = (ds, rest) := by
  have hhead : ∀ p ∈ rest.head?, ¬ isDigit p = true := by
    intro p hp
    simp [(hrest p hp).1]
  rw [spanDigits, List.takeWhile_append_of_pos hds, List.dropWhile_append_of_pos hds]
  cases rest with
  | nil => simp
  | cons p rest => simp [hhead p rfl]

lemma readFraction_of_stops {rest : List CodePoint} (h : Stops rest) :
    readFraction rest = ([], rest) := by
  unfold readFraction
  split
  · exact absurd rfl (h _ rfl).2.1
  · rfl

lemma readExponent_of_stops {rest : List CodePoint} (h : Stops rest) :
    readExponent rest = (none, rest) := by
  cases rest with
  | nil => rfl
  | cons p rest =>
      obtain ⟨-, -, he, hE⟩ := h p rfl
      simp [readExponent, he, hE]

/-- The digits of a number, most significant first; zero has one. -/
lemma decimal_eq (n : ℕ) :
    ∃ ds, Numeral.decimal n = ds.map Numeral.decimalDigit ∧ (∀ d ∈ ds, d < 10)
      ∧ Numeral.value 10 ds = n ∧ ds ≠ [] ∧ (ds = [0] ∨ ds.head? ≠ some 0) := by
  unfold Numeral.decimal
  split_ifs with hn
  · exact ⟨[0], rfl, by simp, hn.symm, by simp, Or.inl rfl⟩
  · refine ⟨(Numeral.digits 8 n).reverse, by rw [List.map_reverse], ?_,
      Numeral.value_reverse_digits 8 n, ?_, Or.inr (Numeral.head?_reverse_digits 8 n)⟩
    · intro d hd
      exact Numeral.lt_of_mem_digits (List.mem_reverse.mp hd)
    · rw [Numeral.digits, if_neg hn]
      simp

lemma readWhole_of_head {text : List CodePoint} (h : text.head? ≠ some (.char '0')) :
    readWhole text = spanDigits text := by
  unfold readWhole
  split
  · exact absurd rfl h
  · rfl

/-- **A number without its sign comes back**, unless it has too many digits. -/
lemma readMagnitude_decimal (negative : Bool) {n : ℕ}
    (hshort : (Numeral.decimal n).length ≤ Numeral.digitLimit) {rest : List CodePoint}
    (hrest : Stops rest) :
    readMagnitude negative (inked (Numeral.decimal n) ++ rest)
      = some (.ok (int (if negative then -(n : ℤ) else n), rest)) := by
  obtain ⟨ds, hds, hlt, hvalue, hne, hhead⟩ := decimal_eq n
  rw [hds] at hshort ⊢
  have hdigits : ∀ p ∈ inked (ds.map Numeral.decimalDigit), isDigit p = true := by
    intro p hp
    obtain ⟨c, hc, rfl⟩ := List.mem_map.mp hp
    obtain ⟨d, hd, rfl⟩ := List.mem_map.mp hc
    exact (isDigit_decimalDigit d (hlt d hd)).1
  have hwhole : readWhole (inked (ds.map Numeral.decimalDigit) ++ rest)
      = (inked (ds.map Numeral.decimalDigit), rest) := by
    rcases hhead with rfl | hhead
    · rfl
    · refine (readWhole_of_head ?_).trans (spanDigits_append hdigits hrest)
      obtain ⟨d, ds, rfl⟩ := List.exists_cons_of_ne_nil hne
      intro hzero
      have hd : Numeral.decimalDigit d = '0' := by simpa using hzero
      have := (isDigit_decimalDigit d (hlt d (by simp))).2
      rw [hd] at this
      exact hhead (by rw [← this]; rfl)
  have hnumber : ofDigits (inked (ds.map Numeral.decimalDigit)) = n := by
    rw [ofDigits, inked, List.map_map, List.map_map, ← hvalue]
    congr 1
    conv_rhs => rw [← List.map_id ds]
    exact List.map_congr_left fun d hd => (isDigit_decimalDigit d (hlt d hd)).2
  have hsome : (inked (ds.map Numeral.decimalDigit)).isEmpty = false := by
    simpa [inked] using hne
  have hlength : ¬ Numeral.digitLimit < (inked (ds.map Numeral.decimalDigit)).length := by
    simpa [inked] using hshort
  simp [readMagnitude, hwhole, hsome, readFraction_of_stops hrest, readExponent_of_stops hrest,
    hlength, hnumber]

lemma decimal_cons (n : ℕ) :
    ∃ c cs, Numeral.decimal n = c :: cs ∧ isDigit (.char c) = true := by
  obtain ⟨ds, hds, hlt, -, hne, -⟩ := decimal_eq n
  obtain ⟨d, ds, rfl⟩ := List.exists_cons_of_ne_nil hne
  exact ⟨_, _, hds, (isDigit_decimalDigit d (hlt d (by simp))).1⟩

lemma ne_of_isDigit {p : CodePoint} {c : Char} (hp : isDigit p = true)
    (hc : isDigit (.char c) = false) : p ≠ .char c := by
  rintro rfl
  rw [hc] at hp
  cases hp

/-- No word opens with a digit, nor with a minus and a digit behind it. -/
lemma readWord_of_isDigit {p : CodePoint} (hp : isDigit p = true) (rest : List CodePoint) :
    readWord (p :: rest) = none ∧ readWord (.char '-' :: p :: rest) = none := by
  have hne : ∀ c, isDigit (.char c) = false → CodePoint.char c ≠ p := fun c hc =>
    (ne_of_isDigit hp hc).symm
  constructor
  · simp [readWord, words, behindWord?, Text.ofString, Text.ofChars, hne 'n' rfl, hne 't' rfl,
      hne 'f' rfl, hne 'N' rfl, hne 'I' rfl, hne '-' rfl]
  · simp [readWord, words, behindWord?, Text.ofString, Text.ofChars, hne 'I' rfl]

/-- **A whole number comes back.** -/
lemma readPlain_decimalInt {n : ℤ}
    (hshort : (Numeral.decimal n.natAbs).length ≤ Numeral.digitLimit) {rest : List CodePoint}
    (hrest : Stops rest) :
    readPlain (inked (Numeral.decimalInt n) ++ rest) = .ok (int n, rest) := by
  obtain ⟨c, cs, hcs, hc⟩ := decimal_cons n.natAbs
  have hword := readWord_of_isDigit hc (inked cs ++ rest)
  have hread := fun negative => readMagnitude_decimal negative hshort hrest
  rw [hcs, inked_cons, List.cons_append] at hread
  cases n with
  | ofNat n =>
      have htext : Numeral.decimalInt (.ofNat n) = c :: cs := hcs
      have hminus : ∀ rest', CodePoint.char c :: (inked cs ++ rest) ≠ .char '-' :: rest' := by
        intro rest' h
        exact ne_of_isDigit hc rfl (List.cons.inj h).1
      rw [htext, inked_cons, List.cons_append, readPlain, hword.1]
      · simp only [hread false]
        rfl
      · exact hminus
  | negSucc n =>
      have htext : Numeral.decimalInt (.negSucc n) = '-' :: c :: cs := congrArg _ hcs
      rw [htext, inked_cons, inked_cons, List.cons_append, List.cons_append, readPlain, hword.2]
      simp only [hread true]
      rfl

/-! ## Values -/

/-- A text holds no half of a pair. -/
def Whole (text : Text) : Prop :=
  ∃ cs, text = Text.ofChars cs

mutual

/-- A value has no number with a fraction or an exponent, no text with half of a pair, and no object
that names a member twice. -/
def Plain : Json → Prop
  | double _ => False
  | str text => Whole text
  | arr items => PlainItems items
  | obj members => (members.map (·.1)).Nodup ∧ PlainMembers members
  | _ => True

/-- All items are plain. -/
def PlainItems : List Json → Prop
  | [] => True
  | v :: rest => Plain v ∧ PlainItems rest

/-- All names and values are plain. -/
def PlainMembers : List (Text × Json) → Prop
  | [] => True
  | (name, v) :: rest => Whole name ∧ Plain v ∧ PlainMembers rest

end

/-- A value opens with a character that is no blank and closes nothing. -/
lemma writeChars_cons {v : Json} (h : Plain v) :
    ∃ c cs, writeChars v = c :: cs ∧ isSpace (.char c) = false ∧ c ≠ ']' := by
  cases v with
  | null => exact ⟨_, _, rfl, rfl, by decide⟩
  | bool b => cases b <;> exact ⟨_, _, rfl, rfl, by decide⟩
  | int n =>
      obtain ⟨c, cs, hcs, hc⟩ := decimal_cons n.natAbs
      cases n with
      | ofNat n =>
          refine ⟨c, cs, hcs, ?_, ?_⟩
          · have hne : ∀ d, isDigit (.char d) = false → c ≠ d := by
              rintro d hd rfl
              rw [hd] at hc
              cases hc
            simp [isSpace, hne ' ' rfl, hne '\t' rfl, hne '\n' rfl, hne '\r' rfl]
          · rintro rfl
            cases hc
      | negSucc n => exact ⟨'-', c :: cs, congrArg _ hcs, rfl, by decide⟩
  | double x => exact h.elim
  | str text => exact ⟨_, _, rfl, rfl, by decide⟩
  | arr items => exact ⟨_, _, rfl, rfl, by decide⟩
  | obj members => exact ⟨_, _, rfl, rfl, by decide⟩

lemma skipSpace_of_head {c : Char} (h : isSpace (.char c) = false) (rest : List CodePoint) :
    skipSpace (.char c :: rest) = .char c :: rest := by
  simp [skipSpace, h]

/-- Behind a value in an array stands a bracket or a comma, and no number goes on with these. -/
lemma stops_writeMoreItems (items : List Json) (rest : List CodePoint) :
    Stops (inked (writeMoreItems items) ++ rest) := by
  cases items <;> exact stops_cons (by decide) _

lemma stops_writeMoreMembers (members : List (Text × Json)) (rest : List CodePoint) :
    Stops (inked (writeMoreMembers members) ++ rest) := by
  cases members <;> exact stops_cons (by decide) _

lemma putMember_of_notMem {name : Text} {v : Json} {members : List (Text × Json)}
    (h : name ∉ members.map (·.1)) : putMember name v members = members ++ [(name, v)] := by
  induction members with
  | nil => rfl
  | cons m rest ih =>
      obtain ⟨other, w⟩ := m
      obtain ⟨hne, hrest⟩ : name ≠ other ∧ name ∉ rest.map (·.1) := by simpa using h
      rw [putMember, if_neg (Ne.symm hne), ih hrest, List.cons_append]

/-- Members that are distinct stay as they are. -/
lemma distinctMembers_of_nodup {members : List (Text × Json)}
    (h : (members.map (·.1)).Nodup) : distinctMembers members = members := by
  -- the fold puts each member behind those that came before it
  have hrun : ∀ (more acc : List (Text × Json)), ((acc ++ more).map (·.1)).Nodup →
      more.foldl (fun acc m => putMember m.1 m.2 acc) acc = acc ++ more := by
    intro more
    induction more with
    | nil => intro acc _; simp
    | cons m more ih =>
        intro acc hnodup
        have hfresh : m.1 ∉ acc.map (·.1) := by
          rw [List.map_append, List.map_cons, List.nodup_append] at hnodup
          intro hmem
          exact hnodup.2.2 _ hmem _ List.mem_cons_self rfl
        rw [List.foldl_cons, putMember_of_notMem hfresh, ih _ (by simpa using hnodup)]
        simp
  exact hrun members [] (by simpa using h)

lemma writeMoreItems_cons (v : Json) (items : List Json) :
    writeMoreItems (v :: items) = ',' :: writeItems (v :: items) := by
  simp [writeMoreItems, writeItems]

lemma writeMoreMembers_cons (m : Text × Json) (members : List (Text × Json)) :
    writeMoreMembers (m :: members) = ',' :: writeMembers (m :: members) := by
  obtain ⟨name, v⟩ := m
  simp [writeMoreMembers, writeMembers]

variable {v : Json} {items : List Json} {name : Text} {members : List (Text × Json)}
  {fuel room : ℕ} {rest : List CodePoint}

lemma readItems_one
    (hv : readValue fuel room (inked (writeChars v) ++ .char ']' :: rest)
      = .ok (v, .char ']' :: rest)) :
    readItems (fuel + 1) room (inked (writeItems [v]) ++ rest) = .ok ([v], rest) := by
  have hspace : skipSpace (.char ']' :: rest) = .char ']' :: rest := skipSpace_of_head rfl rest
  simp [writeItems, writeMoreItems, readItems, hv, hspace]

/-- The items behind the first start at a value again. -/
lemma readItems_more {w : Json} (hw : Plain w)
    (hv : readValue fuel room (inked (writeChars v) ++ (inked (writeMoreItems (w :: items)) ++ rest))
      = .ok (v, inked (writeMoreItems (w :: items)) ++ rest))
    (hitems : readItems fuel room (inked (writeItems (w :: items)) ++ rest)
      = .ok (w :: items, rest)) :
    readItems (fuel + 1) room (inked (writeItems (v :: w :: items)) ++ rest)
      = .ok (v :: w :: items, rest) := by
  obtain ⟨c, cs, hcs, hc, -⟩ := writeChars_cons hw
  have hcomma : ∀ rest, skipSpace (.char ',' :: rest) = .char ',' :: rest := skipSpace_of_head rfl
  have hspace : skipSpace (inked (writeItems (w :: items)) ++ rest)
      = inked (writeItems (w :: items)) ++ rest := by
    rw [writeItems, hcs]
    exact skipSpace_of_head hc _
  rw [writeMoreItems_cons, inked_cons, List.cons_append] at hv
  rw [show writeItems (v :: w :: items) = writeChars v ++ writeMoreItems (w :: items) from rfl,
    writeMoreItems_cons, inked_append, List.append_assoc, inked_cons, List.cons_append, readItems,
    hv]
  simp only [hcomma, hspace, hitems]
  rfl

lemma readValue_arr (hplain : PlainItems items)
    (hitems : items ≠ [] → readItems fuel room (inked (writeItems items) ++ rest)
      = .ok (items, rest)) :
    readValue (fuel + 1) (room + 1) (inked (writeChars (.arr items)) ++ rest)
      = .ok (.arr items, rest) := by
  rw [show writeChars (.arr items) = '[' :: writeItems items from rfl, inked_cons, List.cons_append,
    readValue]
  cases items with
  | nil =>
      have hspace : ∀ rest, skipSpace (.char ']' :: rest) = .char ']' :: rest :=
        skipSpace_of_head rfl
      simp [writeItems, hspace]
  | cons v items =>
      obtain ⟨c, cs, hcs, hc, hclose⟩ := writeChars_cons hplain.1
      have hread := hitems (List.cons_ne_nil _ _)
      rw [writeItems, hcs, List.cons_append, inked_cons, List.cons_append] at hread ⊢
      simp only [skipSpace_of_head hc]
      split
      · rename_i left h
        exact absurd (CodePoint.char.inj (List.cons.inj h).1) hclose
      · rw [hread]
        rfl

/-- How reading goes on behind a member. -/
def readBehind (fuel room : ℕ) (m : Text × Json) (left : List CodePoint) :
    Except Stop (List (Text × Json) × List CodePoint) :=
  match skipSpace left with
  | .char '\x7d' :: left => .ok ([m], left)
  | .char ',' :: rest =>
    (readMembers fuel room (skipSpace rest)).map fun (members, left) => (m :: members, left)
  | rest => .error (.unexpected .comma rest.length)

lemma readMembers_member {left : List CodePoint} (hname : Whole name) (hplain : Plain v)
    (hv : readValue fuel room (inked (writeChars v) ++ left) = .ok (v, left)) :
    readMembers (fuel + 1) room (inked (writeString name ++ ':' :: writeChars v) ++ left)
      = readBehind fuel room (name, v) left := by
  obtain ⟨ns, rfl⟩ := hname
  obtain ⟨c, cs, hcs, hc, -⟩ := writeChars_cons hplain
  have hcolon : ∀ rest, skipSpace (.char ':' :: rest) = .char ':' :: rest := skipSpace_of_head rfl
  have hspace : skipSpace (inked (writeChars v) ++ left) = inked (writeChars v) ++ left := by
    rw [hcs]
    exact skipSpace_of_head hc _
  have htext : inked (writeString (Text.ofChars ns) ++ ':' :: writeChars v) ++ left
      = .char '"' :: (inked (ns.flatMap writeChar)
        ++ .char '"' :: .char ':' :: (inked (writeChars v) ++ left)) := by
    simp [writeString_ofChars]
  rw [htext, readMembers, readString_writeString]
  simp only [hcolon, hspace, hv]
  rfl

lemma readMembers_one (hname : Whole name) (hplain : Plain v)
    (hv : readValue fuel room (inked (writeChars v) ++ .char '\x7d' :: rest)
      = .ok (v, .char '\x7d' :: rest)) :
    readMembers (fuel + 1) room (inked (writeMembers [(name, v)]) ++ rest)
      = .ok ([(name, v)], rest) := by
  have hspace : skipSpace (.char '\x7d' :: rest) = .char '\x7d' :: rest := skipSpace_of_head rfl rest
  have htext : inked (writeMembers [(name, v)]) ++ rest
      = inked (writeString name ++ ':' :: writeChars v) ++ .char '\x7d' :: rest := by
    simp [writeMembers, writeMoreMembers]
  rw [htext, readMembers_member hname hplain hv, readBehind, hspace]
  rfl

/-- The members behind the first start at a name again. -/
lemma readMembers_more {m : Text × Json} (hname : Whole name) (hplain : Plain v)
    (hv : readValue fuel room
        (inked (writeChars v) ++ (inked (writeMoreMembers (m :: members)) ++ rest))
      = .ok (v, inked (writeMoreMembers (m :: members)) ++ rest))
    (hmembers : readMembers fuel room (inked (writeMembers (m :: members)) ++ rest)
      = .ok (m :: members, rest)) :
    readMembers (fuel + 1) room (inked (writeMembers ((name, v) :: m :: members)) ++ rest)
      = .ok ((name, v) :: m :: members, rest) := by
  have hcomma : ∀ rest, skipSpace (.char ',' :: rest) = .char ',' :: rest := skipSpace_of_head rfl
  have hspace : skipSpace (inked (writeMembers (m :: members)) ++ rest)
      = inked (writeMembers (m :: members)) ++ rest := skipSpace_of_head rfl _
  have htext : inked (writeMembers ((name, v) :: m :: members)) ++ rest
      = inked (writeString name ++ ':' :: writeChars v)
        ++ (inked (writeMoreMembers (m :: members)) ++ rest) := by
    simp [writeMembers]
  rw [htext, readMembers_member hname hplain hv, readBehind, writeMoreMembers_cons, inked_cons,
    List.cons_append, hcomma]
  simp only [hspace, hmembers]
  rfl

lemma readValue_obj (hnodup : (members.map (·.1)).Nodup)
    (hmembers : members ≠ [] → readMembers fuel room (inked (writeMembers members) ++ rest)
      = .ok (members, rest)) :
    readValue (fuel + 1) (room + 1) (inked (writeChars (.obj members)) ++ rest)
      = .ok (.obj members, rest) := by
  rw [show writeChars (.obj members) = '\x7b' :: writeMembers members from rfl, inked_cons,
    List.cons_append, readValue]
  cases members with
  | nil =>
      have hspace : ∀ rest, skipSpace (.char '\x7d' :: rest) = .char '\x7d' :: rest :=
        skipSpace_of_head rfl
      simp [writeMembers, hspace]
  | cons m members =>
      have hread := hmembers (List.cons_ne_nil _ _)
      have hspace : skipSpace (inked (writeMembers (m :: members)) ++ rest)
          = inked (writeMembers (m :: members)) ++ rest := skipSpace_of_head rfl _
      rw [hspace]
      split
      · rename_i left h
        exact absurd h (by simp [writeMembers, writeString])
      · rw [hread]
        simp only [Except.map, distinctMembers_of_nodup hnodup]

/-- A number is read by its own reader. -/
lemma readValue_int {n : ℤ} (hshort : (Numeral.decimal n.natAbs).length ≤ Numeral.digitLimit)
    (hrest : Stops rest) :
    readValue (fuel + 1) room (inked (Numeral.decimalInt n) ++ rest) = .ok (int n, rest) := by
  have hread := readPlain_decimalInt hshort hrest
  obtain ⟨c, cs, hcs, hc⟩ := decimal_cons n.natAbs
  cases n with
  | ofNat n =>
      have htext : Numeral.decimalInt (.ofNat n) = c :: cs := hcs
      rw [htext, inked_cons, List.cons_append] at hread ⊢
      rw [readValue, hread]
      all_goals
        intro left h
        exact ne_of_isDigit hc rfl (List.cons.inj h).1
  | negSucc n =>
      rw [show Numeral.decimalInt (.negSucc n) = '-' :: Numeral.decimal (n + 1) from rfl, inked_cons,
        List.cons_append] at hread ⊢
      rw [readValue, hread]
      all_goals
        intro left h
        simp at h

lemma fuel_pos {cs : List Char} (hcs : cs ≠ []) (h : 2 * cs.length ≤ fuel) :
    ∃ k, fuel = k + 1 := by
  have := List.length_pos_iff.mpr hcs
  exact Nat.exists_eq_add_one.mpr (by omega)

mutual

/-- **A value comes back**, where no number goes on behind it. -/
lemma readValue_writeChars {fuel room : ℕ} {rest : List CodePoint} :
    ∀ v : Json, Plain v → obstacle? false room v = none → 2 * (writeChars v).length ≤ fuel →
      Stops rest → readValue fuel room (inked (writeChars v) ++ rest) = .ok (v, rest)
  | null, _, _, hfuel, _ => by
      obtain ⟨fuel, rfl⟩ := fuel_pos (by simp [writeChars]) hfuel
      simp [writeChars, readValue, readPlain, readWord, words, behindWord?, Text.ofString,
        Text.ofChars]
  | bool b, _, _, hfuel, _ => by
      obtain ⟨fuel, rfl⟩ := fuel_pos (by cases b <;> simp [writeChars]) hfuel
      cases b <;>
        simp [writeChars, readValue, readPlain, readWord, words, behindWord?, Text.ofString,
          Text.ofChars]
  | int n, hplain, hroom, hfuel, hrest => by
      obtain ⟨c, cs, hcs, -⟩ := writeChars_cons hplain
      obtain ⟨fuel, rfl⟩ := fuel_pos (by simp [hcs]) hfuel
      exact readValue_int (by simpa [obstacle?] using hroom) hrest
  | str text, hplain, _, hfuel, _ => by
      obtain ⟨cs, rfl⟩ := hplain
      obtain ⟨fuel, rfl⟩ := fuel_pos (by simp [writeChars, writeString]) hfuel
      rw [writeChars, writeString_ofChars, inked_append, inked_cons, List.append_assoc,
        List.cons_append]
      simp [readValue, readString_writeString, Except.map]
  | arr items, hplain, hroom, hfuel, _ => by
      -- the bracket pays for this step, and one more container stands around the items
      obtain ⟨fuel, rfl⟩ := fuel_pos (by simp [writeChars]) hfuel
      cases room with
      | zero => simp [obstacle?] at hroom
      | succ room =>
          rw [writeChars, List.length_cons] at hfuel
          rw [Plain] at hplain
          refine readValue_arr hplain fun hne => ?_
          exact readItems_writeItems items hne hplain (by simpa [obstacle?] using hroom) (by omega)
  | obj members, hplain, hroom, hfuel, _ => by
      obtain ⟨fuel, rfl⟩ := fuel_pos (by simp [writeChars]) hfuel
      cases room with
      | zero => simp [obstacle?] at hroom
      | succ room =>
          rw [writeChars, List.length_cons] at hfuel
          rw [Plain] at hplain
          refine readValue_obj hplain.1 fun hne => ?_
          exact readMembers_writeMembers members hne hplain.2 (by simpa [obstacle?] using hroom)
            (by omega)

/-- Items come back. -/
lemma readItems_writeItems {fuel room : ℕ} {rest : List CodePoint} :
    ∀ items : List Json, items ≠ [] → PlainItems items → obstacleOfItems? false room items = none →
      2 * (writeItems items).length ≤ fuel →
      readItems fuel room (inked (writeItems items) ++ rest) = .ok (items, rest)
  | [v], _, hplain, hroom, hfuel => by
      rw [writeItems, writeMoreItems, List.length_append, List.length_singleton] at hfuel
      obtain ⟨fuel, rfl⟩ := Nat.exists_eq_add_one.mpr (show 0 < fuel by omega)
      rw [obstacleOfItems?, Option.or_eq_none_iff] at hroom
      exact readItems_one (readValue_writeChars v hplain.1 hroom.1 (by omega)
        (stops_cons (by decide) _))
  | v :: w :: items, _, hplain, hroom, hfuel => by
      rw [writeItems, List.length_append, writeMoreItems_cons, List.length_cons] at hfuel
      obtain ⟨fuel, rfl⟩ := Nat.exists_eq_add_one.mpr (show 0 < fuel by omega)
      rw [obstacleOfItems?, Option.or_eq_none_iff] at hroom
      -- the comma pays for the step that goes on to the next item
      refine readItems_more hplain.2.1 ?_ ?_
      · exact readValue_writeChars v hplain.1 hroom.1 (by omega) (stops_writeMoreItems _ _)
      · exact readItems_writeItems (w :: items) (List.cons_ne_nil _ _) hplain.2 hroom.2 (by omega)

/-- Members come back. -/
lemma readMembers_writeMembers {fuel room : ℕ} {rest : List CodePoint} :
    ∀ members : List (Text × Json), members ≠ [] → PlainMembers members →
      obstacleOfMembers? false room members = none → 2 * (writeMembers members).length ≤ fuel →
      readMembers fuel room (inked (writeMembers members) ++ rest) = .ok (members, rest)
  | [(name, v)], _, hplain, hroom, hfuel => by
      rw [writeMembers, List.length_append, List.length_append, List.length_cons] at hfuel
      obtain ⟨fuel, rfl⟩ := Nat.exists_eq_add_one.mpr (show 0 < fuel by omega)
      rw [obstacleOfMembers?, Option.or_eq_none_iff] at hroom
      exact readMembers_one hplain.1 hplain.2.1 (readValue_writeChars v hplain.2.1 hroom.1
        (by omega) (stops_cons (by decide) _))
  | (name, v) :: m :: members, _, hplain, hroom, hfuel => by
      rw [writeMembers, List.length_append, List.length_append, List.length_cons,
        writeMoreMembers_cons, List.length_cons] at hfuel
      obtain ⟨fuel, rfl⟩ := Nat.exists_eq_add_one.mpr (show 0 < fuel by omega)
      rw [obstacleOfMembers?, Option.or_eq_none_iff] at hroom
      refine readMembers_more hplain.1 hplain.2.1 ?_ ?_
      · exact readValue_writeChars v hplain.2.1 hroom.1 (by omega) (stops_writeMoreMembers _ _)
      · exact readMembers_writeMembers (m :: members) (List.cons_ne_nil _ _) hplain.2.2 hroom.2
          (by omega)

end

/-! ## Bytes -/

/-- All characters are ASCII, and none is a control character. -/
def Printable (cs : List Char) : Prop :=
  ∀ c ∈ cs, 0x20 ≤ c.toNat ∧ c.toNat ≤ 0x7E

@[simp] lemma printable_nil : Printable [] := List.forall_mem_nil _

@[simp] lemma printable_cons {c : Char} {cs : List Char} :
    Printable (c :: cs) ↔ (0x20 ≤ c.toNat ∧ c.toNat ≤ 0x7E) ∧ Printable cs :=
  List.forall_mem_cons

@[simp] lemma printable_append {cs ds : List Char} :
    Printable (cs ++ ds) ↔ Printable cs ∧ Printable ds :=
  List.forall_mem_append

lemma printable_hexDigits (width n : ℕ) : Printable (Bytes.hexDigits width n) := by
  have hdigit : ∀ d < 16, 0x20 ≤ (Bytes.hexDigit d).toNat ∧ (Bytes.hexDigit d).toNat ≤ 0x7E := by
    decide
  induction width generalizing n with
  | zero => exact printable_nil
  | succ width ih =>
      rw [Bytes.hexDigits, printable_append]
      exact ⟨ih _, by simpa using hdigit _ (Nat.mod_lt n (by decide))⟩

/-- What is not printable is written by printable characters. -/
lemma printable_writeChar (c : Char) : Printable (writeChar c) := by
  have hescape : ∀ u, Printable (unitEscape u) := by
    intro u
    simp [unitEscape, printable_hexDigits]
  unfold writeChar
  split_ifs with _ _ _ _ _ _ _ hprints
  all_goals try simp
  · exact hprints
  · simp only [codeEscape]
    split_ifs <;> simp [hescape]

lemma printable_writeString {text : Text} (h : Whole text) : Printable (writeString text) := by
  obtain ⟨cs, rfl⟩ := h
  have hinner : Printable (cs.flatMap writeChar) := by
    intro c hc
    obtain ⟨d, -, hd⟩ := List.mem_flatMap.mp hc
    exact printable_writeChar d c hd
  simp [writeString_ofChars, hinner]

lemma printable_decimal (n : ℕ) : Printable (Numeral.decimal n) := by
  have hdigit : ∀ d < 10, 0x20 ≤ (Numeral.decimalDigit d).toNat
      ∧ (Numeral.decimalDigit d).toNat ≤ 0x7E := by
    decide
  obtain ⟨ds, hds, hlt, -⟩ := decimal_eq n
  rw [hds]
  intro c hc
  obtain ⟨d, hd, rfl⟩ := List.mem_map.mp hc
  exact hdigit d (hlt d hd)

mutual

/-- **A value is written in printable characters.** -/
lemma printable_writeChars : ∀ v : Json, Plain v → Printable (writeChars v)
  | null, _ => by simp [writeChars]
  | bool b, _ => by cases b <;> simp [writeChars]
  | int (.ofNat n), _ => printable_decimal n
  | int (.negSucc n), _ => by
      simp [writeChars, Numeral.decimalInt, printable_decimal]
  | str _, hplain => printable_writeString hplain
  | arr items, hplain => by
      rw [Plain] at hplain
      simpa [writeChars] using printable_writeItems items hplain
  | obj members, hplain => by
      rw [Plain] at hplain
      simpa [writeChars] using printable_writeMembers members hplain.2

lemma printable_writeItems : ∀ items : List Json, PlainItems items → Printable (writeItems items)
  | [], _ => by simp [writeItems]
  | [v], hplain => by
      simp [writeItems, writeMoreItems, printable_writeChars v hplain.1]
  | v :: w :: items, hplain => by
      rw [writeItems, writeMoreItems_cons, printable_append, printable_cons]
      exact ⟨printable_writeChars v hplain.1, by decide, printable_writeItems (w :: items) hplain.2⟩

lemma printable_writeMembers :
    ∀ members : List (Text × Json), PlainMembers members → Printable (writeMembers members)
  | [], _ => by simp [writeMembers]
  | [(name, v)], hplain => by
      simp [writeMembers, writeMoreMembers, printable_writeString hplain.1,
        printable_writeChars v hplain.2.1]
  | (name, v) :: m :: members, hplain => by
      rw [writeMembers, writeMoreMembers_cons, printable_append, printable_append, printable_cons,
        printable_cons]
      exact ⟨⟨printable_writeString hplain.1, by decide, printable_writeChars v hplain.2.1⟩,
        by decide, printable_writeMembers (m :: members) hplain.2.2⟩

end

/-- Printable characters are one byte each. -/
lemma encodeUtf8_of_printable {cs : List Char} (h : Printable cs) :
    encodeUtf8 cs = cs.map fun c => UInt8.ofNat c.toNat := by
  induction cs with
  | nil => rfl
  | cons c cs ih =>
      obtain ⟨⟨-, hc⟩, hcs⟩ := printable_cons.mp h
      have hsize : c.utf8Size = 1 := Char.utf8Size_eq_one_iff.mpr (by
        rw [UInt32.le_iff_toNat_le]
        exact hc.trans (by decide))
      rw [encodeUtf8, List.flatMap_cons, String.utf8EncodeChar_eq_singleton hsize, List.map_cons,
        ← ih hcs]
      rfl

lemma toNat_byte {c : Char} (h : c.toNat ≤ 0x7E) : (UInt8.ofNat c.toNat).toNat = c.toNat := by
  simp
  omega

/-- **Printable characters come back from their bytes.** -/
lemma decodeUtf8_of_printable {cs : List Char} (h : Printable cs) (pos : ℕ) :
    decodeUtf8 pos (encodeUtf8 cs) = .ok (inked cs) := by
  rw [encodeUtf8_of_printable h]
  induction cs generalizing pos with
  | nil => simp [decodeUtf8]
  | cons c cs ih =>
      obtain ⟨⟨-, hc⟩, hcs⟩ := printable_cons.mp h
      have hlow : UInt8.ofNat c.toNat < 0x80 := by
        rw [UInt8.lt_iff_toNat_lt, toNat_byte hc]
        exact Nat.lt_of_le_of_lt hc (by decide)
      have hchar : CodePoint.ofNat c.toNat = .char c := CodePoint.ofNat_value (.char c)
      rw [List.map_cons, decodeUtf8.eq_def]
      simp only [hlow, if_true, ih hcs, toNat_byte hc, hchar]
      rfl

/-- Bytes of printable characters show no other encoding: no mark opens with one of them, and no
zero is among them. -/
lemma detect_of_printable {cs : List Char} (h : Printable cs) :
    detect (encodeUtf8 cs) = (.utf8, 0) := by
  have hbytes : ∀ b ∈ encodeUtf8 cs, 0x20 ≤ b.toNat ∧ b.toNat ≤ 0x7E := by
    rw [encodeUtf8_of_printable h]
    intro b hb
    obtain ⟨c, hc, rfl⟩ := List.mem_map.mp hb
    rw [toNat_byte (h c hc).2]
    exact h c hc
  generalize encodeUtf8 cs = bytes at hbytes
  have hne : ∀ b ∈ bytes, b ≠ 0 ∧ b ≠ 0xEF ∧ b ≠ 0xFE ∧ b ≠ 0xFF := by
    intro b hb
    obtain ⟨hlow, hhigh⟩ := hbytes b hb
    refine ⟨?_, ?_, ?_, ?_⟩ <;> rintro rfl <;> revert hlow hhigh <;> decide
  have hmark : Text.Encoding.marks.find? (·.1.isPrefixOf bytes) = none := by
    cases bytes with
    | nil => rfl
    | cons b bytes =>
        obtain ⟨h0, hEF, hFE, hFF⟩ := hne b List.mem_cons_self
        simp [Text.Encoding.marks, h0.symm, hEF.symm, hFE.symm, hFF.symm]
  have hplain : Text.Encoding.withoutMark bytes = .utf8 := by
    unfold Text.Encoding.withoutMark
    split
    · simp [hne]
    · simp [hne]
    · rfl
  rw [detect, hmark]
  exact congrArg (·, 0) hplain

/-- **A value comes back from its bytes**, if nothing stands in the way of writing it. -/
theorem ofBytes?_write {v : Json} {room : ℕ} (hplain : Plain v)
    (hfits : obstacle? false room v = none) :
    ofBytes? room (encodeUtf8 v.write.toList) = .ok v := by
  have hprintable := printable_writeChars v hplain
  have hdecode : Text.Encoding.decode (encodeUtf8 (writeChars v)) = .ok ⟨inked (writeChars v)⟩ := by
    simp only [Text.Encoding.decode, detect_of_printable hprintable, List.drop_zero,
      decodeUtf8_of_printable hprintable]
    rfl
  obtain ⟨c, cs, hcs, hc, -⟩ := writeChars_cons hplain
  have hread : readText room (inked (writeChars v)) = .ok v := by
    have hlength : 2 * (writeChars v).length ≤ 2 * (inked (writeChars v)).length + 2 := by
      simp [inked]
    have hend : Stops [] := by simp [Stops]
    have hvalue := readValue_writeChars v hplain hfits hlength hend
    have hspace : skipSpace (inked (writeChars v)) = inked (writeChars v) := by
      rw [hcs]
      exact skipSpace_of_head hc _
    rw [List.append_nil] at hvalue
    rw [readText, hspace, hvalue]
    rfl
  rw [write, String.toList_ofList, ofBytes?, hdecode]
  simp only [ofText?, hread]
  rfl

end Json

end Paymaster
