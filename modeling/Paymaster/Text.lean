/-!
# Texts

JSON spells a text by code points, and among these there may be halves of pairs, which stand for a
character only together with their other half.  A text keeps a half that stands alone: it is shown,
compared and passed on like any character, and only what must become bytes cannot hold it.
-/

namespace Paymaster

/-- A code point: a character, or half of a pair. -/
inductive CodePoint where
  | char (c : Char)
  /-- A half of a pair, counted from the first of them. -/
  | half (index : Fin 0x800)
deriving DecidableEq, Repr, Inhabited

namespace CodePoint

/-- The number of the first half of a pair. -/
def halfBase : Nat := 0xD800

/-- The number of a code point. -/
def value : CodePoint → Nat
  | char c => c.toNat
  | half index => halfBase + index

/-- The code point of a number. -/
def ofNat (n : Nat) : CodePoint :=
  if h : halfBase ≤ n ∧ n - halfBase < 0x800 then half ⟨n - halfBase, h.2⟩ else char (Char.ofNat n)

/-- Whether a code point is ASCII. -/
def isAscii (p : CodePoint) : Bool :=
  p.value < 128

/-- The character that a code point is. -/
def char? : CodePoint → Option Char
  | char c => some c
  | half _ => none

theorem ofNat_value (p : CodePoint) : ofNat p.value = p := by
  cases p with
  | char c =>
    have h : ¬(halfBase ≤ c.toNat ∧ c.toNat - halfBase < 0x800) := by
      have valid := c.valid
      simp only [UInt32.isValidChar, Nat.isValidChar] at valid
      have : c.toNat = c.val.toNat := rfl
      simp only [halfBase]
      omega
    simp [ofNat, value, h]
  | half index =>
    have h : halfBase ≤ halfBase + index.val ∧ halfBase + index.val - halfBase < 0x800 := by
      have := index.isLt
      omega
    simp [ofNat, value]

end CodePoint

/-- A run of code points. -/
structure Text where
  points : List CodePoint
deriving DecidableEq, Repr, Inhabited

namespace Text

/-- The text of some characters. -/
def ofChars (cs : List Char) : Text :=
  ⟨cs.map .char⟩

/-- The text of a string. -/
def ofString (s : String) : Text :=
  ofChars s.toList

instance : Coe String Text :=
  ⟨ofString⟩

instance : Append Text :=
  ⟨fun a b => ⟨a.points ++ b.points⟩⟩

/-- Whether a text has no code points. -/
def isEmpty (t : Text) : Bool :=
  t.points.isEmpty

/-- The characters of a text that holds no half of a pair. -/
def chars? (t : Text) : Option (List Char) :=
  t.points.mapM CodePoint.char?

/-- The code points of a text, each as a text of its own. -/
def singletons (t : Text) : List Text :=
  t.points.map fun p => ⟨[p]⟩

theorem chars?_ofChars (cs : List Char) : (ofChars cs).chars? = some cs := by
  induction cs with
  | nil => rfl
  | cons c rest ih =>
    simp only [chars?, ofChars] at ih
    simp [chars?, ofChars, CodePoint.char?, ih]

end Text

end Paymaster
