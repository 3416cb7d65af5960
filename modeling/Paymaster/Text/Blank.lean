import Paymaster.Text

/-!
# Blanks

White space in the widest sense: the spaces, line ends and separators of the character database,
and the four separator controls.  Stripping takes blanks off the ends of a text and never from
its inside.
-/

namespace Paymaster.Text

/-- Whether a character is white space. -/
def isBlank (c : Char) : Bool :=
  let n := c.toNat
  (9 ≤ n && n ≤ 13) || (28 ≤ n && n ≤ 32) || n == 0x85 || n == 0xA0 || n == 0x1680
    || (0x2000 ≤ n && n ≤ 0x200A) || n == 0x2028 || n == 0x2029 || n == 0x202F || n == 0x205F
    || n == 0x3000

/-- A list without those of its last elements that are to be left out. -/
def dropEndWhile {α : Type} (p : α → Bool) (xs : List α) : List α :=
  (xs.reverse.dropWhile p).reverse

/-- The characters without the blanks at either end. -/
def strip (cs : List Char) : List Char :=
  dropEndWhile isBlank (cs.dropWhile isBlank)

/-- The text without the blanks at its end. -/
def stripEnd (t : Text) : Text :=
  ⟨dropEndWhile (fun p => p.char?.any isBlank) t.points⟩

end Paymaster.Text
