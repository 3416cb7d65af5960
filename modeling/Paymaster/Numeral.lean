/-!
# Positional numerals

The digits of a natural number in any base from two up, least significant first, and the value of
digits read most significant first.  The base is written `k + 2`, so that it needs no hypothesis.
-/

namespace Paymaster.Numeral

/-- The digits of a number in base `k + 2`, least significant first; zero has none. -/
def digits (k n : Nat) : List Nat :=
  if n = 0 then [] else n % (k + 2) :: digits k (n / (k + 2))
termination_by n
decreasing_by exact Nat.div_lt_self (by omega) (by omega)

/-- The number that digits, most significant first, spell in a base. -/
def value (base : Nat) (ds : List Nat) : Nat :=
  ds.foldl (fun n d => n * base + d) 0

/-- The decimal digit of a number below ten. -/
def decimalDigit (d : Nat) : Char :=
  Char.ofNat (48 + d)

/-- The decimal text of a natural number: no leading zero, and one digit for zero. -/
def decimal (n : Nat) : List Char :=
  if n = 0 then ['0'] else ((digits 8 n).map decimalDigit).reverse

/-- The decimal text of an integer: a minus sign in front of a negative one. -/
def decimalInt : Int → List Char
  | .ofNat n => decimal n
  | .negSucc n => '-' :: decimal (n + 1)

/-- The most digits of a whole number that are read. -/
def digitLimit : Nat := 4300

theorem value_append (base : Nat) (ds : List Nat) (d : Nat) :
    value base (ds ++ [d]) = value base ds * base + d := by
  simp [value, List.foldl_append]

theorem value_reverse_digits (k n : Nat) : value (k + 2) (digits k n).reverse = n := by
  fun_induction digits k n with
  | case1 => rfl
  | case2 n h ih => rw [List.reverse_cons, value_append, ih, Nat.div_add_mod']

theorem lt_of_mem_digits {k n d : Nat} (h : d ∈ digits k n) : d < k + 2 := by
  fun_induction digits k n with
  | case1 => simp at h
  | case2 n hn ih =>
    rcases List.mem_cons.1 h with rfl | h
    · exact Nat.mod_lt _ (by omega)
    · exact ih h

end Paymaster.Numeral
