/-!
# Segments

What stands between the marks of a list.  Marks at an end or next to each other have an empty
segment there, so that there is always one segment more than there are marks.
-/

namespace Paymaster

/-- What stands before, between and behind the marks of a list. -/
def segments {α : Type} (isMark : α → Bool) : List α → List (List α)
  | [] => [[]]
  | a :: rest =>
    if isMark a then [] :: segments isMark rest
    else
      match segments isMark rest with
      | [] => [[a]]
      | s :: others => (a :: s) :: others

end Paymaster
