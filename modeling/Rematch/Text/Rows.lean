/-!
# Tables in rows

A long ascending table is kept in rows. A look-up reads the heads of the rows up to the point asked
for, and then a single row.
-/

namespace Rematch
namespace Text

variable {α : Type}

/--
The last row whose first entry begins at or below `n`, or `row` if there is none; `first` is where an
entry begins.
-/
def lastRow (first : α → Nat) (n : Nat) : (row : List α) → List (List α) → List α
  | row, [] => row
  | row, [] :: rest => lastRow first n row rest
  | row, (entry :: entries) :: rest =>
      if first entry ≤ n then lastRow first n (entry :: entries) rest else row

theorem lastRow_mem (first : α → Nat) (n : Nat) (row : List α) (rows : List (List α)) :
    lastRow first n row rows ∈ row :: rows := by
  fun_induction lastRow first n row rows with
  | case1 row => simp
  | case2 row rest ih => grind
  | case3 row entry entries rest _ ih => exact List.mem_cons_of_mem _ ih
  | case4 row entry entries rest => simp

end Text
end Rematch
