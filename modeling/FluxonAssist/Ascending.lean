/-!
# Ascending lists

The distinct elements of a list in ascending order.
-/
set_option autoImplicit false
namespace FluxonAssist

def insertAscending {α : Type} [LT α] [DecidableLT α] [DecidableEq α] (a : α) : List α → List α
  | [] => [a]
  | b :: rest =>
    if a < b then a :: b :: rest
    else if a = b then b :: rest
    else b :: insertAscending a rest

/-- The distinct elements of a list in ascending order. -/
def ascending {α : Type} [LT α] [DecidableLT α] [DecidableEq α] (xs : List α) : List α :=
  xs.foldr insertAscending []

end FluxonAssist
