/-!
# Tables

A table is an association list with at most one row per key.
-/
set_option autoImplicit false
namespace FluxonAssist

abbrev Table (κ α : Type) := List (κ × α)

namespace Table

variable {κ α : Type} [DecidableEq κ]

def get? (table : Table κ α) (key : κ) : Option α := table.lookup key

def erase (table : Table κ α) (key : κ) : Table κ α := table.filter fun row => row.1 ≠ key

def insert (table : Table κ α) (key : κ) (value : α) : Table κ α := (key, value) :: erase table key

end Table
end FluxonAssist
