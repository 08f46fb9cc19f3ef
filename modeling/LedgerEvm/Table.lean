import Std.Data.ExtTreeMap

namespace LedgerEvm

/-!
# Finite tables

The ledger keeps its entries under addresses, storage slots, serial numbers and
combinations of them.  Every such key has a number of its own, so one kind of
finite table serves all.  Two tables with the same entries are equal.
-/

/-- Keys that are told apart by a number. -/
class Numbered (κ : Type) where
  number : κ → Nat
  number_injective : ∀ {left right : κ}, number left = number right → left = right

/-- A finite table. -/
structure Table (κ ν : Type) [Numbered κ] where
  rows : Std.ExtTreeMap Nat ν

namespace Table

variable {κ ν : Type} [Numbered κ]

/-- The table without entries. -/
def empty : Table κ ν :=
  ⟨∅⟩

instance : Inhabited (Table κ ν) := ⟨empty⟩

/-- The entry under a key. -/
def get? (table : Table κ ν) (key : κ) : Option ν :=
  table.rows[Numbered.number key]?

/-- Whether a key has an entry. -/
def contains (table : Table κ ν) (key : κ) : Bool :=
  (table.get? key).isSome

/-- Put an entry under a key, replacing what was there. -/
def insert (table : Table κ ν) (key : κ) (value : ν) : Table κ ν :=
  ⟨table.rows.insert (Numbered.number key) value⟩

/-- The entries of both tables; where both have one, the upper table's counts. -/
def overlay (base upper : Table κ ν) : Table κ ν :=
  ⟨base.rows ∪ upper.rows⟩

/-- The number of entries. -/
def size (table : Table κ ν) : Nat :=
  table.rows.size

/-- Whether there is no entry. -/
def isEmpty (table : Table κ ν) : Bool :=
  table.rows.isEmpty

/-- The table of the pairs of a list; a later pair replaces an earlier one. -/
def ofList (entries : List (κ × ν)) : Table κ ν :=
  entries.foldl (fun table entry => table.insert entry.1 entry.2) empty

@[simp] theorem get?_empty
    (key : κ) :
    (empty : Table κ ν).get? key = none := by
  simp [empty, get?]

theorem get?_insert
    [DecidableEq κ]
    (table : Table κ ν)
    (key query : κ)
    (value : ν) :
    (table.insert key value).get? query =
      if query = key then some value else table.get? query := by
  simp only [insert, get?, Std.ExtTreeMap.getElem?_insert, Std.compare_eq_iff_eq]
  by_cases same : query = key
  · simp [same]
  · have different : Numbered.number key ≠ Numbered.number query :=
      fun equal => same (Numbered.number_injective equal).symm
    simp [same, different]

@[simp] theorem get?_insert_self
    (table : Table κ ν)
    (key : κ)
    (value : ν) :
    (table.insert key value).get? key = some value := by
  simp [insert, get?]

theorem get?_insert_of_ne
    (table : Table κ ν)
    {key query : κ}
    (different : query ≠ key)
    (value : ν) :
    (table.insert key value).get? query = table.get? query := by
  have numbers : Numbered.number key ≠ Numbered.number query :=
    fun equal => different (Numbered.number_injective equal).symm
  simp [insert, get?, Std.ExtTreeMap.getElem?_insert, numbers]

/-- The upper table is asked first. -/
theorem get?_overlay
    (base upper : Table κ ν)
    (key : κ) :
    (base.overlay upper).get? key = (upper.get? key).or (base.get? key) := by
  exact Std.ExtTreeMap.getElem?_union

end Table

/-- A set of keys is a table without values. -/
abbrev KeySet (κ : Type) [Numbered κ] :=
  Table κ Unit

end LedgerEvm
