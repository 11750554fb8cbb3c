/-! Tables from names to values, kept in the order of the names, so that tables with the same contents
are equal. Names are ordered by their characters. -/
namespace CircuitScript

structure Table (α : Type) where
  entries : List (String × α)
  sorted : entries.Pairwise (fun a b => a.1 < b.1)
  deriving DecidableEq

namespace Table

variable {α : Type}

def find? (key : String) : List (String × α) → Option α
  | [] => none
  | (name, value) :: rest => if name = key then some value else find? key rest

def put (key : String) (value : α) : List (String × α) → List (String × α)
  | [] => [(key, value)]
  | (name, old) :: rest =>
    if key < name then (key, value) :: (name, old) :: rest
    else if key = name then (key, value) :: rest
    else (name, old) :: put key value rest

theorem memPut {key : String} {value : α} {entry : String × α} :
    ∀ {entries : List (String × α)}, entry ∈ put key value entries →
      entry = (key, value) ∨ entry ∈ entries
  | [], member => by simpa [put] using member
  | (name, old) :: rest, member => by
    simp only [put] at member
    split at member
    · simpa using member
    · split at member
      · rcases List.mem_cons.mp member with same | other
        · exact .inl same
        · exact .inr (List.mem_cons_of_mem _ other)
      · rcases List.mem_cons.mp member with same | other
        · exact .inr (same ▸ List.mem_cons_self)
        · exact (memPut other).imp_right (List.mem_cons_of_mem _)

theorem ltOfNotLt {a b : String} (above : ¬a < b) (different : a ≠ b) : b < a := by
  rcases Decidable.em (b < a) with below | level
  · exact below
  · exact absurd (String.le_antisymm (String.not_lt.mp level) (String.not_lt.mp above)) different

theorem putSorted (key : String) (value : α) :
    ∀ {entries : List (String × α)}, entries.Pairwise (fun a b => a.1 < b.1) →
      (put key value entries).Pairwise (fun a b => a.1 < b.1)
  | [], _ => by simp [put]
  | (name, old) :: rest, sorted => by
    obtain ⟨first, later⟩ := List.pairwise_cons.mp sorted
    simp only [put]
    split
    · rename_i before
      refine List.pairwise_cons.mpr ⟨fun entry member => ?_, sorted⟩
      rcases List.mem_cons.mp member with rfl | other
      · exact before
      · exact String.lt_trans before (first entry other)
    · split
      · rename_i same
        subst same
        exact List.pairwise_cons.mpr ⟨first, later⟩
      · rename_i above different
        refine List.pairwise_cons.mpr ⟨fun entry member => ?_, putSorted key value later⟩
        rcases memPut member with rfl | other
        · exact ltOfNotLt above different
        · exact first entry other

def empty : Table α := ⟨[], .nil⟩

instance : Inhabited (Table α) := ⟨empty⟩

def get? (table : Table α) (key : String) : Option α := find? key table.entries

def contains (table : Table α) (key : String) : Bool := (table.get? key).isSome

def insert (table : Table α) (key : String) (value : α) : Table α :=
  ⟨put key value table.entries, putSorted key value table.sorted⟩

def erase (table : Table α) (key : String) : Table α :=
  ⟨table.entries.filter (·.1 ≠ key), table.sorted.filter _⟩

def keys (table : Table α) : List String := table.entries.map (·.1)

def size (table : Table α) : Nat := table.entries.length

/-- The table of the given entries; of several under one key the last counts. -/
def ofList (entries : List (String × α)) : Table α :=
  entries.foldl (fun table entry => table.insert entry.1 entry.2) empty

def overlay (table upper : Table α) : Table α :=
  upper.entries.foldl (fun table entry => table.insert entry.1 entry.2) table

theorem findPut (key name : String) (value : α) (entries : List (String × α)) :
    find? name (put key value entries) = if key = name then some value else find? name entries := by
  induction entries with
  | nil => simp [put, find?]
  | cons entry rest ih =>
    obtain ⟨other, old⟩ := entry
    simp only [put]
    split
    · simp [find?]
    · split
      · rename_i same
        subst same
        by_cases h : key = name <;> simp [find?, h]
      · rename_i different
        by_cases h : other = name
        · subst h
          simp [find?, different]
        · simp [find?, h, ih]

@[simp] theorem getInsert (table : Table α) (key name : String) (value : α) :
    (table.insert key value).get? name = if key = name then some value else table.get? name :=
  findPut key name value table.entries

@[simp] theorem getEmpty (key : String) : (empty : Table α).get? key = none := rfl

end Table

end CircuitScript
