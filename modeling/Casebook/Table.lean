/-
# Tables and sets of names

A `Table` assigns values to names, a `Names` is a set of names; both are listed in ascending order
of the names, each name once, and that order is part of the types.  Contexts are tables, and so is
whatever is listed by name in an answer.  `get?_insert_self` and `get?_insert_of_ne` say what
`Table.insert` does to the view `Table.get?`; `Names.contains_insert` says the same for sets.
-/

namespace Casebook

/-! ## 1. Rows in ascending order -/

/-- The rows stand in strictly ascending order of their names. -/
def Ascending {α : Type} (rows : List (String × α)) : Prop :=
  rows.Pairwise fun a b => a.1 < b.1

/-- Puts a row among rows in ascending order, in place of one of the same name. -/
def insertRow {α : Type} (name : String) (value : α) : List (String × α) → List (String × α)
  | [] => [(name, value)]
  | row :: rest =>
    if name < row.1 then (name, value) :: row :: rest
    else if name = row.1 then (name, value) :: rest
    else row :: insertRow name value rest

/-- A row put among others is the new one or one of the others. -/
theorem mem_of_mem_insertRow {α : Type} {name : String} {value : α} {rows : List (String × α)}
    {row : String × α} (h : row ∈ insertRow name value rows) : row = (name, value) ∨ row ∈ rows := by
  induction rows with
  | nil => simpa [insertRow] using h
  | cons first rest ih =>
    simp only [insertRow] at h
    split at h
    · simpa using h
    · split at h
      · rcases List.mem_cons.1 h with h | h
        · exact .inl h
        · exact .inr (List.mem_cons_of_mem _ h)
      · rcases List.mem_cons.1 h with h | h
        · exact .inr (h ▸ List.mem_cons_self)
        · exact (ih h).imp_right (List.mem_cons_of_mem _)

/-- Two different names stand in one order or the other. -/
theorem lt_of_not_lt_of_ne {a b : String} (h : ¬ a < b) (hne : a ≠ b) : b < a := by
  rcases Decidable.em (b < a) with hlt | hlt
  · exact hlt
  · exact absurd (String.le_antisymm (String.not_lt.1 hlt) (String.not_lt.1 h)) hne

/-- Putting a row in keeps the order. -/
theorem Ascending.insertRow {α : Type} {rows : List (String × α)} (h : Ascending rows)
    (name : String) (value : α) : Ascending (insertRow name value rows) := by
  induction rows with
  | nil => simp [Casebook.insertRow, Ascending]
  | cons first rest ih =>
    obtain ⟨hfirst, hrest⟩ := List.pairwise_cons.1 h
    simp only [Casebook.insertRow]
    split
    · rename_i hlt
      refine List.pairwise_cons.2 ⟨fun row hrow => ?_, h⟩
      rcases List.mem_cons.1 hrow with heq | hrow
      · exact heq ▸ hlt
      · exact String.lt_trans hlt (hfirst row hrow)
    · split
      · rename_i heq
        refine List.pairwise_cons.2 ⟨fun row hrow => ?_, hrest⟩
        exact heq ▸ hfirst row hrow
      · rename_i hlt hne
        refine List.pairwise_cons.2 ⟨fun row hrow => ?_, ih hrest⟩
        rcases mem_of_mem_insertRow hrow with heq | hrow
        · exact heq ▸ lt_of_not_lt_of_ne hlt hne
        · exact hfirst row hrow

/-! ## 2. Tables -/

/-- A value for each of finitely many names. -/
structure Table (α : Type) where
  rows : List (String × α)
  ascending : Ascending rows := by exact List.Pairwise.nil

namespace Table

variable {α : Type}

/-- The table without rows. -/
def empty : Table α := { rows := [] }

instance : Inhabited (Table α) := ⟨empty⟩

/-- The value for a name. -/
def get? (t : Table α) (name : String) : Option α :=
  (t.rows.find? (·.1 == name)).map (·.2)

/-- Whether there is a value for a name. -/
def contains (t : Table α) (name : String) : Bool :=
  t.rows.any (·.1 == name)

/-- The table with this value for this name, and as before for all others. -/
def insert (t : Table α) (name : String) (value : α) : Table α :=
  ⟨insertRow name value t.rows, t.ascending.insertRow name value⟩

/-- The table of some rows; of two with one name the later counts. -/
def ofList (rows : List (String × α)) : Table α :=
  rows.foldl (fun t row => t.insert row.1 row.2) empty

/-- The first table with the rows of the second put in. -/
def merge (t updates : Table α) : Table α :=
  updates.rows.foldl (fun acc row => acc.insert row.1 row.2) t

/-- The names that have a value, in ascending order. -/
def names (t : Table α) : List String :=
  t.rows.map (·.1)

/-- The values, in ascending order of their names. -/
def values (t : Table α) : List α :=
  t.rows.map (·.2)

@[simp] theorem get?_empty (name : String) : (empty : Table α).get? name = none := rfl

@[simp] theorem contains_empty (name : String) : (empty : Table α).contains name = false := rfl

theorem find?_insertRow_self (name : String) (value : α) (rows : List (String × α)) :
    (insertRow name value rows).find? (·.1 == name) = some (name, value) := by
  induction rows with
  | nil => simp [insertRow]
  | cons first rest ih =>
    simp only [insertRow]
    split
    · simp
    · split
      · simp
      · rename_i hne
        rw [List.find?_cons_of_neg (by simpa using fun h => hne h.symm)]
        exact ih

theorem find?_insertRow_of_ne {name other : String} (hne : other ≠ name) (value : α)
    (rows : List (String × α)) :
    (insertRow name value rows).find? (·.1 == other) = rows.find? (·.1 == other) := by
  have hbeq : (name == other) = false := by simpa using fun h => hne h.symm
  induction rows with
  | nil => simp [insertRow, hbeq]
  | cons first rest ih =>
    simp only [insertRow]
    split
    · simp [List.find?_cons, hbeq]
    · split
      · rename_i heq
        simp [← heq, hbeq]
      · simp only [List.find?_cons, ih]

/-- A value put in is found. -/
@[simp] theorem get?_insert_self (t : Table α) (name : String) (value : α) :
    (t.insert name value).get? name = some value := by
  simp [get?, insert, find?_insertRow_self]

/-- A value put in does not disturb the others. -/
theorem get?_insert_of_ne (t : Table α) {name other : String} (hne : other ≠ name) (value : α) :
    (t.insert name value).get? other = t.get? other := by
  simp [get?, insert, find?_insertRow_of_ne hne]

theorem contains_eq_isSome_get? (t : Table α) (name : String) :
    t.contains name = (t.get? name).isSome := by
  rw [contains, get?, Option.isSome_map, Bool.eq_iff_iff, List.find?_isSome, List.any_eq_true]

theorem mem_rows_of_get? {t : Table α} {name : String} {value : α}
    (h : t.get? name = some value) : (name, value) ∈ t.rows := by
  unfold get? at h
  obtain ⟨row, hrow, rfl⟩ := Option.map_eq_some_iff.mp h
  have hname : row.1 = name := by simpa using List.find?_some hrow
  rw [← hname]
  exact List.mem_of_find?_eq_some hrow

/-- A table of some rows holds no others. -/
theorem mem_of_mem_rows_ofList {rows : List (String × α)} {row : String × α}
    (h : row ∈ (ofList rows).rows) : row ∈ rows := by
  have hfold : ∀ (rows : List (String × α)) (t : Table α),
      row ∈ (rows.foldl (fun t row => t.insert row.1 row.2) t).rows → row ∈ t.rows ∨ row ∈ rows := by
    intro rows
    induction rows with
    | nil => exact fun t h => .inl h
    | cons first rest ih =>
      intro t h
      rcases ih _ h with h | h
      · rcases mem_of_mem_insertRow h with rfl | h
        · exact .inr List.mem_cons_self
        · exact .inl h
      · exact .inr (List.mem_cons_of_mem _ h)
  rcases hfold rows empty h with h | h
  · cases h
  · exact h

/-- Rows put in one after the other, all of different names. -/
theorem get?_foldl_insert {rows : List (String × α)} :
    ∀ {t : Table α}, Ascending rows → ∀ name,
      (rows.foldl (fun acc row => acc.insert row.1 row.2) t).get? name =
        ((rows.find? (·.1 == name)).map (·.2)).or (t.get? name) := by
  induction rows with
  | nil => exact fun _ _ => rfl
  | cons first rest ih =>
    intro t h name
    obtain ⟨hfirst, hrest⟩ := List.pairwise_cons.mp h
    rw [List.foldl_cons, ih hrest]
    by_cases hname : first.1 = name
    · have hnone : rest.find? (·.1 == name) = none := by
        refine List.find?_eq_none.mpr fun row hrow heq => ?_
        have hlt := hfirst row hrow
        rw [hname, beq_iff_eq.mp heq] at hlt
        exact String.lt_irrefl name hlt
      rw [hnone, List.find?_cons_of_pos (by simpa using hname), ← hname, get?_insert_self]
      rfl
    · rw [List.find?_cons_of_neg (by simpa using hname), get?_insert_of_ne _ (Ne.symm hname)]

/-- In a merged table the updates come first. -/
theorem get?_merge (t updates : Table α) (name : String) :
    (t.merge updates).get? name = (updates.get? name).or (t.get? name) :=
  get?_foldl_insert updates.ascending name

end Table

/-! ## 3. Sets of names -/

/-- A finite set of names. -/
structure Names where
  toTable : Table Unit

namespace Names

/-- The set without members. -/
def empty : Names := ⟨.empty⟩

instance : Inhabited Names := ⟨empty⟩

/-- The members in ascending order. -/
def toList (s : Names) : List String :=
  s.toTable.names

/-- Whether a name is a member. -/
def contains (s : Names) (name : String) : Bool :=
  s.toTable.contains name

/-- The set with one more member. -/
def insert (s : Names) (name : String) : Names :=
  ⟨s.toTable.insert name ()⟩

/-- The set of the given names. -/
def ofList (names : List String) : Names :=
  names.foldl insert empty

/-- The members of the first set that are not in the second, in ascending order. -/
def without (s t : Names) : List String :=
  s.toList.filter fun name => !t.contains name

/-- Whether every member of the first set is in the second. -/
def isSubset (s t : Names) : Bool :=
  s.toList.all t.contains

@[simp] theorem contains_empty (name : String) : empty.contains name = false := rfl

/-- The members after one more is put in. -/
theorem contains_insert (s : Names) (name other : String) :
    (s.insert name).contains other = (other == name || s.contains other) := by
  simp only [contains, insert, Table.contains_eq_isSome_get?]
  by_cases h : other = name
  · subst h; simp
  · rw [Table.get?_insert_of_ne _ h]; simp [h]

theorem contains_eq_true_iff (s : Names) (name : String) :
    s.contains name = true ↔ name ∈ s.toList := by
  simp [contains, toList, Table.contains, Table.names]

theorem isSubset_iff (s t : Names) :
    s.isSubset t = true ↔ ∀ name ∈ s.toList, t.contains name = true := by
  simp [isSubset]

end Names

end Casebook
