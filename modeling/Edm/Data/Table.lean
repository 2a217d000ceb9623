import Mathlib.Order.Basic
import Mathlib.Order.Defs.LinearOrder
import Mathlib.Data.Int.Order.Basic
import Mathlib.Tactic.Common

/-!
# Tables with an integer primary key

A `Table ρ` lists its rows in increasing order of their keys, so a key has at
most one row and the order of the list is the order of a scan. `put` writes a
row under a key, `remove` drops a key, `nextId` is the key a database gives a
row inserted without one: one more than the greatest key, or `1`.
`find?` is the finite map a table stands for.
-/

namespace Edm.Data

/-- Rows in increasing order of their integer keys. -/
structure Table (ρ : Type) where
  rows : List (Int × ρ)
  sorted : rows.Pairwise fun a b => a.1 < b.1

namespace Table

variable {ρ : Type}

def empty : Table ρ := ⟨[], .nil⟩

/-- The row under a key. -/
def find? (t : Table ρ) (id : Int) : Option ρ := t.rows.lookup id

def ids (t : Table ρ) : List Int := t.rows.map (·.1)

/-- The key of a row inserted without one. -/
def nextId (t : Table ρ) : Int :=
  match t.ids.max? with
  | some greatest => greatest + 1
  | none => 1

def putRow (id : Int) (row : ρ) : List (Int × ρ) → List (Int × ρ)
  | [] => [(id, row)]
  | head :: rest =>
    if id < head.1 then (id, row) :: head :: rest
    else if id = head.1 then (id, row) :: rest
    else head :: putRow id row rest

theorem mem_putRow {id : Int} {row : ρ} {rows : List (Int × ρ)} {x : Int × ρ}
    (h : x ∈ putRow id row rows) : x = (id, row) ∨ x ∈ rows := by
  induction rows with
  | nil => exact .inl (List.mem_singleton.1 h)
  | cons head rest ih =>
    unfold putRow at h
    split at h
    · exact List.mem_cons.1 h
    · split at h
      · rcases List.mem_cons.1 h with h | h
        · exact .inl h
        · exact .inr (List.mem_cons_of_mem _ h)
      · rcases List.mem_cons.1 h with rfl | h
        · exact .inr List.mem_cons_self
        · exact (ih h).imp_right (List.mem_cons_of_mem _)

theorem sorted_putRow {id : Int} {row : ρ} {rows : List (Int × ρ)}
    (h : rows.Pairwise fun a b => a.1 < b.1) :
    (putRow id row rows).Pairwise fun a b => a.1 < b.1 := by
  induction rows with
  | nil => exact List.pairwise_singleton _ _
  | cons head rest ih =>
    obtain ⟨hhead, hrest⟩ := List.pairwise_cons.1 h
    unfold putRow
    split
    · next hlt =>
      refine List.pairwise_cons.2 ⟨?_, h⟩
      intro x hx
      rcases List.mem_cons.1 hx with rfl | hx
      · exact hlt
      · exact lt_trans hlt (hhead x hx)
    · split
      · next heq => exact List.pairwise_cons.2 ⟨fun x hx => heq ▸ hhead x hx, hrest⟩
      · next hge hne =>
        refine List.pairwise_cons.2 ⟨?_, ih hrest⟩
        intro x hx
        rcases mem_putRow hx with rfl | hx
        · show head.1 < id
          omega
        · exact hhead x hx

/-- Write a row under a key, in place of the row the key had. -/
def put (t : Table ρ) (id : Int) (row : ρ) : Table ρ :=
  ⟨putRow id row t.rows, sorted_putRow t.sorted⟩

/-- Drop a key. -/
def remove (t : Table ρ) (id : Int) : Table ρ :=
  ⟨t.rows.filter (·.1 ≠ id), t.sorted.filter _⟩

/-! ## The finite map -/

theorem lookup_putRow (id : Int) (row : ρ) {rows : List (Int × ρ)}
    (h : rows.Pairwise fun a b => a.1 < b.1) (j : Int) :
    (putRow id row rows).lookup j = if j = id then some row else rows.lookup j := by
  induction rows with
  | nil =>
    by_cases hj : j = id
    · simp [putRow, hj]
    · simp [putRow, hj]
  | cons head rest ih =>
    obtain ⟨hhead, hrest⟩ := List.pairwise_cons.1 h
    unfold putRow
    split
    · by_cases hj : j = id
      · simp [hj]
      · simp only [List.lookup_cons, beq_eq_false_iff_ne.2 hj, hj, ite_false]
    · split
      · next heq =>
        by_cases hj : j = id
        · simp [hj]
        · have hjh : (j == head.1) = false := beq_eq_false_iff_ne.2 (heq ▸ hj)
          rw [List.lookup_cons, List.lookup_cons, beq_eq_false_iff_ne.2 hj, hjh, if_neg hj]
      · next hne =>
        rw [List.lookup_cons, ih hrest, List.lookup_cons]
        by_cases hj : j = id
        · have hjh : (j == head.1) = false := beq_eq_false_iff_ne.2 (hj ▸ hne)
          simp [hj, hj ▸ hjh]
        · simp [hj]

theorem find?_put (t : Table ρ) (id : Int) (row : ρ) (j : Int) :
    (t.put id row).find? j = if j = id then some row else t.find? j :=
  lookup_putRow id row t.sorted j

@[simp] theorem find?_put_self (t : Table ρ) (id : Int) (row : ρ) :
    (t.put id row).find? id = some row := by
  rw [find?_put, if_pos rfl]

theorem lookup_filter_ne (rows : List (Int × ρ)) (id j : Int) :
    (rows.filter (·.1 ≠ id)).lookup j = if j = id then none else rows.lookup j := by
  induction rows with
  | nil => simp
  | cons head rest ih =>
    by_cases hhead : head.1 = id
    · rw [List.filter_cons_of_neg (by simp [hhead]), ih]
      by_cases hj : j = id
      · simp [hj]
      · rw [List.lookup_cons, beq_eq_false_iff_ne.2 (hhead ▸ hj)]
    · rw [List.filter_cons_of_pos (by simp [hhead]), List.lookup_cons, ih, List.lookup_cons]
      by_cases hj : j = head.1
      · have hne : j ≠ id := hj ▸ hhead
        simp [hj, hhead]
      · simp [beq_eq_false_iff_ne.2 hj]

theorem find?_remove (t : Table ρ) (id j : Int) :
    (t.remove id).find? j = if j = id then none else t.find? j :=
  lookup_filter_ne t.rows id j

/-! ## Keys -/

theorem mem_ids_iff (t : Table ρ) (id : Int) : id ∈ t.ids ↔ (t.find? id).isSome := by
  unfold ids find?
  generalize t.rows = rows
  induction rows with
  | nil => simp
  | cons head rest ih =>
    rw [List.map_cons, List.mem_cons, ih, List.lookup_cons]
    by_cases hid : id = head.1
    · simp [hid]
    · simp [hid, beq_eq_false_iff_ne.2 hid]

theorem not_mem_ids_iff (t : Table ρ) (id : Int) : id ∉ t.ids ↔ t.find? id = none := by
  rw [mem_ids_iff]
  cases t.find? id <;> simp

@[simp] theorem ids_empty : (empty : Table ρ).ids = [] := rfl

theorem mem_ids_put (t : Table ρ) (id : Int) (row : ρ) (j : Int) :
    j ∈ (t.put id row).ids ↔ j = id ∨ j ∈ t.ids := by
  rw [mem_ids_iff, mem_ids_iff, find?_put]
  by_cases hj : j = id <;> simp [hj]

theorem mem_ids_remove (t : Table ρ) (id j : Int) :
    j ∈ (t.remove id).ids ↔ j ≠ id ∧ j ∈ t.ids := by
  rw [mem_ids_iff, mem_ids_iff, find?_remove]
  by_cases hj : j = id <;> simp [hj]

/-- The next key is above every key of the table. -/
theorem lt_nextId {t : Table ρ} {id : Int} (h : id ∈ t.ids) : id < t.nextId := by
  unfold nextId
  cases hmax : t.ids.max? with
  | none => rw [List.max?_eq_none_iff.1 hmax] at h; cases h
  | some greatest =>
    have hle : id ≤ greatest := (List.max?_eq_some_iff.1 hmax).2 id h
    show id < greatest + 1
    omega

theorem find?_nextId (t : Table ρ) : t.find? t.nextId = none := by
  rw [← not_mem_ids_iff]
  exact fun h => absurd (lt_nextId h) (lt_irrefl _)

/-! ## Rows -/

theorem mem_rows_of_find? {t : Table ρ} {id : Int} {row : ρ} (h : t.find? id = some row) :
    (id, row) ∈ t.rows := by
  obtain ⟨before, after, hrows, -⟩ := List.lookup_eq_some_iff.1 h
  rw [hrows]
  exact List.mem_append_right _ List.mem_cons_self

theorem putRow_of_forall_lt {id : Int} (row : ρ) {rows : List (Int × ρ)}
    (h : ∀ x ∈ rows, x.1 < id) : putRow id row rows = rows ++ [(id, row)] := by
  induction rows with
  | nil => rfl
  | cons head rest ih =>
    have hhead := h head List.mem_cons_self
    rw [putRow, if_neg (by omega), if_neg (by omega),
      ih fun x hx => h x (List.mem_cons_of_mem _ hx), List.cons_append]

/-- A row inserted without a key comes last in a scan. -/
theorem rows_put_nextId (t : Table ρ) (row : ρ) :
    (t.put t.nextId row).rows = t.rows ++ [(t.nextId, row)] := by
  apply putRow_of_forall_lt
  intro x hx
  exact lt_nextId (List.mem_map_of_mem hx)

theorem map_putRow {β : Type} (f : Int × ρ → β) {id : Int} {row old : ρ}
    (hf : f (id, row) = f (id, old)) {rows : List (Int × ρ)}
    (h : rows.Pairwise fun a b => a.1 < b.1) (hold : (id, old) ∈ rows) :
    (putRow id row rows).map f = rows.map f := by
  induction rows with
  | nil => cases hold
  | cons head rest ih =>
    obtain ⟨hhead, hrest⟩ := List.pairwise_cons.1 h
    rcases List.mem_cons.1 hold with rfl | hold
    · rw [putRow, if_neg (lt_irrefl _), if_pos rfl, List.map_cons, List.map_cons, hf]
    · have hlt : head.1 < id := hhead _ hold
      rw [putRow, if_neg (by omega), if_neg (by omega), List.map_cons, List.map_cons,
        ih hrest hold]

/-- A row that is replaced by one that looks the same changes nothing that is
seen of the rows. -/
theorem map_rows_put {β : Type} (f : Int × ρ → β) (t : Table ρ) {id : Int} {row old : ρ}
    (hold : (id, old) ∈ t.rows) (hf : f (id, row) = f (id, old)) :
    (t.put id row).rows.map f = t.rows.map f := map_putRow f hf t.sorted hold

end Table

end Edm.Data
