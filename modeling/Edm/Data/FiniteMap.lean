import Edm.Data.Table
import Mathlib.Data.Finmap

/-!
# Tables as finite maps

`Table.toMap` forgets the order of the rows. The operations of a table are those
of the finite map it stands for: `put` is `insert` and `remove` is `erase`.
-/

namespace Edm.Data

/-- Finite maps from keys to rows. -/
abbrev KeyMap (ρ : Type) := Finmap fun _ : Int => ρ

namespace Table

variable {ρ : Type}

/-- The finite map a table stands for. -/
def toMap (t : Table ρ) : KeyMap ρ := (t.rows.map Prod.toSigma).toFinmap

theorem dlookup_map_toSigma (rows : List (Int × ρ)) (id : Int) :
    (rows.map Prod.toSigma).dlookup id = rows.lookup id := by
  induction rows with
  | nil => rfl
  | cons head rest ih =>
    obtain ⟨key, row⟩ := head
    by_cases hid : id = key
    · subst hid
      rw [List.lookup_cons_self]
      exact List.dlookup_cons_eq (rest.map Prod.toSigma) id row
    · rw [List.map_cons, List.lookup_cons, beq_eq_false_iff_ne.2 hid]
      exact (List.dlookup_cons_ne _ ⟨key, row⟩ hid).trans ih

@[simp] theorem lookup_toMap (t : Table ρ) (id : Int) : t.toMap.lookup id = t.find? id := by
  rw [toMap, Finmap.dlookup_list_toFinmap, dlookup_map_toSigma]
  rfl

theorem notMem_toMap_iff (t : Table ρ) (id : Int) : id ∉ t.toMap ↔ t.find? id = none := by
  rw [← Finmap.lookup_eq_none, lookup_toMap]

theorem toMap_put (t : Table ρ) (id : Int) (row : ρ) :
    (t.put id row).toMap = t.toMap.insert id row := by
  apply Finmap.ext_lookup
  intro j
  rw [lookup_toMap, find?_put]
  by_cases hj : j = id
  · rw [hj, if_pos rfl, Finmap.lookup_insert]
  · rw [if_neg hj, Finmap.lookup_insert_of_ne _ hj, lookup_toMap]

theorem toMap_remove (t : Table ρ) (id : Int) : (t.remove id).toMap = t.toMap.erase id := by
  apply Finmap.ext_lookup
  intro j
  rw [lookup_toMap, find?_remove]
  by_cases hj : j = id
  · rw [hj, if_pos rfl, Finmap.lookup_erase]
  · rw [if_neg hj, Finmap.lookup_erase_ne hj, lookup_toMap]

/-- A row inserted without a key gets a key that is not in the map. -/
theorem nextId_notMem_toMap (t : Table ρ) : t.nextId ∉ t.toMap :=
  (notMem_toMap_iff t t.nextId).2 t.find?_nextId

end Table

end Edm.Data
