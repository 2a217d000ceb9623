import Mathlib.Data.List.Basic
import Mathlib.Tactic.Common
import Std.Data.String.ToInt

/-!
# Paths

Paths are the strings the code builds. `relPath` inverts `joinPath`, and names
without a separator keep the trees below them apart (`joinPath_append_inj`):
this is what separates the artifacts of one decimal id from those of another,
`1` from `11` included.
-/

namespace Edm

/-- `dir + '/' + rel`. -/
def joinPath (dir rel : String) : String := dir ++ "/" ++ rel

/-- The part of a path below a directory. -/
def relPath (dir path : String) : Option String :=
  ((dir ++ "/").toList.isPrefixOf? path.toList).map String.ofList

theorem relPath_eq_some_iff {dir path rel : String} :
    relPath dir path = some rel ↔ path = joinPath dir rel := by
  unfold relPath joinPath
  rw [Option.map_eq_some_iff]
  constructor
  · rintro ⟨l, hl, rfl⟩
    have happ := List.isPrefixOf?_eq_some_iff_append_eq.1 hl
    apply String.toList_inj.1
    rw [String.toList_append, String.toList_ofList, happ]
  · rintro rfl
    refine ⟨rel.toList, ?_, String.ofList_toList⟩
    rw [List.isPrefixOf?_eq_some_iff_append_eq, String.toList_append (s := dir ++ "/")]

@[simp] theorem relPath_joinPath (dir rel : String) : relPath dir (joinPath dir rel) = some rel :=
  relPath_eq_some_iff.2 rfl

/-- A separator that occurs in neither head determines both heads. -/
theorem append_cons_inj {α : Type} {c : α} :
    ∀ {a b r s : List α}, c ∉ a → c ∉ b → a ++ c :: r = b ++ c :: s → a = b ∧ r = s
  | [], [], _, _, _, _, h => ⟨rfl, (List.cons.inj h).2⟩
  | [], _ :: _, _, _, _, hb, h => absurd (List.mem_cons.2 (.inl (List.cons.inj h).1)) hb
  | _ :: _, [], _, _, ha, _, h => absurd (List.mem_cons.2 (.inl (List.cons.inj h).1.symm)) ha
  | _ :: _, _ :: _, _, _, ha, hb, h => by
    obtain ⟨hhead, htail⟩ := List.cons.inj h
    obtain ⟨hab, hrs⟩ := append_cons_inj (fun hc => ha (List.mem_cons_of_mem _ hc))
      (fun hc => hb (List.mem_cons_of_mem _ hc)) htail
    exact ⟨by rw [hhead, hab], hrs⟩

theorem joinPath_append_inj {base a b r s : String} (ha : '/' ∉ a.toList) (hb : '/' ∉ b.toList)
    (h : joinPath (base ++ a) r = joinPath (base ++ b) s) : a = b ∧ r = s := by
  have hlist := congrArg String.toList h
  simp only [joinPath, String.toList_append, List.append_assoc, List.append_cancel_left_eq,
    show "/".toList = ['/'] from rfl, List.singleton_append] at hlist
  obtain ⟨hab, hrs⟩ := append_cons_inj ha hb hlist
  exact ⟨String.toList_inj.1 hab, String.toList_inj.1 hrs⟩

/-! ## Decimal ids -/

theorem notMem_digits {c : Char} (hc : c.isDigit = false) (n : Nat) : c ∉ n.repr.toList := by
  intro hmem
  rw [Nat.toList_repr] at hmem
  have hdigit := Nat.isDigit_of_mem_toDigits (by decide) (by decide) hmem
  rw [hc] at hdigit
  cases hdigit

/-- Python's `str` of an integer. -/
def str (n : Int) : String := toString n

theorem slash_notMem_str (n : Int) : '/' ∉ (str n).toList := by
  rw [str, Int.toString_eq_repr, Int.repr_eq_if]
  split
  · exact notMem_digits rfl _
  · rw [String.toList_append, List.mem_append]
    rintro (h | h)
    · exact absurd h (by decide)
    · exact notMem_digits rfl _ h

theorem str_inj {a b : Int} (h : str a = str b) : a = b := by
  rw [str, str, Int.toString_eq_repr, Int.toString_eq_repr] at h
  exact Int.repr_inj.1 h

/-! ## Copies of trees -/

/-- What `alluxio fs copyToLocal` and `copyFromLocal` of a directory into a
directory leave: a file of the source tree that was `reached` is at its place
in the target tree, every other file is as it was. -/
def copyTree {F : Type} (source target : String) (reached : String → Bool)
    (src dst : String → Option F) : String → Option F := fun path =>
  match relPath target path with
  | some rel => if reached rel then (src (joinPath source rel)).or (dst path) else dst path
  | none => dst path

theorem copyTree_joinPath {F : Type} (source target : String) (src dst : String → Option F)
    (rel : String) :
    copyTree source target (fun _ => true) src dst (joinPath target rel) =
      (src (joinPath source rel)).or (dst (joinPath target rel)) := by
  simp [copyTree]

/-- A copy brings only files of its source. -/
theorem isSome_copyTree {F : Type} {source target path : String} {reached : String → Bool}
    {src dst : String → Option F}
    (h : (copyTree source target reached src dst path).isSome = true) :
    (dst path).isSome = true ∨
      ∃ rel, path = joinPath target rel ∧ (src (joinPath source rel)).isSome = true := by
  unfold copyTree at h
  cases hrel : relPath target path with
  | none =>
    rw [hrel] at h
    exact .inl h
  | some rel =>
    rw [hrel] at h
    dsimp only at h
    split at h
    · rw [Option.isSome_or, Bool.or_eq_true] at h
      exact h.symm.imp_right fun hsrc => ⟨rel, relPath_eq_some_iff.1 hrel, hsrc⟩
    · exact .inl h

/-- A copy leaves what is not below its target. -/
theorem copyTree_of_not_below {F : Type} {source target : String} {reached : String → Bool}
    {src dst : String → Option F} {path : String} (h : ∀ rel, path ≠ joinPath target rel) :
    copyTree source target reached src dst path = dst path := by
  unfold copyTree
  cases hrel : relPath target path with
  | none => rfl
  | some rel => exact absurd (relPath_eq_some_iff.1 hrel) (h rel)

end Edm
