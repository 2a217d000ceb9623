import Edm.Verify.Esutils

/-!
# Indices after a restore

A restore closes all indices and opens them again only after its snapshot call
was accepted. `restore_keeps_open_iff` says for which inputs an index that was
open stays so.
-/

namespace Edm

open Effects Data

variable {D : Type}

section Reopen

variable (config : Config) (backupId : Int) (ω : Outcomes) (w : World D)

/-- The restore comes to close the indices, and closes them. -/
structure ClosesIndices : Prop where
  settings : ∃ repository seeds, config.destSettings = .ok (repository, seeds)
  reaches : RestoreReaches ω
  closes : ω.es .closeIndices = none

/-- The prefix is in the config, the snapshot in its location, and the restore
call let through. -/
def RestoresSnapshot : Prop :=
  ∃ name snapshot, config.snapshotName backupId = .ok name ∧
    w.cluster.snapshots (str backupId) name = some snapshot ∧ ω.es .restoreSnapshot = none

variable {config backupId ω w}

theorem atRestore_indices_of_refused {e : EsError} (h : ω.es .closeIndices = some e)
    (repository : String) :
    (atRestore backupId ω w repository).indices = w.cluster.indices := by
  simp [atRestore, Cluster.setOpenIf, h]

theorem atRestore_of_closes (h : ω.es .closeIndices = none) (repository : String) :
    atRestore backupId ω w repository =
      (w.cluster.register repository (str backupId)).setOpen false := by
  simp [atRestore, Cluster.setOpenIf, h]

/-- Closed indices leave nothing in the way of a restore. -/
theorem RestoresSnapshot.accepts (h : RestoresSnapshot config backupId ω w)
    (hclose : ω.es .closeIndices = none) (repository : String) :
    ∃ snapshot, RestoreAccepts config backupId ω w repository snapshot := by
  obtain ⟨name, snapshot, hname, hstored, hrestore⟩ := h
  refine ⟨snapshot, ⟨name, hname, hstored⟩, ?_, hrestore⟩
  rw [atRestore_of_closes hclose]
  exact (Cluster.allClosed_setOpen_false _).conflicts _

theorem exists_index_atRestore {i : String} (h : w.cluster.IsOpen i) (repository : String) :
    ∃ x, (atRestore backupId ω w repository).indices.get? i = some x := by
  obtain ⟨x, hx, -⟩ := h
  unfold atRestore Cluster.setOpenIf
  split
  · refine ⟨{ x with isOpen := false }, ?_⟩
    rw [Cluster.get?_setOpen, Cluster.register_indices, hx]
    rfl
  · exact ⟨x, hx⟩

/-- Once re-opened, what was open is open again. -/
theorem isOpen_afterRestore {i : String} (hopen : ω.es .openIndices = none)
    (h : w.cluster.IsOpen i) (repository : String) (snapshot : Snapshot D) :
    (afterRestore backupId ω w repository snapshot).IsOpen i := by
  obtain ⟨x, hx⟩ : ∃ x, (atRestore backupId ω w repository).indices.get? i = some x :=
    exists_index_atRestore h repository
  unfold afterRestore Cluster.setOpenIf
  rw [if_pos hopen]
  cases hs : snapshot.get? i with
  | none => exact Cluster.isOpen_setOpen_true (x := x) (by rw [Cluster.get?_restored, hs, hx]; rfl)
  | some content =>
    exact Cluster.isOpen_setOpen_true (x := ⟨content, true⟩)
      (by rw [Cluster.get?_restored, hs]; rfl)

end Reopen

/-- **Which restores leave open indices open**, on every exit, in a cluster
that accepts an open call: those that find no index open, those that do not
come to close the indices or whose close is refused, and those whose snapshot
is restored. In every other case the exception leaves them closed. -/
theorem restore_keeps_open_iff (config : Config) (backupId : Int) (ω : Outcomes) (w : World D)
    (hopen : ω.es .openIndices = none) :
    (∀ i, w.cluster.IsOpen i →
      ((restoreIndicesFromFsToDest config backupId).run (World.answer ω) w).2.cluster.IsOpen i) ↔
    (∀ i, ¬w.cluster.IsOpen i) ∨ ¬ClosesIndices config ω ∨
      RestoresSnapshot config backupId ω w := by
  have hend := restore_end config backupId ω w
  generalize ((restoreIndicesFromFsToDest config backupId).run (World.answer ω) w).1 = r at hend
  generalize ((restoreIndicesFromFsToDest config backupId).run (World.answer ω) w).2 = w' at hend ⊢
  cases hend with
  | noSettings hset =>
    constructor
    · intro _
      refine .inr (.inl ?_)
      intro h
      obtain ⟨repository, seeds, hset'⟩ := h.settings
      rw [hset] at hset'
      cases hset'
    · intro _ _ hi
      exact hi
  | unreached hset hreach hcluster =>
    constructor
    · intro _
      exact .inr (.inl fun h => hreach h.reaches)
    · intro _ i hi
      rcases hcluster with rfl | rfl <;> exact hi
  | @unrestored repository seeds hset hreach hno =>
    cases hclose : ω.es .closeIndices with
    | some e =>
      constructor
      · intro _
        refine .inr (.inl ?_)
        intro h
        rw [h.closes] at hclose
        cases hclose
      · intro _ i hi
        obtain ⟨x, hx, hxopen⟩ := hi
        exact ⟨x, by rw [World.setCluster_cluster, atRestore_indices_of_refused hclose, hx], hxopen⟩
    | none =>
      rw [World.setCluster_cluster, atRestore_of_closes hclose]
      constructor
      · intro h
        left
        intro i hi
        exact Cluster.not_isOpen_setOpen_false _ _ (h i hi)
      · rintro (h | h | h) i hi
        · exact absurd hi (h i)
        · exact absurd ⟨⟨repository, seeds, hset⟩, hreach, hclose⟩ h
        · obtain ⟨snapshot, haccepts⟩ := h.accepts hclose repository
          exact absurd haccepts (hno snapshot)
  | @restored repository seeds snapshot hset hreach haccepts =>
    constructor
    · intro _
      obtain ⟨name, hname, hstored⟩ := haccepts.stored
      exact .inr (.inr ⟨name, snapshot, hname, hstored, haccepts.accepted⟩)
    · intro _ i hi
      exact isOpen_afterRestore hopen hi repository snapshot

/-- The shipped config, one open index and no snapshot. -/
def World.logsOnly : World Nat :=
  { World.blank Config.shipped with
    cluster :=
      { indices := .single "logs" ⟨5, true⟩
        repositories := fun _ => none
        snapshots := fun _ _ => none } }

def Outcomes.smoothNewYear : Outcomes := .smooth (.newYear 2018 (by decide))

theorem restore_keeps_open_iff_logsOnly :
    (∀ i, World.logsOnly.cluster.IsOpen i →
      ((restoreIndicesFromFsToDest Config.shipped 7).run (World.answer .smoothNewYear)
        World.logsOnly).2.cluster.IsOpen i) ↔
    (∀ i, ¬World.logsOnly.cluster.IsOpen i) ∨
      ¬ClosesIndices Config.shipped .smoothNewYear ∨
        RestoresSnapshot Config.shipped 7 .smoothNewYear World.logsOnly :=
  restore_keeps_open_iff Config.shipped 7 .smoothNewYear World.logsOnly rfl

/-- A restore of a backup that was never taken raises and leaves the index
closed, although every call that could be let through was. -/
theorem restore_leaves_logs_closed :
    Outcomes.smoothNewYear.es .openIndices = none ∧ World.logsOnly.cluster.IsOpen "logs" ∧
      ¬((restoreIndicesFromFsToDest Config.shipped 7).run (World.answer .smoothNewYear)
        World.logsOnly).2.cluster.IsOpen "logs" := by
  refine ⟨rfl, ⟨⟨5, true⟩, rfl, rfl⟩, ?_⟩
  rintro ⟨x, hget, hopen⟩
  have hclosed : ((restoreIndicesFromFsToDest Config.shipped 7).run
      (World.answer .smoothNewYear) World.logsOnly).2.cluster.indices.get? "logs" =
      some ⟨5, false⟩ := rfl
  rw [hclosed] at hget
  cases hget
  cases hopen

end Edm
