import Edm.Verify.AllOrNothing
import Edm.Verify.Reopen

/-!
# Replacing a snapshot

A snapshot under the id of an earlier one deletes the earlier one before it asks
for the new one. What the location holds in the end depends on which of the
calls are refused: the old snapshot stays when one before the deletion is, the
new one takes its place when none is, and none is left when only the creation
is refused.
-/

namespace Edm

open Effects Data

variable {D : Type}

section Replace

variable (config : Config) (backupId : Int) (ω : Outcomes) (w : World D)

/-- The calls up to the deletion of an old snapshot are let through. -/
structure DropsSnapshot : Prop where
  settings : ∃ settings, config.srcSettings = .ok settings
  reaches : SnapshotReaches ω
  found : ω.es .getSnapshot = none
  deleted : ω.es .deleteSnapshot = none

variable {config backupId ω w} {name : String} {old : Snapshot D}

/-- What is in the place of an old snapshot when the new one is asked for. -/
theorem atSnapshot_snapshots (repository : String)
    (hold : w.cluster.snapshots (str backupId) name = some old) :
    (atSnapshot backupId ω w repository name).snapshots (str backupId) name =
      if ω.es .getSnapshot = none ∧ ω.es .deleteSnapshot = none then none else some old := by
  unfold atSnapshot Cluster.dropIf
  split
  · exact Cluster.setSnapshot_self ..
  · exact hold

theorem snapshotNamed_inj {name' : String} (h : config.snapshotName backupId = .ok name)
    (h' : config.snapshotName backupId = .ok name') : name' = name := by
  rw [h, Except.ok.injEq] at h'
  exact h'.symm

/-- **What becomes of an old snapshot.** -/
theorem replaced_snapshot (hname : config.snapshotName backupId = .ok name)
    (hold : w.cluster.snapshots (str backupId) name = some old) :
    let after := ((snapshotIndicesFromSrcToFs config backupId).run (World.answer ω) w).2
    (DropsSnapshot config ω → ω.es .createSnapshot = none →
        after.cluster.snapshots (str backupId) name = some w.cluster.openContents) ∧
      (DropsSnapshot config ω → ω.es .createSnapshot ≠ none →
        after.cluster.snapshots (str backupId) name = none) ∧
      (¬DropsSnapshot config ω → after.cluster.snapshots (str backupId) name = some old) := by
  have hend := snapshot_end config backupId ω w
  generalize ((snapshotIndicesFromSrcToFs config backupId).run (World.answer ω) w).1 = r at hend
  generalize ((snapshotIndicesFromSrcToFs config backupId).run (World.answer ω) w).2 = w' at hend ⊢
  generalize (snapshotIndicesFromSrcToFs config backupId).log (World.answer ω) w = log at hend
  have hat (repository : String) := atSnapshot_snapshots (ω := ω) repository hold
  cases hend with
  | noSettings hset =>
    have hno : ¬DropsSnapshot config ω := by
      intro h
      obtain ⟨settings, hset'⟩ := h.settings
      rw [hset] at hset'
      cases hset'
    exact ⟨fun h => absurd h hno, fun h => absurd h hno, fun _ => hold⟩
  | unreached hset hreach hcluster hlog =>
    have hno : ¬DropsSnapshot config ω := fun h => hreach h.reaches
    refine ⟨fun h => absurd h hno, fun h => absurd h hno, fun _ => ?_⟩
    rcases hcluster with rfl | rfl <;> exact hold
  | unnamed hset hreach hnone hlog =>
    rw [hname] at hnone
    cases hnone
  | @untaken repository name' seeds log hset hreach hname' hno hlog =>
    obtain rfl := snapshotNamed_inj hname hname'
    refine ⟨?_, ?_, ?_⟩
    · intro h hcreate
      have htakes : TakesSnapshot config backupId ω w :=
        ⟨h.settings, h.reaches, ⟨_, hname, .inr ⟨h.found, h.deleted⟩⟩, hcreate⟩
      exact absurd (htakes.accepts hname repository) hno
    · intro h _
      exact (hat repository).trans (if_pos ⟨h.found, h.deleted⟩)
    · intro h
      refine (hat repository).trans (if_neg ?_)
      rintro ⟨hfound, hdeleted⟩
      exact h ⟨⟨_, hset⟩, hreach, hfound, hdeleted⟩
  | @taken repository name' seeds log hset hreach haccepts hlog =>
    obtain rfl := snapshotNamed_inj hname haccepts.named
    refine ⟨?_, ?_, ?_⟩
    · intro _ _
      exact Cluster.setSnapshot_self ..
    · intro _ hcreate
      exact absurd haccepts.accepted hcreate
    · intro h
      obtain hnone | ⟨hfound, hdeleted⟩ := (atSnapshot_eq_none_iff repository _).1 haccepts.free
      · rw [hold] at hnone
        cases hnone
      · exact absurd ⟨⟨_, hset⟩, hreach, hfound, hdeleted⟩ h

end Replace

section Samples

/-- An open index, and a snapshot of what it held before under the id `3`. -/
def World.changedSince : World Nat :=
  World.logsOnly.setCluster
    { World.logsOnly.cluster with
      snapshots := fun location name =>
        if location = "3" ∧ name = "elastest_snapshot_3" then some (.single "logs" 4) else none }

/-- Only the creation of a snapshot is refused. -/
def Outcomes.uncreated : Outcomes :=
  { Outcomes.smoothNewYear with
    es := fun step => if step = .createSnapshot then some .transportError else none }

/-- A second backup under the same id, let through up to the deletion. -/
def World.afterUncreated : World Nat :=
  ((snapshotIndicesFromSrcToFs Config.shipped 3).run (World.answer .uncreated)
    World.changedSince).2

theorem replaced_snapshot_changedSince :
    let after := World.afterUncreated
    (DropsSnapshot Config.shipped .uncreated → Outcomes.uncreated.es .createSnapshot = none →
        after.cluster.snapshots (str 3) "elastest_snapshot_3" =
          some World.changedSince.cluster.openContents) ∧
      (DropsSnapshot Config.shipped .uncreated → Outcomes.uncreated.es .createSnapshot ≠ none →
        after.cluster.snapshots (str 3) "elastest_snapshot_3" = none) ∧
      (¬DropsSnapshot Config.shipped .uncreated →
        after.cluster.snapshots (str 3) "elastest_snapshot_3" = some (.single "logs" 4)) :=
  @replaced_snapshot Nat Config.shipped 3 .uncreated World.changedSince "elastest_snapshot_3"
    (.single "logs" 4) rfl rfl

/-- The old snapshot is gone and there is no new one, and the caller is told
nothing. -/
theorem old_snapshot_lost :
    Config.shipped.snapshotName 3 = .ok "elastest_snapshot_3" ∧
      (World.changedSince.cluster.snapshots (str 3) "elastest_snapshot_3").isSome = true ∧
      ((snapshotIndicesFromSrcToFs Config.shipped 3).run (World.answer .uncreated)
        World.changedSince).1 = .ok () ∧
      World.afterUncreated.cluster.snapshots (str 3) "elastest_snapshot_3" = none :=
  ⟨rfl, rfl, rfl, rfl⟩

end Samples

end Edm
