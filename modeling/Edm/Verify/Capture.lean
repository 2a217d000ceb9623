import Edm.Service.Run
import Edm.Verify.AllOrNothing

/-!
# Captures

A `Capture` is what a backup should save of the stores: the documents of the
open indices, the files under `/hdfs` and the tables. A backup that succeeds
leaves artifacts that hold the capture of its stores (`Succeeds.holds`), and a
restore that ends well from artifacts that hold a capture leaves it in the
stores (`Artifacts.Holds.recovered`).
-/

namespace Edm

open Effects Data

variable {D : Type}

structure Capture (D : Type) where
  indices : Snapshot D
  /-- The files, by their path below `/hdfs`. -/
  hdfs : String → Option (FileContent D)
  mysql : String → Option D

def World.capture (w : World D) : Capture D where
  indices := w.cluster.openContents
  hdfs rel := w.hdfs (joinPath "/hdfs" rel)
  mysql := w.mysql

/-- The artifacts of `b` hold a capture. They may hold more files. -/
structure Artifacts.Holds (config : Config) (b : Int) (c : Capture D) (a : Artifacts D) : Prop where
  snapshot : ∃ name, config.snapshotName b = .ok name ∧ a.snapshots name = some c.indices
  hdfs : ∀ rel content, c.hdfs rel = some content → a.hdfs rel = some content
  hasHdfs : a.hasHdfs = true
  dump : a.dump = some (.dump ⟨c.mysql, true⟩)

/-- What was captured is in the stores, its indices open. -/
structure Recovered (c : Capture D) (stores : Stores D) : Prop where
  indices : ∀ i content, c.indices.get? i = some content →
    stores.indices.get? i = some ⟨content, true⟩
  hdfs : ∀ rel content, c.hdfs rel = some content →
    stores.hdfs (joinPath "/hdfs" rel) = some content
  mysql : ∀ t content, c.mysql t = some content → stores.mysql t = some content

/-! ## Backup -/

section Backup

variable {config : Config} {b : Int} {ω : Outcomes} {w : World D}

theorem TakesSnapshot.run (h : TakesSnapshot config b ω w) :
    ∃ name cluster, config.snapshotName b = .ok name ∧
      cluster.snapshots (str b) name = some w.cluster.openContents ∧
      (snapshotIndicesFromSrcToFs config b).run (World.answer ω) w =
        (.ok (), w.setCluster cluster) := by
  have hend := snapshot_end config b ω w
  rcases hrun : (snapshotIndicesFromSrcToFs config b).run (World.answer ω) w with ⟨r, w'⟩
  rw [hrun] at hend
  generalize (snapshotIndicesFromSrcToFs config b).log (World.answer ω) w = log at hend
  cases hend with
  | noSettings hset =>
    obtain ⟨settings, hset'⟩ := h.settings
    rw [hset] at hset'
    cases hset'
  | unreached hset hreach hcluster hlog => exact absurd h.reaches hreach
  | unnamed hset hreach hname hlog =>
    obtain ⟨name, hname', -⟩ := h.named
    rw [hname] at hname'
    cases hname'
  | untaken hset hreach hname hno hlog => exact absurd (h.accepts hname _) hno
  | @taken repository name seeds log hset hreach haccepts hlog =>
    exact ⟨name, _, haccepts.named, Cluster.setSnapshot_self .., rfl⟩

/-- What a backup `b` makes of the artifacts of `b`: a new snapshot, a new dump,
and the files under `/hdfs` over those of the copy. -/
structure Artifacts.Renewed (w : World D) (b : Int) (a : Artifacts D) : Prop where
  snapshot : ∃ name, w.config.snapshotName b = .ok name ∧
    a.snapshots name = some w.capture.indices
  hdfs : ∀ rel, a.hdfs rel = (w.capture.hdfs rel).or ((w.artifacts b).hdfs rel)
  hasHdfs : a.hasHdfs = true
  dump : a.dump = some (.dump ⟨w.capture.mysql, true⟩)

theorem Succeeds.renewed (h : Succeeds b ω w) (cnf : String) :
    ((backupStages cnf b).run (World.answer ω) w).1 = .ok () ∧
      Artifacts.Renewed w b (((backupStages cnf b).run (World.answer ω) w).2.artifacts b) := by
  obtain ⟨name, cluster, hname, hstored, hrun⟩ := h.snapshot.run
  obtain ⟨hok, hbacked⟩ := (backed_iff cnf).2 h
  have hdump := hbacked.dump
  refine ⟨hok, ?_⟩
  have hend := backup_end b ω w cnf
  generalize ((backupStages cnf b).run (World.answer ω) w).1 = r at hok hend
  generalize ((backupStages cnf b).run (World.answer ω) w).2 = w' at hend hdump ⊢
  cases hend with
  | unsnapped hsnap => cases hok
  | uncopied hsnap hcopy => cases hok
  | @copied r w₁ w₂ w₃ hsnap hcopy hdump =>
    rw [hrun] at hsnap
    cases hsnap
    obtain ⟨-, rfl⟩ := World.runCopyToLocal_eq_ok_zero_iff.1 hcopy
    cases hdump with
    | noDir | noFile | notStarted => cases hok
    | dumped hdir hopen hending =>
      rw [artifacts_writeDump_self, artifacts_withDumpdir, artifacts_copiedOut_self]
      exact ⟨⟨name, hname, hstored⟩, fun _ => rfl, rfl,
        (World.writeDump_files_self ..).symm.trans hdump⟩

/-- The artifacts of a backup that succeeds hold the capture of its stores. -/
theorem Artifacts.Renewed.holds {a : Artifacts D} (h : Artifacts.Renewed w b a) :
    a.Holds w.config b w.capture where
  snapshot := h.snapshot
  hdfs rel content hcontent := by rw [h.hdfs, hcontent]; rfl
  hasHdfs := h.hasHdfs
  dump := h.dump

end Backup

/-! ## Restore -/

section Restore

variable {b : Int} {ω : Outcomes} {w w' : World D} {c : Capture D} {cnf : String}

/-- The indices an accepted restore leaves. -/
theorem get?_afterRestore_of_captured {snapshot : Snapshot D} {i : String} {content : D}
    (h : snapshot.get? i = some content) (repository : String) :
    (afterRestore b ω w repository snapshot).indices.get? i = some ⟨content, true⟩ := by
  unfold afterRestore Cluster.setOpenIf
  split
  · rw [Cluster.get?_setOpen, Cluster.get?_restored, h]
    rfl
  · rw [Cluster.get?_restored, h]
    rfl

theorem recovered_indices (h : (w.artifacts b).Holds w.config b c)
    (hrun : (restoreIndicesFromFsToDest w.config b).run (World.answer ω) w = (.ok (), w')) :
    ∀ i content, c.indices.get? i = some content →
      w'.cluster.indices.get? i = some ⟨content, true⟩ := by
  have hend := restore_end w.config b ω w
  rw [hrun] at hend
  cases hend with
  | @restored repository seeds snapshot hset hreach haccepts =>
    intro i content hi
    obtain ⟨name, hname, hstored⟩ := h.snapshot
    obtain ⟨name', hname', hstored'⟩ := haccepts.stored
    rw [hname, Except.ok.injEq] at hname'
    rw [← hname'] at hstored'
    cases hstored.symm.trans hstored'
    exact get?_afterRestore_of_captured hi repository

/-- A restore that returns, with the tables sourced, recovers what was captured. -/
theorem Artifacts.Holds.recovered (h : (w.artifacts b).Holds w.config b c)
    (hmysql : ∃ reached, ω.mysql = .exited 0 reached)
    (hrun : (restoreStages cnf b).run (World.answer ω) w = (.ok (), w')) :
    Recovered c w'.stores := by
  have hend := restoreStages_end b ω w cnf
  rw [hrun] at hend
  generalize hr : (.ok () : Except PyExc Unit) = r at hend
  generalize hw : w' = final at hend ⊢
  cases hend with
  | unrestored hrestore => cases hr
  | uncopied hrestore hcopy => cases hr
  | @copied w₁ w₂ hrestore hcopy =>
    obtain ⟨-, -, rfl⟩ := World.runCopyFromLocal_eq_ok_zero_iff.1 hcopy
    obtain ⟨reached, hending⟩ := hmysql
    have hindices := recovered_indices h hrestore
    have hartifacts := artifacts_restoreIndices (ω := ω) (w := w) w.config b b
    rw [hrestore] at hartifacts
    rw [← hartifacts] at h
    have hsource := World.runMysqlSource_zero
      (w := w₁.copiedIn (hdfsDir b) "/hdfs" fun _ => true) reached h.dump
    rw [hending, hsource]
    refine ⟨hindices, ?_, ?_⟩
    · intro rel content hcontent
      have hcopied : w₁.files (joinPath (hdfsDir b) rel) = some content :=
        h.hdfs rel content hcontent
      show (w₁.copiedIn _ _ _).hdfs _ = _
      rw [World.copiedIn_hdfs_joinPath, hcopied]
      rfl
    · intro t content hcontent
      exact World.sourced_mysql_of_some hcontent

end Restore

section Samples

theorem succeeds_smooth (b : Int) {w : World D} (hconfig : w.config = Config.shipped) :
    Succeeds b .smoothNewYear w where
  snapshot :=
    { settings := by rw [hconfig]; exact ⟨_, rfl⟩
      reaches := ⟨rfl, rfl, rfl⟩
      named := by rw [hconfig]; exact ⟨_, rfl, .inr ⟨rfl, rfl⟩⟩
      created := rfl }
  copied := ⟨_, rfl⟩
  dumpdir := .inr rfl
  opened := rfl
  dumped := ⟨_, rfl⟩

/-- An open index, a file and a table. -/
def World.busy : World Nat :=
  { World.logsOnly with
    hdfs := fun path => if path = "/hdfs/run.csv" then some (.data 6) else none
    mysql := fun table => if table = "suites" then some 7 else none }

end Samples

end Edm
