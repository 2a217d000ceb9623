import Edm.Verify.Stages

/-!
# The artifacts of an id

Everything a backup leaves on disk is found under its id: the snapshots of one
location, the files below one directory and one dump. `World.artifacts` reads
them off, and the frames below say that a backup of another id and a restore of
any id leave them as they are.
-/

namespace Edm

open Effects Data

variable {D : Type}

/-! ## Paths -/

theorem hdfs_ne_mysql (r s : String) : "/backup/hdfs/" ++ r ≠ "/backup/mysql/" ++ s := by
  intro h
  have hchar := congrArg (fun path : String => path.toList[8]?) h
  simp [String.toList_append] at hchar

theorem hdfsDir_ne_dumpdir (b c : Int) : hdfsDir b ≠ dumpdir c := hdfs_ne_mysql _ _

theorem joinPath_append (base dir rel : String) :
    joinPath (base ++ dir) rel = base ++ joinPath dir rel := by
  simp only [joinPath, String.append_assoc]

theorem joinPath_hdfsDir_ne_dumpdir (b c : Int) (rel : String) :
    joinPath (hdfsDir b) rel ≠ dumpdir c := by
  rw [hdfsDir, joinPath_append]
  exact hdfs_ne_mysql _ _

theorem joinPath_hdfsDir_ne_dumpfilepath (b c : Int) (rel : String) :
    joinPath (hdfsDir b) rel ≠ dumpfilepath c := by
  rw [dumpfilepath, dumpdir, hdfsDir, joinPath_append, joinPath_append]
  exact hdfs_ne_mysql _ _

theorem hdfsDir_inj {b c : Int} (h : hdfsDir b = hdfsDir c) : b = c :=
  str_inj (String.append_right_inj _ |>.1 h)

theorem joinPath_hdfsDir_inj {b c : Int} {r s : String}
    (h : joinPath (hdfsDir b) r = joinPath (hdfsDir c) s) : b = c :=
  str_inj (joinPath_append_inj (slash_notMem_str b) (slash_notMem_str c) h).1

theorem dumpfilepath_inj {b c : Int} (h : dumpfilepath b = dumpfilepath c) : b = c :=
  str_inj (joinPath_append_inj (slash_notMem_str b) (slash_notMem_str c) h).1

/-! ## Artifacts -/

/-- What is on disk under one id. -/
structure Artifacts (D : Type) where
  /-- The snapshots in the location, by name. -/
  snapshots : String → Option (Snapshot D)
  /-- The files of the HDFS copy, by their path below its directory. -/
  hdfs : String → Option (FileContent D)
  hasHdfs : Bool
  dump : Option (FileContent D)

def World.artifacts (w : World D) (b : Int) : Artifacts D where
  snapshots := w.cluster.snapshots (str b)
  hdfs rel := w.files (joinPath (hdfsDir b) rel)
  hasHdfs := w.dirs (hdfsDir b)
  dump := w.files (dumpfilepath b)

/-! ## The artifacts of the id itself -/

section Own

variable (w : World D) (b : Int)

/-- A copy that goes well lays the files under `/hdfs` over those of the copy. -/
theorem artifacts_copiedOut_self :
    (w.copiedOut "/hdfs" (hdfsDir b) fun _ => true).artifacts b =
      { w.artifacts b with
        hdfs := fun rel => (w.hdfs (joinPath "/hdfs" rel)).or ((w.artifacts b).hdfs rel)
        hasHdfs := true } := by
  unfold World.artifacts World.copiedOut World.makeDir
  simp only [copyTree_joinPath, Function.update_self, Artifacts.mk.injEq, true_and]
  exact copyTree_of_not_below fun rel h => joinPath_hdfsDir_ne_dumpfilepath b b rel h.symm

theorem artifacts_writeDump_self (d : Dump D) :
    (w.writeDump (dumpfilepath b) d).artifacts b =
      { w.artifacts b with dump := some (.dump d) } := by
  unfold World.artifacts World.writeDump
  simp only [Function.update_self, Function.update_of_ne (joinPath_hdfsDir_ne_dumpfilepath b b _)]

end Own

/-! ## Frames -/

section Frames

variable {ω : Outcomes} {w : World D}

/-- A world with the same snapshots in the location of `b` and the same files
and directories has the same artifacts. -/
theorem artifacts_congr {w w' : World D} {b : Int}
    (hsnap : w'.cluster.snapshots (str b) = w.cluster.snapshots (str b))
    (hfiles : w'.files = w.files) (hdirs : w'.dirs = w.dirs) : w'.artifacts b = w.artifacts b := by
  unfold World.artifacts
  rw [hsnap, hfiles, hdirs]

theorem artifacts_setCluster {cluster : Cluster D} {b : Int}
    (h : cluster.snapshots (str b) = w.cluster.snapshots (str b)) :
    (w.setCluster cluster).artifacts b = w.artifacts b := artifacts_congr h rfl rfl

theorem artifacts_runCopyToLocal {b c : Int} (hne : c ≠ b) (e : Ending) :
    (w.runCopyToLocal "/hdfs" (hdfsDir c) e).2.artifacts b = w.artifacts b := by
  cases e with
  | notStarted => rfl
  | exited returncode reached =>
    have hother (path : String) (hpath : ∀ rel, path ≠ joinPath (hdfsDir c) rel) :
        copyTree "/hdfs" (hdfsDir c) (handled returncode reached) w.hdfs w.files path =
          w.files path := copyTree_of_not_below hpath
    unfold World.artifacts World.runCopyToLocal
    simp only [Artifacts.mk.injEq]
    refine ⟨rfl, ?_, ?_, ?_⟩
    · funext rel
      exact hother _ fun rel' h => hne (joinPath_hdfsDir_inj h).symm
    · exact Function.update_of_ne (fun h => hne (hdfsDir_inj h).symm) _ _
    · exact hother _ fun rel' h => joinPath_hdfsDir_ne_dumpfilepath c b rel' h.symm

theorem artifacts_withDumpdir (b c : Int) : (w.withDumpdir c).artifacts b = w.artifacts b := by
  unfold World.withDumpdir
  split
  · rfl
  · unfold World.artifacts World.makeDir
    simp only [Function.update_of_ne (hdfsDir_ne_dumpdir b c)]

theorem artifacts_writeDump {b c : Int} (hne : c ≠ b) (d : Dump D) :
    (w.writeDump (dumpfilepath c) d).artifacts b = w.artifacts b := by
  unfold World.artifacts World.writeDump
  simp only [Function.update_of_ne (joinPath_hdfsDir_ne_dumpfilepath b c _),
    Function.update_of_ne fun h => hne (dumpfilepath_inj h).symm]

theorem artifacts_dump_end {b c : Int} (hne : c ≠ b) {r : Except PyExc Unit} {w' : World D}
    (h : DumpEnd c ω w r w') : w'.artifacts b = w.artifacts b := by
  cases h with
  | noDir h => rfl
  | noFile hdir h => exact artifacts_withDumpdir b c
  | notStarted hdir hopen h => exact (artifacts_writeDump hne _).trans (artifacts_withDumpdir b c)
  | dumped hdir hopen h => exact (artifacts_writeDump hne _).trans (artifacts_withDumpdir b c)

/-- A backup leaves the artifacts of other ids alone, however it ends. -/
theorem artifacts_backupStages {b c : Int} (hne : c ≠ b) (cnf : String) :
    ((backupStages cnf c).run (World.answer ω) w).2.artifacts b = w.artifacts b := by
  have hsnap : (((snapshotIndicesFromSrcToFs w.config c).run (World.answer ω) w).2).artifacts b =
      w.artifacts b := by
    obtain ⟨cluster, hrun, -, hsnapshots⟩ := exists_cluster_snapshot w.config c ω w
    rw [hrun]
    exact artifacts_setCluster (hsnapshots _ fun h => hne (str_inj h).symm)
  have hend := backup_end c ω w cnf
  generalize ((backupStages cnf c).run (World.answer ω) w).1 = r at hend
  generalize ((backupStages cnf c).run (World.answer ω) w).2 = w' at hend ⊢
  cases hend with
  | unsnapped h =>
    rw [h] at hsnap
    exact hsnap
  | uncopied h hcopy =>
    rw [h] at hsnap
    exact (artifacts_runCopyToLocal hne _).trans hsnap
  | @copied r w₁ w₂ w₃ h hcopy hdump =>
    rw [h] at hsnap
    have hcopied : w₂.artifacts b = w₁.artifacts b := by
      have hframe := artifacts_runCopyToLocal (w := w₁) hne ω.copyToLocal
      rw [hcopy] at hframe
      exact hframe
    exact (artifacts_dump_end hne hdump).trans (hcopied.trans hsnap)

theorem artifacts_runCopyFromLocal (b : Int) (source target : String) (e : Ending) :
    (w.runCopyFromLocal source target e).2.artifacts b = w.artifacts b := by
  unfold World.runCopyFromLocal
  split
  · rfl
  · split <;> rfl

theorem artifacts_runMysqlSource (b : Int) (script : String) (e : Ending) :
    (w.runMysqlSource script e).2.artifacts b = w.artifacts b := by
  unfold World.runMysqlSource
  split
  · rfl
  · split <;> rfl

theorem artifacts_restoreIndices (config : Config) (b c : Int) :
    ((restoreIndicesFromFsToDest config c).run (World.answer ω) w).2.artifacts b =
      w.artifacts b := by
  obtain ⟨cluster, hrun, hsnapshots⟩ := exists_cluster_restore config c ω w
  rw [hrun]
  exact artifacts_setCluster (by rw [hsnapshots])

/-- A restore leaves all artifacts alone, however it ends. -/
theorem artifacts_restoreStages (b c : Int) (cnf : String) :
    ((restoreStages cnf c).run (World.answer ω) w).2.artifacts b = w.artifacts b := by
  have hrestore := artifacts_restoreIndices (ω := ω) (w := w) w.config b c
  have hend := restoreStages_end c ω w cnf
  generalize ((restoreStages cnf c).run (World.answer ω) w).1 = r at hend
  generalize ((restoreStages cnf c).run (World.answer ω) w).2 = w' at hend ⊢
  cases hend with
  | unrestored h =>
    rw [h] at hrestore
    exact hrestore
  | uncopied h hcopy =>
    rw [h] at hrestore
    exact (artifacts_runCopyFromLocal b _ _ _).trans hrestore
  | @copied w₁ w₂ h hcopy =>
    rw [h] at hrestore
    have hcopied : w₂.artifacts b = w₁.artifacts b := by
      have hframe := artifacts_runCopyFromLocal (w := w₁) b (hdfsDir c) "/hdfs" ω.copyFromLocal
      rw [hcopy] at hframe
      exact hframe
    exact (artifacts_runMysqlSource b _ _).trans (hcopied.trans hrestore)

end Frames

end Edm
