import Edm.Verify.Artifacts
import Edm.Verify.Business
import Edm.Verify.Reopen

/-!
# What the id of a new backup promises

`create_edm_backup` answers with an id. `AllOrNothing` is what a client would
read into that answer, and `allOrNothing_iff` says for which inputs it is true:
exactly when every step on the way succeeds. A snapshot that was not taken and
a dump that broke off go unreported, and the row of a backup that raised stays.
-/

namespace Edm

open Effects Data

variable {D : Type}

/-! ## The snapshot -/

section Snapshot

variable (config : Config) (backupId : Int) (ω : Outcomes) (w : World D)

/-- A snapshot is taken. An old one in its place has to be found and deleted. -/
structure TakesSnapshot : Prop where
  settings : ∃ settings, config.srcSettings = .ok settings
  reaches : SnapshotReaches ω
  named : ∃ name, config.snapshotName backupId = .ok name ∧
    (w.cluster.snapshots (str backupId) name = none ∨
      ω.es .getSnapshot = none ∧ ω.es .deleteSnapshot = none)
  created : ω.es .createSnapshot = none

variable {config backupId ω w}

theorem atSnapshot_eq_none_iff (repository name : String) :
    (atSnapshot backupId ω w repository name).snapshots (str backupId) name = none ↔
      w.cluster.snapshots (str backupId) name = none ∨
        ω.es .getSnapshot = none ∧ ω.es .deleteSnapshot = none := by
  unfold atSnapshot Cluster.dropIf
  split
  · next h => simp [h]
  · next h => simp [h]

theorem TakesSnapshot.accepts (h : TakesSnapshot config backupId ω w) {name : String}
    (hname : config.snapshotName backupId = .ok name) (repository : String) :
    SnapshotAccepts config backupId ω w repository name := by
  obtain ⟨name', hname', hfree⟩ := h.named
  rw [hname, Except.ok.injEq] at hname'
  exact ⟨hname, (atSnapshot_eq_none_iff repository name).2 (hname' ▸ hfree), h.created⟩

/-- The function issues a create call that is accepted, in the location of the
id, exactly when it takes a snapshot. -/
theorem takesSnapshot_iff :
    (∃ name, config.snapshotName backupId = .ok name ∧
      ∃ ev ∈ (snapshotIndicesFromSrcToFs config backupId).log (World.answer ω) w,
        CreatesSnapshot (str backupId) name ev) ↔ TakesSnapshot config backupId ω w := by
  have hend := snapshot_end config backupId ω w
  generalize ((snapshotIndicesFromSrcToFs config backupId).run (World.answer ω) w).1 = r at hend
  generalize ((snapshotIndicesFromSrcToFs config backupId).run (World.answer ω) w).2 = w' at hend
  generalize (snapshotIndicesFromSrcToFs config backupId).log (World.answer ω) w = log at hend ⊢
  have hnone (hlog : CreatesNone log) : ¬∃ name, config.snapshotName backupId = .ok name ∧
      ∃ ev ∈ log, CreatesSnapshot (str backupId) name ev := by
    rintro ⟨name, -, ev, hev, hcreates⟩
    exact hlog ev hev _ _ hcreates
  cases hend with
  | noSettings hset =>
    apply iff_of_false (hnone createsNone_nil)
    intro h
    obtain ⟨settings, hset'⟩ := h.settings
    rw [hset] at hset'
    cases hset'
  | unreached hset hreach hcluster hlog =>
    exact iff_of_false (hnone hlog) fun h => hreach h.reaches
  | unnamed hset hreach hname hlog =>
    apply iff_of_false (hnone hlog)
    intro h
    obtain ⟨name, hname', -⟩ := h.named
    rw [hname] at hname'
    cases hname'
  | untaken hset hreach hname hno hlog =>
    exact iff_of_false (hnone hlog) fun h => hno (h.accepts hname _)
  | @taken repository name seeds log hset hreach haccepts hlog =>
    have htakes : TakesSnapshot config backupId ω w :=
      ⟨⟨_, hset⟩, hreach, ⟨name, haccepts.named,
        (atSnapshot_eq_none_iff repository name).1 haccepts.free⟩, haccepts.accepted⟩
    exact iff_of_true ⟨name, haccepts.named, hlog⟩ htakes

/-- Only missing settings make the function raise. -/
theorem run_snapshotIndices_ok_iff :
    ((snapshotIndicesFromSrcToFs config backupId).run (World.answer ω) w).1 = .ok () ↔
      ∃ settings, config.srcSettings = .ok settings := by
  have hend := snapshot_end config backupId ω w
  generalize ((snapshotIndicesFromSrcToFs config backupId).run (World.answer ω) w).1 = r at hend ⊢
  generalize ((snapshotIndicesFromSrcToFs config backupId).run (World.answer ω) w).2 = w' at hend
  generalize (snapshotIndicesFromSrcToFs config backupId).log (World.answer ω) w = log at hend
  cases hend with
  | noSettings hset => exact iff_of_false nofun (by rintro ⟨s, hs⟩; rw [hset] at hs; cases hs)
  | unreached hset => exact iff_of_true rfl ⟨_, hset⟩
  | unnamed hset => exact iff_of_true rfl ⟨_, hset⟩
  | untaken hset => exact iff_of_true rfl ⟨_, hset⟩
  | taken hset => exact iff_of_true rfl ⟨_, hset⟩

end Snapshot

/-! ## The stages -/

section Stages

variable (b : Int) (ω : Outcomes) (w : World D)

/-- What is left of the stores of `w` when a backup `b` ended in `w'`. -/
structure Backed (w' : World D) (log : List (Event Call Reply PyExc (World D))) : Prop where
  /-- Elasticsearch accepted the snapshot in the location of the id. -/
  snapshot : ∃ name, w.config.snapshotName b = .ok name ∧
    ∃ ev ∈ log, CreatesSnapshot (str b) name ev
  hdfs : ∀ rel content, w.hdfs (joinPath "/hdfs" rel) = some content →
    w'.files (joinPath (hdfsDir b) rel) = some content
  /-- The dump is whole. -/
  dump : w'.files (dumpfilepath b) = some (.dump ⟨w.mysql, true⟩)

/-- Every step of a backup succeeds. -/
structure Succeeds : Prop where
  snapshot : TakesSnapshot w.config b ω w
  copied : ∃ reached, ω.copyToLocal = .exited 0 reached
  dumpdir : DumpdirReady b ω w
  opened : ω.openRaises = false
  dumped : ∃ reached, ω.mysqldump = .exited 0 reached

variable {b ω w}

theorem createsNone_of_calls {α : Type} {p : Py α} (hp : p.Calls fun c => ∀ e, c ≠ .es e)
    (w' : World D) : CreatesNone (p.log (World.answer ω) w') := fun _ hev _ _ =>
  not_createsSnapshot fun _ _ => hp.of_mem_log hev _

/-- The stages after the snapshot issue no client call. -/
theorem mem_log_backupStages_iff {cnf location name : String} :
    (∃ ev ∈ (backupStages cnf b).log (World.answer ω) w, CreatesSnapshot location name ev) ↔
      ∃ ev ∈ (snapshotIndicesFromSrcToFs w.config b).log (World.answer ω) w,
        CreatesSnapshot location name ev := by
  have hread : CreatesNone (readConfig.log (World.answer ω) w) :=
    createsNone_of_calls (calls_readConfig fun _ => nofun) w
  have hrest := createsNone_of_calls (ω := ω) (p := do
      checkOutput (copyToLocal "/hdfs" (hdfsDir b))
      dumpMysql cnf b)
    (.bind (calls_checkOutput (calls_hostCall (fun _ _ => nofun) _)) fun _ =>
      calls_dumpMysql (fun _ _ => nofun) cnf b)
    ((snapshotIndicesFromSrcToFs w.config b).run (World.answer ω) w).2
  unfold backupStages
  rw [Prog.log_bind, run_readConfig]
  dsimp only
  rw [Prog.log_bind]
  simp only [List.mem_append]
  constructor
  · rintro ⟨ev, hev | hev | hev, hcreates⟩
    · exact absurd hcreates (hread ev hev _ _)
    · exact ⟨ev, hev, hcreates⟩
    · split at hev
      · next w' hrun =>
        rw [hrun] at hrest
        exact absurd hcreates (hrest ev hev _ _)
      · cases hev
  · rintro ⟨ev, hev, hcreates⟩
    exact ⟨ev, .inr (.inl hev), hcreates⟩

theorem isThere_dumpdir_copied {w₁ w₂ : World D} {cluster : Cluster D}
    (hw : w₁ = w.setCluster cluster)
    (hcopy : w₁.runCopyToLocal "/hdfs" (hdfsDir b) ω.copyToLocal = (.ok 0, w₂)) :
    w₂.isThere (dumpdir b) = w.isThere (dumpdir b) := by
  obtain ⟨-, rfl⟩ := World.runCopyToLocal_eq_ok_zero_iff.1 hcopy
  subst hw
  unfold World.isThere World.copiedOut World.makeDir
  simp only [Function.update_of_ne (hdfsDir_ne_dumpdir b b).symm]
  rw [copyTree_of_not_below fun rel h => joinPath_hdfsDir_ne_dumpdir b b rel h.symm]
  rfl

/-- A backup returns with all three artifacts made exactly when every step
succeeds. -/
theorem backed_iff (cnf : String) :
    (((backupStages cnf b).run (World.answer ω) w).1 = .ok () ∧
      Backed b w ((backupStages cnf b).run (World.answer ω) w).2
        ((backupStages cnf b).log (World.answer ω) w)) ↔ Succeeds b ω w := by
  have hsettings : ((snapshotIndicesFromSrcToFs w.config b).run (World.answer ω) w).1 = .ok () ↔
      ∃ settings, w.config.srcSettings = .ok settings := run_snapshotIndices_ok_iff
  obtain ⟨cluster, hcluster, -, -⟩ := exists_cluster_snapshot w.config b ω w
  have hsnapshot : (∃ name, w.config.snapshotName b = .ok name ∧
      ∃ ev ∈ (backupStages cnf b).log (World.answer ω) w, CreatesSnapshot (str b) name ev) ↔
      TakesSnapshot w.config b ω w := by
    simp only [mem_log_backupStages_iff]
    exact takesSnapshot_iff
  have hend := backup_end b ω w cnf
  generalize ((backupStages cnf b).run (World.answer ω) w).1 = r at hend ⊢
  generalize ((backupStages cnf b).run (World.answer ω) w).2 = w' at hend ⊢
  generalize (backupStages cnf b).log (World.answer ω) w = log at hsnapshot ⊢
  cases hend with
  | unsnapped h =>
    apply iff_of_false (fun hr => nomatch hr.1)
    intro hs
    have hok := hsettings.2 hs.snapshot.settings
    rw [h] at hok
    cases hok
  | uncopied h hcopy =>
    apply iff_of_false (fun hr => nomatch hr.1)
    intro hs
    obtain ⟨reached, hending⟩ := hs.copied
    rw [hending] at hcopy
    cases hcopy
  | @copied r w₁ w₂ w₃ h hcopy hdump =>
    rw [h] at hcluster
    have hready : DumpdirReady b ω w₂ ↔ DumpdirReady b ω w := by
      unfold DumpdirReady
      rw [isThere_dumpdir_copied hcluster hcopy]
    cases hdump with
    | noDir hdir => exact iff_of_false (fun hr => nomatch hr.1) fun hs => hdir (hready.2 hs.dumpdir)
    | noFile hdir hopen =>
      apply iff_of_false (fun hr => nomatch hr.1)
      intro hs
      rw [hs.opened] at hopen
      cases hopen
    | notStarted hdir hopen hending =>
      apply iff_of_false (fun hr => nomatch hr.1)
      intro hs
      obtain ⟨reached, hending'⟩ := hs.dumped
      rw [hending] at hending'
      cases hending'
    | @dumped returncode reached hdir hopen hending =>
      obtain ⟨hcopied, rfl⟩ := World.runCopyToLocal_eq_ok_zero_iff.1 hcopy
      subst hcluster
      constructor
      · rintro ⟨-, hbacked⟩
        have hdump := hbacked.dump
        rw [World.writeDump_files_self, Option.some.injEq, FileContent.dump.injEq] at hdump
        have hzero : returncode = 0 := of_decide_eq_true (congrArg Dump.completed hdump)
        exact ⟨hsnapshot.1 hbacked.snapshot, hcopied, hready.1 hdir, hopen, reached,
          hzero ▸ hending⟩
      · intro hs
        obtain ⟨reached', hending'⟩ := hs.dumped
        rw [hending, Ending.exited.injEq] at hending'
        obtain ⟨rfl, -⟩ := hending'
        refine ⟨rfl, hsnapshot.2 hs.snapshot, ?_, ?_⟩
        · intro rel content hcontent
          rw [World.writeDump_files_of_ne _ _ _ (joinPath_hdfsDir_ne_dumpfilepath b b rel),
            withDumpdir_files]
          show copyTree _ _ _ _ _ _ = _
          rw [copyTree_joinPath, World.setCluster_hdfs, hcontent]
          rfl
        · rw [World.writeDump_files_self, World.dumped_zero]
          rfl

end Stages

/-! ## The operation -/

/-- An id is answered only for a backup that was made, and an exception leaves
the catalogue as it was. -/
structure AllOrNothing (ω : Outcomes) (w : World D) (data : TitleBody) : Prop where
  all : ∀ b, ((createEdmBackup data).run (World.answer ω) w).1 = .ok b →
    Backed b w ((createEdmBackup data).run (World.answer ω) w).2
      ((createEdmBackup data).log (World.answer ω) w)
  nothing : ∀ e, ((createEdmBackup data).run (World.answer ω) w).1 = .error e →
    ((createEdmBackup data).run (World.answer ω) w).2.backups = w.backups

section Operation

variable {ω : Outcomes} {w : World D}

/-- The row of a new backup is not in the table before. -/
theorem withBackup_ne (title : Option String) : (w.withBackup ω title).backups ≠ w.backups := by
  intro h
  have hfind := congrArg (Table.find? · w.backups.nextId) h
  simp [World.withBackup, Table.find?_nextId] at hfind

theorem mem_log_createEdmBackup_iff {data : TitleBody} {location name : String} :
    (∃ ev ∈ (createEdmBackup data).log (World.answer ω) w, CreatesSnapshot location name ev) ↔
      ∃ ev ∈ (backupStages "mysqlbackup.cnf" w.backups.nextId).log (World.answer ω)
          (w.withBackup ω data.title), CreatesSnapshot location name ev := by
  have hinsert : CreatesNone ((insertBackup data.title "INITIATED").log (World.answer ω) w) :=
    createsNone_of_calls (calls_dbCall fun _ => nofun) w
  have hlog : (do
      backupStages "mysqlbackup.cnf" w.backups.nextId
      pure w.backups.nextId : Py Int).log (World.answer ω) (w.withBackup ω data.title) =
      (backupStages "mysqlbackup.cnf" w.backups.nextId).log (World.answer ω)
        (w.withBackup ω data.title) := by
    rw [Prog.log_bind]
    split <;> exact List.append_nil _
  unfold createEdmBackup
  rw [Prog.log_bind, run_insertBackup]
  simp only [List.mem_append]
  rw [World.withBackup] at hlog ⊢
  rw [hlog]
  constructor
  · rintro ⟨ev, hev | hev, hcreates⟩
    · exact absurd hcreates (hinsert ev hev _ _)
    · exact ⟨ev, hev, hcreates⟩
  · rintro ⟨ev, hev, hcreates⟩
    exact ⟨ev, .inr hev, hcreates⟩

theorem succeeds_withBackup {b : Int} (title : Option String) :
    Succeeds b ω (w.withBackup ω title) ↔ Succeeds b ω w := by
  constructor
  · rintro ⟨⟨hset, hreach, hname, hcreated⟩, hcopied, hdir, hopened, hdumped⟩
    exact ⟨⟨hset, hreach, hname, hcreated⟩, hcopied, hdir, hopened, hdumped⟩
  · rintro ⟨⟨hset, hreach, hname, hcreated⟩, hcopied, hdir, hopened, hdumped⟩
    exact ⟨⟨hset, hreach, hname, hcreated⟩, hcopied, hdir, hopened, hdumped⟩

end Operation

/-- **Which backups are all or nothing**: those whose steps all succeed. -/
theorem allOrNothing_iff (ω : Outcomes) (w : World D) (data : TitleBody) :
    AllOrNothing ω w data ↔ Succeeds w.backups.nextId ω w := by
  have hbacked := backed_iff (b := w.backups.nextId) (ω := ω) (w := w.withBackup ω data.title)
    "mysqlbackup.cnf"
  have hrows := (sameCatalogue_backupStages (ω := ω) (w := w.withBackup ω data.title)
    "mysqlbackup.cnf" w.backups.nextId).backups
  rw [← succeeds_withBackup data.title, ← hbacked]
  constructor
  · rintro ⟨hall, hnothing⟩
    rw [run_createEdmBackup] at hall hnothing
    cases hrun : ((backupStages "mysqlbackup.cnf" w.backups.nextId).run (World.answer ω)
        (w.withBackup ω data.title)).1 with
    | error e =>
      rw [hrun] at hnothing
      exact absurd (hrows.symm.trans (hnothing e rfl)) (withBackup_ne data.title)
    | ok _ =>
      rw [hrun] at hall
      obtain ⟨⟨name, hname, hlog⟩, hhdfs, hdump⟩ := hall _ rfl
      exact ⟨rfl, ⟨name, hname, mem_log_createEdmBackup_iff.1 hlog⟩, hhdfs, hdump⟩
  · rintro ⟨hok, ⟨name, hname, hlog⟩, hhdfs, hdump⟩
    constructor
    · intro b hb
      rw [run_createEdmBackup, hok] at hb
      cases hb
      rw [run_createEdmBackup]
      exact ⟨⟨name, hname, mem_log_createEdmBackup_iff.2 hlog⟩, hhdfs, hdump⟩
    · intro e he
      rw [run_createEdmBackup, hok] at he
      cases he

/-- Everything goes well but mysqldump, which exits 2 and has dumped nothing. -/
def Outcomes.dumpFails : Outcomes :=
  { Outcomes.smoothNewYear with mysqldump := .exited 2 fun _ => false }

/-- The id of a backup without a dump. -/
theorem backup_answers_without_dump :
    ((createEdmBackup ⟨some "nightly"⟩).run (World.answer .dumpFails) World.logsOnly).1 = .ok 1 ∧
      ¬AllOrNothing .dumpFails World.logsOnly ⟨some "nightly"⟩ := by
  refine ⟨rfl, ?_⟩
  intro h
  have hdump := (h.all 1 rfl).dump
  have hbroken : ((createEdmBackup ⟨some "nightly"⟩).run (World.answer .dumpFails)
      World.logsOnly).2.files (dumpfilepath 1) = some (.dump ⟨fun _ => none, false⟩) := rfl
  rw [hbroken] at hdump
  cases hdump

end Edm
