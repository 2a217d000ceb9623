import Edm.Service.Stages
import Edm.Verify.Esutils

/-!
# How the stages end

`BackupEnd` and `RestoreStagesEnd` follow a backup and a restore through their
stages, each with the answer that ended it and the world it left.
-/

namespace Edm

open Effects Data

variable {D : Type}

/-! ## Single calls -/

section Calls

variable (ω : Outcomes) (w : World D)

theorem run_hostCall (c : HostCall) :
    (hostCall c).run (World.answer ω) w = w.answerHost ω c := by
  unfold hostCall
  rw [Prog.run_perform]
  rfl

@[simp] theorem run_copyToLocal (source target : String) :
    (copyToLocal source target).run (World.answer ω) w =
      w.runCopyToLocal source target ω.copyToLocal := run_hostCall ω w _

@[simp] theorem run_copyFromLocal (source target : String) :
    (copyFromLocal source target).run (World.answer ω) w =
      w.runCopyFromLocal source target ω.copyFromLocal := run_hostCall ω w _

@[simp] theorem run_pathExists (path : String) :
    (pathExists path).run (World.answer ω) w = (.ok (w.isThere path), w) :=
  run_hostCall ω w _

@[simp] theorem run_makedirs (path : String) :
    (makedirs path).run (World.answer ω) w =
      if ω.makedirsRaises then (.error .osError, w) else (.ok (), w.makeDir path) :=
  run_hostCall ω w _

@[simp] theorem run_openForWriting (path : String) :
    (openForWriting path).run (World.answer ω) w =
      if ω.openRaises then (.error .osError, w)
      else (.ok (), w.writeDump path ⟨fun _ => none, false⟩) := run_hostCall ω w _

@[simp] theorem run_mysqldump (cnf target : String) :
    (mysqldump cnf target).run (World.answer ω) w =
      w.runMysqldump target ω.mysqldump := run_hostCall ω w _

@[simp] theorem run_mysqlSource (cnf script : String) :
    (mysqlSource cnf script).run (World.answer ω) w =
      w.runMysqlSource script ω.mysql := run_hostCall ω w _

@[simp] theorem run_readConfig : readConfig.run (World.answer ω) w = (.ok w.config, w) := by
  unfold readConfig
  rw [Prog.run_perform]
  rfl

/-- What `check_output` makes of the answer of a process. -/
def checked : Except PyExc Int → Except PyExc Unit
  | .ok returncode => if returncode = 0 then .ok () else .error (.calledProcessError returncode)
  | .error e => .error e

theorem checked_eq_ok_iff {x : Except PyExc Int} : checked x = .ok () ↔ x = .ok 0 := by
  cases x with
  | error e => simp [checked]
  | ok returncode => by_cases h : returncode = 0 <;> simp [checked, h]

theorem run_checkOutput (command : Py Int) :
    (checkOutput command).run (World.answer ω) w =
      (checked (command.run (World.answer ω) w).1, (command.run (World.answer ω) w).2) := by
  unfold checkOutput
  rw [Prog.run_bind]
  rcases command.run (World.answer ω) w with ⟨e | returncode, w'⟩
  · rfl
  · by_cases h : returncode = 0 <;> simp [checked, h]

end Calls

/-! ## Kinds of calls -/

section Kinds

variable {P : Call → Prop}

theorem calls_snapshotIndices (hes : ∀ c, P (.es c)) (config : Config) (backupId : Int) :
    (snapshotIndicesFromSrcToFs config backupId).Calls P :=
  (Task.calls_prog config (.snapshot backupId)).mono fun _ h => by cases h <;> exact hes _

theorem calls_restoreIndices (hes : ∀ c, P (.es c)) (config : Config) (backupId : Int) :
    (restoreIndicesFromFsToDest config backupId).Calls P :=
  (Task.calls_prog config (.restore backupId)).mono fun _ h => by cases h <;> exact hes _

theorem calls_checkOutput {command : Py Int} (h : command.Calls P) :
    (checkOutput command).Calls P := by
  refine .bind h ?_
  intro returncode
  split
  · exact .pure ()
  · exact .raise _

theorem calls_hostCall (hhost : ∀ c, P (.host c)) (c : HostCall) : (hostCall c).Calls P :=
  Prog.Calls.perform.2 (hhost c)

theorem calls_readConfig (hread : P .readConfig) : readConfig.Calls P :=
  Prog.Calls.perform.2 hread

theorem calls_dumpMysql (hhost : ∀ c, P (.host c)) (cnf : String) (backupId : Int) :
    (dumpMysql cnf backupId).Calls P := by
  refine .bind (.bind (calls_hostCall hhost _) fun isThere => ?_) fun _ =>
    .bind (calls_hostCall hhost _) fun _ => .bind (calls_hostCall hhost _) fun _ => .pure ()
  split
  · exact .pure ()
  · exact calls_hostCall hhost _

theorem calls_backupStages (hes : ∀ c, P (.es c)) (hhost : ∀ c, P (.host c))
    (hread : P .readConfig) (cnf : String) (backupId : Int) :
    (backupStages cnf backupId).Calls P :=
  .bind (calls_readConfig hread) fun _ => .bind (calls_snapshotIndices hes _ _) fun _ =>
    .bind (calls_checkOutput (calls_hostCall hhost _)) fun _ => calls_dumpMysql hhost cnf backupId

theorem calls_restoreStages (hes : ∀ c, P (.es c)) (hhost : ∀ c, P (.host c))
    (hread : P .readConfig) (cnf : String) (backupId : Int) :
    (restoreStages cnf backupId).Calls P := by
  refine .bind (calls_readConfig hread) fun _ => .bind (calls_restoreIndices hes _ _) fun _ =>
    .bind (calls_checkOutput (calls_hostCall hhost _)) fun _ =>
      .bind (calls_hostCall hhost _) fun returncode => ?_
  split
  · exact .raise _
  · exact .pure ()

end Kinds

/-- The stages leave the config and the catalogue alone. -/
structure SameCatalogue (w w' : World D) : Prop where
  config : w'.config = w.config
  backups : w'.backups = w.backups
  restores : w'.restores = w.restores

section SameCatalogue

variable {ω : Outcomes} {w : World D}

theorem SameCatalogue.refl (w : World D) : SameCatalogue w w := ⟨rfl, rfl, rfl⟩

theorem SameCatalogue.trans {w₁ w₂ w₃ : World D} (h : SameCatalogue w₁ w₂)
    (h' : SameCatalogue w₂ w₃) : SameCatalogue w₁ w₃ :=
  ⟨h'.config.trans h.config, h'.backups.trans h.backups, h'.restores.trans h.restores⟩

theorem sameCatalogue_runCopyToLocal (source target : String) (e : Ending) :
    SameCatalogue w (w.runCopyToLocal source target e).2 := by
  cases e <;> exact ⟨rfl, rfl, rfl⟩

theorem sameCatalogue_runCopyFromLocal (source target : String) (e : Ending) :
    SameCatalogue w (w.runCopyFromLocal source target e).2 := by
  unfold World.runCopyFromLocal
  split
  · exact .refl w
  · split <;> exact ⟨rfl, rfl, rfl⟩

theorem sameCatalogue_runMysqldump (target : String) (e : Ending) :
    SameCatalogue w (w.runMysqldump target e).2 := by
  cases e <;> exact ⟨rfl, rfl, rfl⟩

theorem sameCatalogue_runMysqlSource (script : String) (e : Ending) :
    SameCatalogue w (w.runMysqlSource script e).2 := by
  unfold World.runMysqlSource
  split
  · exact .refl w
  · split <;> exact ⟨rfl, rfl, rfl⟩

theorem sameCatalogue_answerHost (c : HostCall) : SameCatalogue w (w.answerHost ω c).2 := by
  cases c with
  | copyToLocal source target => exact sameCatalogue_runCopyToLocal source target _
  | copyFromLocal source target => exact sameCatalogue_runCopyFromLocal source target _
  | pathExists path => exact .refl w
  | makedirs path =>
    cases h : ω.makedirsRaises <;> simp only [World.answerHost, h] <;> exact ⟨rfl, rfl, rfl⟩
  | openForWriting path =>
    cases h : ω.openRaises <;> simp only [World.answerHost, h] <;> exact ⟨rfl, rfl, rfl⟩
  | mysqldump cnf target => exact sameCatalogue_runMysqldump target _
  | mysqlSource cnf script => exact sameCatalogue_runMysqlSource script _

theorem sameCatalogue_answer {c : Call} (h : ∀ d, c ≠ .db d) :
    SameCatalogue w (World.answer ω c w).2 := by
  cases c with
  | es c => exact ⟨rfl, rfl, rfl⟩
  | host c => exact sameCatalogue_answerHost c
  | db d => exact absurd rfl (h d)
  | readConfig => exact .refl w

theorem sameCatalogue_run {α : Type} {p : Py α} (h : p.Calls fun c => ∀ d, c ≠ .db d) :
    SameCatalogue w (p.run (World.answer ω) w).2 :=
  h.run_preserves (m := World.answer ω) (I := SameCatalogue w)
    (fun _ _ hc hw => hw.trans (sameCatalogue_answer hc)) (.refl w)

theorem sameCatalogue_backupStages (cnf : String) (backupId : Int) :
    SameCatalogue w ((backupStages cnf backupId).run (World.answer ω) w).2 :=
  sameCatalogue_run (calls_backupStages (fun _ _ => nofun) (fun _ _ => nofun) (fun _ => nofun) _ _)

theorem sameCatalogue_restoreStages (cnf : String) (backupId : Int) :
    SameCatalogue w ((restoreStages cnf backupId).run (World.answer ω) w).2 :=
  sameCatalogue_run
    (calls_restoreStages (fun _ _ => nofun) (fun _ _ => nofun) (fun _ => nofun) _ _)

end SameCatalogue

/-! ## Backup -/

section Backup

variable (backupId : Int) (ω : Outcomes) (w : World D)

/-- The world with the directory of the dump in it. -/
def World.withDumpdir : World D :=
  if w.isThere (dumpdir backupId) then w else w.makeDir (dumpdir backupId)

/-- The directory of the dump is there or can be made. -/
def DumpdirReady : Prop := w.isThere (dumpdir backupId) = true ∨ ω.makedirsRaises = false

/-- The ends of the MySQL stage of a backup. -/
inductive DumpEnd : Except PyExc Unit → World D → Prop where
  | noDir (h : ¬DumpdirReady backupId ω w) : DumpEnd (.error .osError) w
  | noFile (hdir : DumpdirReady backupId ω w) (h : ω.openRaises = true) :
      DumpEnd (.error .osError) (w.withDumpdir backupId)
  | notStarted (hdir : DumpdirReady backupId ω w) (hopen : ω.openRaises = false)
      (h : ω.mysqldump = .notStarted) :
      DumpEnd (.error .osError)
        ((w.withDumpdir backupId).writeDump (dumpfilepath backupId) ⟨fun _ => none, false⟩)
  | dumped {returncode : Int} {reached : String → Bool} (hdir : DumpdirReady backupId ω w)
      (hopen : ω.openRaises = false) (h : ω.mysqldump = .exited returncode reached) :
      DumpEnd (.ok ())
        ((w.withDumpdir backupId).writeDump (dumpfilepath backupId) (w.dumped returncode reached))

@[simp] theorem withDumpdir_mysql : (w.withDumpdir backupId).mysql = w.mysql := by
  unfold World.withDumpdir
  split <;> rfl

@[simp] theorem withDumpdir_files : (w.withDumpdir backupId).files = w.files := by
  unfold World.withDumpdir
  split <;> rfl

theorem run_makeDumpdir :
    (DumpdirReady backupId ω w ∧ (makeDumpdir backupId).run (World.answer ω) w =
      (.ok (), w.withDumpdir backupId)) ∨
    ¬DumpdirReady backupId ω w ∧ (makeDumpdir backupId).run (World.answer ω) w =
      (.error .osError, w) := by
  unfold makeDumpdir DumpdirReady World.withDumpdir
  simp only [Prog.run_bind, run_pathExists]
  cases hthere : w.isThere (dumpdir backupId) with
  | true => exact .inl ⟨.inl rfl, rfl⟩
  | false =>
    simp only [Bool.false_eq_true, if_false, run_makedirs]
    cases hraise : ω.makedirsRaises with
    | false => exact .inl ⟨.inr rfl, rfl⟩
    | true => exact .inr ⟨by simp, rfl⟩

theorem dump_end (cnf : String) :
    DumpEnd backupId ω w ((dumpMysql cnf backupId).run (World.answer ω) w).1
      ((dumpMysql cnf backupId).run (World.answer ω) w).2 := by
  unfold dumpMysql
  simp only [Prog.run_bind, run_openForWriting, run_mysqldump]
  rcases run_makeDumpdir backupId ω w with ⟨hdir, hrun⟩ | ⟨hdir, hrun⟩
  · rw [hrun]
    cases hopen : ω.openRaises with
    | true => exact .noFile hdir hopen
    | false =>
      cases hdump : ω.mysqldump with
      | notStarted => exact .notStarted hdir hopen hdump
      | exited returncode reached =>
        have hend := DumpEnd.dumped hdir hopen hdump
        have hdumped : (((w.withDumpdir backupId).writeDump (dumpfilepath backupId)
            ⟨fun _ => none, false⟩).dumped returncode reached) = w.dumped returncode reached := by
          simp [World.dumped, World.writeDump]
        rw [← hdumped, ← World.writeDump_writeDump _ _ ⟨fun _ => none, false⟩] at hend
        exact hend
  · rw [hrun]
    exact .noDir hdir

/-- The ends of a backup. -/
inductive BackupEnd : Except PyExc Unit → World D → Prop where
  | unsnapped {e : PyExc} {w₁ : World D}
      (h : (snapshotIndicesFromSrcToFs w.config backupId).run (World.answer ω) w = (.error e, w₁)) :
      BackupEnd (.error e) w₁
  | uncopied {e : PyExc} {w₁ : World D}
      (h : (snapshotIndicesFromSrcToFs w.config backupId).run (World.answer ω) w = (.ok (), w₁))
      (hcopy : checked (w₁.runCopyToLocal "/hdfs" (hdfsDir backupId) ω.copyToLocal).1 = .error e) :
      BackupEnd (.error e) (w₁.runCopyToLocal "/hdfs" (hdfsDir backupId) ω.copyToLocal).2
  | copied {r : Except PyExc Unit} {w₁ w₂ w₃ : World D}
      (h : (snapshotIndicesFromSrcToFs w.config backupId).run (World.answer ω) w = (.ok (), w₁))
      (hcopy : w₁.runCopyToLocal "/hdfs" (hdfsDir backupId) ω.copyToLocal = (.ok 0, w₂))
      (hdump : DumpEnd backupId ω w₂ r w₃) : BackupEnd r w₃

theorem backup_end (cnf : String) :
    BackupEnd backupId ω w ((backupStages cnf backupId).run (World.answer ω) w).1
      ((backupStages cnf backupId).run (World.answer ω) w).2 := by
  unfold backupStages
  simp only [Prog.run_bind, run_readConfig, run_checkOutput, run_copyToLocal]
  rcases hsnap : (snapshotIndicesFromSrcToFs w.config backupId).run (World.answer ω) w with
    ⟨e | _, w₁⟩
  · exact .unsnapped hsnap
  · simp only
    rcases hcopy : w₁.runCopyToLocal "/hdfs" (hdfsDir backupId) ω.copyToLocal with ⟨x, w₂⟩
    cases hx : checked x with
    | error e =>
      have hend := BackupEnd.uncopied (e := e) hsnap (by rw [hcopy]; exact hx)
      rw [hcopy] at hend
      exact hend
    | ok _ =>
      rw [checked_eq_ok_iff.1 hx] at hcopy
      exact .copied hsnap hcopy (dump_end backupId ω w₂ cnf)

end Backup

/-! ## Restore -/

section Restore

variable (backupId : Int) (ω : Outcomes) (w : World D)

/-- What the MySQL stage of a restore makes of the answer of the client. -/
def exitUnlessDone : Except PyExc Int → Except PyExc Unit
  | .ok returncode => if 0 < returncode then .error (.systemExit 1) else .ok ()
  | .error e => .error e

theorem run_sourceMysql (cnf : String) :
    (sourceMysql cnf backupId).run (World.answer ω) w =
      (exitUnlessDone (w.runMysqlSource (dumpfilepath backupId) ω.mysql).1,
        (w.runMysqlSource (dumpfilepath backupId) ω.mysql).2) := by
  unfold sourceMysql
  simp only [Prog.run_bind, run_mysqlSource]
  rcases w.runMysqlSource (dumpfilepath backupId) ω.mysql with ⟨e | returncode, w'⟩
  · rfl
  · by_cases h : 0 < returncode <;> simp [exitUnlessDone, h]

/-- The ends of the stages of a restore. -/
inductive RestoreStagesEnd : Except PyExc Unit → World D → Prop where
  | unrestored {e : PyExc} {w₁ : World D}
      (h : (restoreIndicesFromFsToDest w.config backupId).run (World.answer ω) w = (.error e, w₁)) :
      RestoreStagesEnd (.error e) w₁
  | uncopied {e : PyExc} {w₁ : World D}
      (h : (restoreIndicesFromFsToDest w.config backupId).run (World.answer ω) w = (.ok (), w₁))
      (hcopy :
        checked (w₁.runCopyFromLocal (hdfsDir backupId) "/hdfs" ω.copyFromLocal).1 = .error e) :
      RestoreStagesEnd (.error e) (w₁.runCopyFromLocal (hdfsDir backupId) "/hdfs" ω.copyFromLocal).2
  | copied {w₁ w₂ : World D}
      (h : (restoreIndicesFromFsToDest w.config backupId).run (World.answer ω) w = (.ok (), w₁))
      (hcopy : w₁.runCopyFromLocal (hdfsDir backupId) "/hdfs" ω.copyFromLocal = (.ok 0, w₂)) :
      RestoreStagesEnd (exitUnlessDone (w₂.runMysqlSource (dumpfilepath backupId) ω.mysql).1)
        (w₂.runMysqlSource (dumpfilepath backupId) ω.mysql).2

theorem restoreStages_end (cnf : String) :
    RestoreStagesEnd backupId ω w ((restoreStages cnf backupId).run (World.answer ω) w).1
      ((restoreStages cnf backupId).run (World.answer ω) w).2 := by
  unfold restoreStages
  simp only [Prog.run_bind, run_readConfig, run_checkOutput, run_copyFromLocal]
  rcases hrestore : (restoreIndicesFromFsToDest w.config backupId).run (World.answer ω) w with
    ⟨e | _, w₁⟩
  · exact .unrestored hrestore
  · simp only
    rcases hcopy : w₁.runCopyFromLocal (hdfsDir backupId) "/hdfs" ω.copyFromLocal with ⟨x, w₂⟩
    cases hx : checked x with
    | error e =>
      have hend := RestoreStagesEnd.uncopied (e := e) hrestore (by rw [hcopy]; exact hx)
      rw [hcopy] at hend
      exact hend
    | ok _ =>
      rw [checked_eq_ok_iff.1 hx] at hcopy
      simp only [run_sourceMysql]
      exact .copied hrestore hcopy

end Restore

end Edm
