import Edm.Effects.Rely
import Edm.Verify.Overlap
import Edm.Verify.Survival

/-!
# Jobs at the same time

Nothing keeps the jobs apart, and two backups that overlap can store their
snapshots in each other's location. A finished backup is safe from them all the
same: what is written in its location by others has another name
(`backup_survives_concurrent`). A job that stops early has died.
-/

namespace Edm

open Effects Data

variable {D : Type}

/-! ## Single calls -/

/-- The call leaves what is kept of the backup `b` alone. -/
def Call.Spares (config : Config) (b : Int) : Call → Prop
  | .es (.deleteSnapshot _ name) => config.snapshotName b ≠ .ok name
  | .es (.createSnapshot _ name) => config.snapshotName b ≠ .ok name
  | .host (.copyToLocal source target) => source = "/hdfs" ∧ ∃ b', b' ≠ b ∧ target = hdfsDir b'
  | .host (.makedirs path) => ∃ b', b' ≠ b ∧ path = dumpdir b'
  | .host (.openForWriting path) => ∃ b', b' ≠ b ∧ path = dumpfilepath b'
  | .host (.mysqldump _ target) => ∃ b', b' ≠ b ∧ target = dumpfilepath b'
  | .db (.deleteBackup id) => id ≠ b
  | _ => True

/-- The call changes none of the three stores. -/
def Call.Quiet : Call → Prop
  | .es .closeIndices => False
  | .es (.restoreSnapshot ..) => False
  | .es .openIndices => False
  | .host (.copyFromLocal ..) => False
  | .host (.mysqlSource ..) => False
  | _ => True

section Calls

variable {ω : Outcomes} {w : World D} {b : Int} {c : Capture D}

/-- A snapshot changes only under its own name. -/
theorem Cluster.snapshots_answer {cluster : Cluster D} {refusal : Option EsError} {call : EsCall}
    {name : String} (hdelete : ∀ repository, call ≠ .deleteSnapshot repository name)
    (hcreate : ∀ repository, call ≠ .createSnapshot repository name) (location : String) :
    (cluster.answer refusal call).2.snapshots location name = cluster.snapshots location name := by
  cases refusal with
  | some e => rfl
  | none =>
    rw [Cluster.answer_none]
    cases call with
    | deleteSnapshot repository name' =>
      have hne : name ≠ name' := fun heq => hdelete repository (heq ▸ rfl)
      simp only [Cluster.accept]
      (repeat' split) <;> first | rfl | exact Cluster.setSnapshot_of_ne _ _ fun heq => hne heq.2
    | createSnapshot repository name' =>
      have hne : name ≠ name' := fun heq => hcreate repository (heq ▸ rfl)
      simp only [Cluster.accept]
      (repeat' split) <;> first | rfl | exact Cluster.setSnapshot_of_ne _ _ fun heq => hne heq.2
    | getSnapshot repository name' => simp only [Cluster.accept]; split <;> rfl
    | restoreSnapshot repository name' => simp only [Cluster.accept]; (repeat' split) <;> rfl
    | connect | info | createRepository | closeIndices | openIndices => rfl

theorem keeps_answerEs {call : EsCall} (hcall : (Call.es call).Spares w.config b)
    (h : Keeps b c w) : Keeps b c (w.answerEs ω call).2 := by
  obtain ⟨name, hname, hsnapshot⟩ := h.saves.snapshot
  refine ⟨h.row, ⟨⟨name, hname, ?_⟩, h.saves.hdfs, h.saves.hasHdfs, h.saves.dump⟩⟩
  refine (Cluster.snapshots_answer ?_ ?_ (str b)).trans hsnapshot
  · rintro repository rfl
    exact hcall hname
  · rintro repository rfl
    exact hcall hname

theorem artifacts_makeDir (b b' : Int) : (w.makeDir (dumpdir b')).artifacts b = w.artifacts b := by
  unfold World.artifacts World.makeDir
  simp only [Function.update_of_ne (hdfsDir_ne_dumpdir b b')]

theorem keeps_answerHost {call : HostCall} (hcall : (Call.host call).Spares w.config b)
    (h : Keeps b c w) : Keeps b c (w.answerHost ω call).2 := by
  refine h.of_artifacts (sameCatalogue_answerHost call) ?_
  cases call with
  | copyToLocal source target =>
    obtain ⟨rfl, b', hne, rfl⟩ := hcall
    exact artifacts_runCopyToLocal hne ω.copyToLocal
  | copyFromLocal source target => exact artifacts_runCopyFromLocal b source target ω.copyFromLocal
  | pathExists path => rfl
  | makedirs path =>
    obtain ⟨b', -, rfl⟩ := hcall
    simp only [World.answerHost]
    split
    · rfl
    · exact artifacts_makeDir b b'
  | openForWriting path =>
    obtain ⟨b', hne, rfl⟩ := hcall
    simp only [World.answerHost]
    split
    · rfl
    · exact artifacts_writeDump hne _
  | mysqldump cnf target =>
    obtain ⟨b', hne, rfl⟩ := hcall
    simp only [World.answerHost]
    cases ω.mysqldump with
    | notStarted => rfl
    | exited returncode reached => exact artifacts_writeDump hne _
  | mysqlSource cnf script => exact artifacts_runMysqlSource b script ω.mysql

theorem keeps_answerDb {call : DbCall} (hcall : (Call.db call).Spares w.config b)
    (h : Keeps b c w) : Keeps b c (w.answerDb ω call).2 := by
  cases call with
  | insertBackup title status => exact ⟨(Table.mem_ids_put ..).2 (.inr h.row), h.saves⟩
  | commitBackup id loaded row => exact ⟨World.mem_ids_flushRow h.row, h.saves⟩
  | deleteBackup id =>
    exact ⟨(Table.mem_ids_remove ..).2 ⟨fun heq => hcall heq.symm, h.row⟩, h.saves⟩
  | insertRestore id row =>
    simp only [World.answerDb]
    split
    · exact ⟨h.row, h.saves⟩
    · exact h
  | commitRestore id loaded row => exact ⟨h.row, h.saves⟩
  | deleteRestore id => exact ⟨h.row, h.saves⟩
  | oneBackup | oneRestore | pageOfBackups | countBackups => exact h

theorem keeps_answer {call : Call} (hcall : call.Spares w.config b) (h : Keeps b c w) :
    Keeps b c (World.answer ω call w).2 := by
  cases call with
  | es call => exact keeps_answerEs hcall h
  | host call => exact keeps_answerHost hcall h
  | db call => exact keeps_answerDb hcall h
  | readConfig => exact h

end Calls

/-! ## Programs -/

section Programs

variable {config : Config} {b b' : Int} {c : Capture D} {ω : Outcomes}

/-- What is kept of a backup under a config. -/
structure KeepsUnder (config : Config) (b : Int) (c : Capture D) (w : World D) : Prop where
  config : w.config = config
  keeps : Keeps b c w

theorem KeepsUnder.answer {w : World D} (h : KeepsUnder config b c w) {call : Call}
    (hcall : call.Spares config b) : KeepsUnder config b c (World.answer ω call w).2 where
  config := (config_answer ω call w).trans h.config
  keeps := keeps_answer (h.config ▸ hcall) h.keeps

theorem maintains_of_calls {α : Type} {p : Py α} (h : p.Calls (Call.Spares config b)) :
    p.Maintains (KeepsUnder (D := D) config b c) (World.answer ω) :=
  .of_calls (fun _ _ hcall hw => hw.answer hcall) h

/-- A program goes on with the config. -/
theorem maintains_withConfig {α : Type} {p : Config → Py α}
    (h : (∃ name, config.snapshotName b = .ok name) →
      (p config).Maintains (KeepsUnder (D := D) config b c) (World.answer ω)) :
    (readConfig >>= p).Maintains (KeepsUnder (D := D) config b c) (World.answer ω) := by
  refine .perform_bind (fun w hw => hw.answer trivial) ?_
  rintro w config' hw hread
  obtain rfl : w.config = config' := Except.ok.inj hread
  obtain ⟨name, hname, -⟩ := hw.keeps.saves.snapshot
  rw [hw.config] at hname ⊢
  exact h ⟨name, hname⟩

theorem spares_of_issues {task : Task} (htask : task ≠ .snapshot b) {call : Call}
    (h : task.Issues config call) : call.Spares config b := by
  cases h with
  | deleteSnapshot hrepo hname =>
    intro hsame
    exact htask (congrArg Task.snapshot (Config.snapshotName_inj hname hsame))
  | createSnapshot hrepo hname =>
    intro hsame
    exact htask (congrArg Task.snapshot (Config.snapshotName_inj hname hsame))
  | _ => trivial

theorem spares_task (task : Task) (htask : task ≠ .snapshot b) :
    (task.prog config).Calls (Call.Spares config b) :=
  (Task.calls_prog config task).mono fun _ => spares_of_issues htask

theorem calls_host {P : Call → Prop} {call : HostCall} (h : P (.host call)) :
    (hostCall call).Calls P := Prog.Calls.perform.2 h

theorem quiet_of_issues {call : Call} (h : (Task.snapshot b).Issues config call) :
    call.Quiet := by
  cases h <;> trivial

/-- What a backup of another id calls once it has read the config. -/
theorem spares_backup (hne : b' ≠ b) (cnf : String) :
    (snapshotIndicesFromSrcToFs config b' >>= fun _ =>
      checkOutput (copyToLocal "/hdfs" (hdfsDir b')) >>= fun _ => dumpMysql cnf b').Calls
      fun c => c.Spares config b ∧ c.Quiet := by
  have htask : Task.snapshot b' ≠ .snapshot b := fun h => hne (congrArg Task.backupId h)
  refine .bind ?_ fun _ => .bind ?_ fun _ => .bind (.bind ?_ fun isThere => ?_) fun _ =>
    .bind (calls_host ⟨⟨b', hne, rfl⟩, trivial⟩) fun _ =>
      .bind (calls_host ⟨⟨b', hne, rfl⟩, trivial⟩) fun _ => .pure ()
  · exact (Task.calls_prog config (.snapshot b')).mono fun _ h =>
      ⟨spares_of_issues htask h, quiet_of_issues h⟩
  · exact calls_checkOutput (calls_host ⟨⟨rfl, b', hne, rfl⟩, trivial⟩)
  · exact calls_host ⟨trivial, trivial⟩
  · split
    · exact .pure ()
    · exact calls_host ⟨⟨b', hne, rfl⟩, trivial⟩

theorem maintains_backupStages (hne : b' ≠ b) (cnf : String) :
    (backupStages cnf b').Maintains (KeepsUnder (D := D) config b c) (World.answer ω) :=
  maintains_withConfig fun _ => maintains_of_calls ((spares_backup hne cnf).mono fun _ h => h.1)

theorem maintains_restoreStages (cnf : String) :
    (restoreStages cnf b').Maintains (KeepsUnder (D := D) config b c) (World.answer ω) := by
  refine maintains_withConfig fun _ => maintains_of_calls ?_
  have htask : Task.restore b' ≠ .snapshot b := by simp
  refine .bind (spares_task _ htask) fun _ => .bind ?_ fun _ => .bind (calls_host trivial) ?_
  · exact calls_checkOutput (calls_host trivial)
  · intro returncode
    split
    · exact .raise _
    · exact .pure ()

/-- A config that names the snapshot of a backup has no default to set. -/
theorem Config.withDefaults_of_named {name : String} (h : config.snapshotName b = .ok name) :
    config.withDefaults = .ok config := by
  obtain ⟨snapshotPrefix, hitem, -⟩ := exists_of_bind_eq_ok h
  unfold Config.item at hitem
  unfold Config.withDefaults
  cases hlookup : config.lookup "elasticsearch_config" with
  | none =>
    rw [hlookup] at hitem
    cases hitem
  | some options =>
    cases hoption : options.lookup "snapshot_prefix" with
    | none =>
      simp only [hlookup, hoption] at hitem
      cases hitem
    | some value => simp only [hoption, Option.isSome_some, if_true]

theorem maintains_esutilsMain {mode : Mode} (h : mode = .backup → b ≠ 1) :
    (esutilsMain mode).Maintains (KeepsUnder (D := D) config b c) (World.answer ω) := by
  refine maintains_withConfig ?_
  rintro ⟨name, hname⟩
  rw [Config.withDefaults_of_named hname]
  refine maintains_of_calls ?_
  cases mode with
  | backup =>
    refine spares_task (.snapshot 1) ?_
    intro heq
    exact h rfl (congrArg Task.backupId heq).symm
  | restore => exact spares_task (.restore 1) (by simp)

theorem maintains_prog {job : Job D} (h : ¬job.Threatens b) :
    job.prog.Maintains (KeepsUnder (D := D) config b c) (World.answer ω) := by
  cases job with
  | script script =>
    cases script with
    | backup =>
      have hne : (3 : Int) ≠ b := fun heq => h heq.symm
      exact .bind (.bind (maintains_backupStages hne _) fun _ => trivial) fun _ => trivial
    | restore => exact maintains_restoreStages _
  | esutils mode =>
    refine maintains_esutilsMain ?_
    rintro rfl
    exact h
  | request q =>
    cases q with
    | createEdmBackup data =>
      refine .bind (.perform_bind (fun w hw => hw.answer trivial) ?_) fun _ => trivial
      intro w backupId hw hinsert
      have hne : backupId ≠ b := by
        have hlt := Table.lt_nextId hw.keeps.row
        have hid : w.backups.nextId = backupId := Except.ok.inj hinsert
        exact (hid ▸ hlt).ne'
      exact .bind (maintains_backupStages hne _) fun _ => trivial
    | createRestore data =>
      refine .perform_bind (fun w hw => hw.answer trivial) ?_
      intro w _ hw _
      exact maintains_restoreStages _
    | changeStores stores => trivial
    | deleteEdmBackup backupId =>
      exact maintains_of_calls (.bind (calls_dbCall trivial) fun _ => calls_dbCall h)
    | updateEdmBackup backupId data =>
      exact maintains_of_calls (.bind (calls_dbCall trivial) fun _ => calls_dbCall trivial)
    | updateRestore restoreId data =>
      exact maintains_of_calls (.bind (calls_dbCall trivial) fun _ => calls_dbCall trivial)
    | deleteRestore restoreId =>
      exact maintains_of_calls (.bind (calls_dbCall trivial) fun _ => calls_dbCall trivial)

end Programs

/-! ## Any interleaving -/

/-- The jobs issue the calls of `tr` in `w` and are left with `ps'` in `w'`. -/
abbrev Concurrent {ι : Type} [DecidableEq ι] (jobs : ι → Job D) (ω : ι → Outcomes) (w : World D)
    (tr : List (RunEvent ι D)) (ps' : ι → Py Unit) (w' : World D) : Prop :=
  Interleaved (fun i => World.answer (ω i)) (fun i => (jobs i).prog) w tr ps' w'

/-- **A finished backup is safe from jobs that overlap**, in whatever order they
issue their calls and wherever they stop, if none threatens it: it is kept
after every call, and can be restored in the end. -/
theorem backup_survives_concurrent {ι : Type} [DecidableEq ι] {b : Int} {c : Capture D}
    (jobs : ι → Job D) (ω : ι → Outcomes) (w w' : World D) (tr : List (RunEvent ι D))
    (ps' : ι → Py Unit) (h : Concurrent jobs ω w tr ps' w') (hw : Keeps b c w)
    (hjobs : ∀ i, ¬(jobs i).Threatens b) :
    (∀ e ∈ tr, Keeps b c e.after) ∧
      ∀ (ω' : Outcomes) (data : RestoreBody), data.backupId = b →
        (w'.requestedKey ω' data).isOk = true → RestoreSmooth ω' w' c.indices →
          ((createRestore data).run (World.answer ω') w').1 = .ok () ∧
            Recovered c ((createRestore data).run (World.answer ω') w').2.stores := by
  have hunder : KeepsUnder w.config b c w := ⟨rfl, hw⟩
  obtain ⟨hevents, hend⟩ := h.maintains (fun i => maintains_prog (hjobs i)) hunder
  refine ⟨fun e he => (hevents e he).2.keeps, ?_⟩
  rintro ω' data rfl hkey hsmooth
  exact recovered_of_keeps hend.keeps hkey hsmooth

section Samples

/-- A first backup is there. -/
def afterFirst : World Nat := crashSteps[0].after

/-- A second backup, and a restore of the first. -/
def atOnce : Side → Job Nat
  | .left => .request (.createEdmBackup ⟨some "weekly"⟩)
  | .right => .request restoreNightly

/-- The restore registers its location before the backup stores its snapshot,
and both stop. -/
def atOnceRun : List (RunEvent Side Nat) × (Side → Py Unit) × World Nat :=
  interleave (fun _ => World.answer .smoothNewYear)
    (.replicate 5 .left ++ .replicate 4 .right ++ .replicate 2 .left) (fun i => (atOnce i).prog)
    crashSteps[0].after

/-- The second snapshot is in the location of the first. -/
example : (atOnceRun.2.2.cluster.snapshots "1" "elastest_snapshot_2").isSome = true := rfl

theorem backup_survives_concurrent_atOnce :
    Recovered World.busy.capture ((createRestore ⟨some "again", .absent, 1⟩).run
      (World.answer .smoothNewYear) atOnceRun.2.2).2.stores := by
  have hjobs : ∀ i, ¬(atOnce i).Threatens 1 := by
    intro i
    cases i <;> exact id
  exact ((backup_survives_concurrent atOnce _ _ _ _ _
    (interleaved_interleave (fun _ => World.answer .smoothNewYear) _ _ _) crashSteps_made
    hjobs).2 .smoothNewYear ⟨some "again", .absent, 1⟩ rfl rfl
      ⟨⟨_, rfl⟩, ⟨rfl, rfl, rfl⟩, .inl rfl, rfl, ⟨_, rfl⟩, ⟨_, rfl⟩⟩).2

end Samples

end Edm
