import Edm.Effects.Raises
import Edm.Verify.Outcome

/-!
# What the stages do not raise

`NoResultFound` is answered with `404`, so it must not come from anything but a
query that found no row. No stage of a backup or a restore raises it.
-/

namespace Edm

open Effects Data

variable {D : Type}

/-- Not the exception that is answered with `404`. -/
def NotNoResult (e : PyExc) : Prop := e ≠ .noResultFound

theorem Config.item_notNoResult (config : Config) (sec option : String) (e : PyExc)
    (h : config.item sec option = .error e) : NotNoResult e := by
  unfold Config.item at h
  split at h
  · cases h
    exact nofun
  · split at h <;> cases h
    exact nofun

theorem notNoResult_bind {α β : Type} {x : Except PyExc α} {f : α → Except PyExc β}
    (hx : ∀ e, x = .error e → NotNoResult e) (hf : ∀ a e, f a = .error e → NotNoResult e)
    (e : PyExc) (h : (x >>= f) = .error e) : NotNoResult e := by
  rcases error_of_bind_eq_error h with h | ⟨a, -, h⟩
  · exact hx e h
  · exact hf a e h

theorem Config.otherSeeds_notNoResult (config : Config) (seed1 key2 key3 : String) (e : PyExc)
    (h : config.otherSeeds seed1 key2 key3 = .error e) : NotNoResult e := by
  unfold Config.otherSeeds at h
  split at h
  · cases h
  · refine notNoResult_bind (Config.item_notNoResult _ _ _) (fun _ => ?_) e h
    exact notNoResult_bind (Config.item_notNoResult _ _ _) fun _ _ => nofun

theorem Config.srcSettings_notNoResult (config : Config) (e : PyExc)
    (h : config.srcSettings = .error e) : NotNoResult e := by
  refine notNoResult_bind (Config.item_notNoResult _ _ _) (fun seed => ?_) e h
  refine notNoResult_bind (Config.item_notNoResult _ _ _) fun repository => ?_
  exact notNoResult_bind (Config.otherSeeds_notNoResult _ _ _ _) fun others _ => nofun

theorem Config.destSettings_notNoResult (config : Config) (e : PyExc)
    (h : config.destSettings = .error e) : NotNoResult e := by
  refine notNoResult_bind (Config.item_notNoResult _ _ _) (fun seed => ?_) e h
  refine notNoResult_bind (Config.item_notNoResult _ _ _) fun repository => ?_
  refine notNoResult_bind (Config.item_notNoResult _ _ _) fun indexNames => ?_
  exact notNoResult_bind (Config.otherSeeds_notNoResult _ _ _ _) fun others _ => nofun

theorem Config.snapshotName_notNoResult (config : Config) (backupId : Int) (e : PyExc)
    (h : config.snapshotName backupId = .error e) : NotNoResult e :=
  notNoResult_bind (Config.item_notNoResult _ _ _) (fun _ _ h => by cases h) e h

theorem raises_exceptException {α : Type} {handler : PyExc → Py α} (e : PyExc)
    (h : (handler e).Raises NotNoResult) (he : NotNoResult e) :
    (exceptException handler e).Raises NotNoResult := by
  unfold exceptException
  split
  · exact h
  · exact he

theorem raises_esCall (c : EsCall) : (esCall c).Raises NotNoResult := .perform _

theorem raises_hostCall (c : HostCall) : (hostCall c).Raises NotNoResult := .perform _

theorem raises_snapshotIndices (config : Config) (backupId : Int) :
    (snapshotIndicesFromSrcToFs config backupId).Raises NotNoResult := by
  refine .bind (.ofExcept config.srcSettings_notNoResult) ?_
  rintro ⟨esFsRepo, seeds⟩
  refine .tryCatch ?_ fun e he => raises_exceptException e (.pure ()) he
  unfold takeSnapshot
  refine .bind (raises_esCall _) fun _ => .bind (raises_esCall _) fun _ =>
    .bind (raises_esCall _) fun _ => ?_
  refine .bind (.ofExcept (config.snapshotName_notNoResult backupId)) fun snapshotName => ?_
  refine .bind (.tryCatch ?_ fun e he => raises_exceptException e (.pure ()) he) fun _ =>
    raises_esCall _
  exact .bind (raises_esCall _) fun _ => raises_esCall _

theorem raises_closeIndices : closeIndices.Raises NotNoResult := by
  refine .tryCatch (raises_esCall _) ?_
  intro e he
  split
  · exact .pure ()
  · exact raises_exceptException _ (.pure ()) he

theorem raises_reopenIndices : reopenIndices.Raises NotNoResult := by
  refine .tryCatch (raises_esCall _) ?_
  intro e he
  split
  · exact .pure ()
  · exact raises_exceptException _ (.pure ()) he

theorem raises_restoreIndices (config : Config) (backupId : Int) :
    (restoreIndicesFromFsToDest config backupId).Raises NotNoResult := by
  refine .bind (.ofExcept config.destSettings_notNoResult) ?_
  rintro ⟨esFsRepo, seeds⟩
  refine .tryCatch ?_ fun e he => raises_exceptException e nofun he
  unfold restoreSnapshot
  refine .bind (raises_esCall _) fun _ => .bind (raises_esCall _) fun _ =>
    .bind (raises_esCall _) fun _ => .bind raises_closeIndices fun _ => ?_
  exact .bind (.ofExcept (config.snapshotName_notNoResult backupId)) fun snapshotName =>
    .bind (raises_esCall _) fun _ => raises_reopenIndices

theorem raises_checkOutput {command : Py Int} (h : command.Raises NotNoResult) :
    (checkOutput command).Raises NotNoResult := by
  refine .bind h ?_
  intro returncode
  split
  · exact .pure ()
  · exact nofun

theorem raises_backupStages (cnf : String) (backupId : Int) :
    (backupStages cnf backupId).Raises NotNoResult := by
  refine .bind (.perform _) fun config => .bind (raises_snapshotIndices config backupId) fun _ =>
    .bind (raises_checkOutput (raises_hostCall _)) fun _ => ?_
  refine .bind (.bind (raises_hostCall _) fun isThere => ?_) fun _ =>
    .bind (raises_hostCall _) fun _ => .bind (raises_hostCall _) fun _ => .pure ()
  split
  · exact .pure ()
  · exact raises_hostCall _

theorem raises_restoreStages (cnf : String) (backupId : Int) :
    (restoreStages cnf backupId).Raises NotNoResult := by
  refine .bind (.perform _) fun config => .bind (raises_restoreIndices config backupId) fun _ =>
    .bind (raises_checkOutput (raises_hostCall _)) fun _ => .bind (raises_hostCall _) fun _ => ?_
  split
  · exact nofun
  · exact .pure ()

theorem answerHost_error {ω : Outcomes} {w : World D} {c : HostCall} {e : PyExc}
    (h : (w.answerHost ω c).1 = .error e) : e = .osError := by
  cases c with
  | copyToLocal source target =>
    cases hend : ω.copyToLocal <;> simp only [World.answerHost, hend] at h <;> cases h
    rfl
  | copyFromLocal source target => exact runCopyFromLocal_error h
  | pathExists path => cases h
  | makedirs path =>
    cases hraise : ω.makedirsRaises <;> simp only [World.answerHost, hraise] at h <;> cases h
    rfl
  | openForWriting path =>
    cases hraise : ω.openRaises <;> simp only [World.answerHost, hraise] at h <;> cases h
    rfl
  | mysqldump cnf target =>
    cases hend : ω.mysqldump <;> simp only [World.answerHost, hend] at h <;> cases h
    rfl
  | mysqlSource cnf script =>
    simp only [World.answerHost, World.runMysqlSource] at h
    split at h
    · cases h
      rfl
    · split at h <;> cases h

/-- Only the database raises `NoResultFound`. -/
theorem answer_notNoResult {ω : Outcomes} (c : Call) (w : World D) (e : PyExc)
    (hc : ∀ d, c ≠ .db d) (h : (World.answer ω c w).1 = .error e) : NotNoResult e := by
  cases c with
  | es c =>
    simp only [World.answer, World.answerEs] at h
    cases hr : (Cluster.answer (ω.es c.step) w.cluster c).1 with
    | ok _ =>
      rw [hr] at h
      cases h
    | error e' =>
      rw [hr] at h
      cases h
      simp [NotNoResult]
  | host c =>
    rw [answerHost_error h]
    simp [NotNoResult]
  | db d => exact absurd rfl (hc d)
  | readConfig => cases h

/-- A backup or a restore that fails is not answered with `404`. -/
theorem notNoResult_createEdmBackup {ω : Outcomes} {w : World D} {data : TitleBody} {e : PyExc}
    (h : ((createEdmBackup data).run (World.answer ω) w).1 = .error e) : NotNoResult e := by
  rw [run_createEdmBackup] at h
  cases hrun : ((backupStages "mysqlbackup.cnf" w.backups.nextId).run (World.answer ω)
    (w.withBackup ω data.title)).1 with
  | ok _ =>
    rw [hrun] at h
    cases h
  | error e' =>
    rw [hrun] at h
    cases h
    exact (raises_backupStages _ _).of_run answer_notNoResult
      (calls_backupStages (fun _ _ => nofun) (fun _ _ => nofun) (fun _ => nofun) _ _) hrun

theorem notNoResult_createRestore {ω : Outcomes} {w : World D} {data : RestoreBody} {e : PyExc}
    (h : ((createRestore data).run (World.answer ω) w).1 = .error e) : NotNoResult e := by
  rw [run_createRestore] at h
  cases hkey : w.requestedKey ω data with
  | error e' =>
    rw [hkey] at h
    cases h
    rcases World.restoreKey_error hkey with rfl | rfl <;> exact nofun
  | ok key =>
    rw [hkey] at h
    exact (raises_restoreStages _ _).of_run answer_notNoResult
      (calls_restoreStages (fun _ _ => nofun) (fun _ _ => nofun) (fun _ => nofun) _ _) h

end Edm
