import Edm.Service.Business
import Edm.Verify.Stages

/-!
# The operations on the catalogue

Each operation of `business.py` as an equation on its run.
-/

namespace Edm

open Effects Data

variable {D : Type}

/-! ## Transactions -/

section Transactions

variable (ω : Outcomes) (w : World D)

theorem run_dbCall (c : DbCall) : (dbCall c).run (World.answer ω) w = w.answerDb ω c := by
  unfold dbCall
  rw [Prog.run_perform]
  rfl

theorem calls_dbCall {P : Call → Prop} {c : DbCall} (h : P (.db c)) : (dbCall c).Calls P :=
  Prog.Calls.perform.2 h

@[simp] theorem run_insertBackup (title : Option String) (status : String) :
    (insertBackup title status).run (World.answer ω) w =
      (.ok w.backups.nextId,
        { w with backups := w.backups.put w.backups.nextId ⟨title, ω.utcnow, status⟩ }) :=
  run_dbCall ω w _

@[simp] theorem run_oneBackup (id : Int) :
    (oneBackup id).run (World.answer ω) w = (World.oneRow w.backups id, w) := run_dbCall ω w _

/-- A row is committed as it was changed if nothing happened to it in between. -/
theorem run_commitBackup {id : Int} {loaded : Backup} (h : World.oneRow w.backups id = .ok loaded)
    (row : Backup) : (commitBackup id loaded row).run (World.answer ω) w =
      (.ok (), { w with backups := w.backups.put id row }) := by
  have hflush := World.flushRow_of_loaded (World.oneRow_eq_ok_iff.1 h).2
    (World.flushedBackup_self loaded row)
  refine (run_dbCall ω w _).trans ?_
  simp only [World.answerDb, hflush]

@[simp] theorem run_removeBackup (id : Int) :
    (removeBackup id).run (World.answer ω) w =
      (.ok (), { w with backups := w.backups.remove id }) := run_dbCall ω w _

@[simp] theorem run_insertRestore (id : BodyId) (row : Restore) :
    (insertRestore id row).run (World.answer ω) w =
      match w.restoreKey ω row.backupId id with
      | .ok key => (.ok (), { w with restores := w.restores.put key row })
      | .error e => (.error e, w) := run_dbCall ω w _

@[simp] theorem run_oneRestore (id : Int) :
    (oneRestore id).run (World.answer ω) w = (World.oneRow w.restores id, w) := run_dbCall ω w _

theorem run_commitRestore {id : Int} {loaded : Restore}
    (h : World.oneRow w.restores id = .ok loaded) (row : Restore) :
    (commitRestore id loaded row).run (World.answer ω) w =
      (.ok (), { w with restores := w.restores.put id row }) := by
  have hflush := World.flushRow_of_loaded (World.oneRow_eq_ok_iff.1 h).2
    (World.flushedRestore_self loaded row)
  refine (run_dbCall ω w _).trans ?_
  simp only [World.answerDb, hflush]

@[simp] theorem run_removeRestore (id : Int) :
    (removeRestore id).run (World.answer ω) w =
      (.ok (), { w with restores := w.restores.remove id }) := run_dbCall ω w _

end Transactions

/-! ## Operations -/

section Operations

variable (ω : Outcomes) (w : World D)

/-- The world with the row of a new backup in it. -/
def World.withBackup (title : Option String) : World D :=
  { w with backups := w.backups.put w.backups.nextId ⟨title, ω.utcnow, "INITIATED"⟩ }

/-- The key of the row a restore body asks for. -/
def World.requestedKey (data : RestoreBody) : Except PyExc Int :=
  w.restoreKey ω data.backupId (if data.id.truthy then data.id else .absent)

theorem requestedKey_congr {ω ω' : Outcomes} (h : ω'.drawnKey = ω.drawnKey)
    (data : RestoreBody) : w.requestedKey ω' data = w.requestedKey ω data :=
  World.restoreKey_congr h _

/-- The world with the row of a new restore in it. -/
def World.withRestore (key : Int) (data : RestoreBody) : World D :=
  { w with restores := w.restores.put key ⟨data.title, data.backupId⟩ }

theorem run_createEdmBackup (data : TitleBody) :
    (createEdmBackup data).run (World.answer ω) w =
      (((backupStages "mysqlbackup.cnf" w.backups.nextId).run (World.answer ω)
          (w.withBackup ω data.title)).1.map fun _ => w.backups.nextId,
        ((backupStages "mysqlbackup.cnf" w.backups.nextId).run (World.answer ω)
          (w.withBackup ω data.title)).2) := by
  unfold createEdmBackup World.withBackup
  simp only [Prog.run_bind, run_insertBackup]
  rcases (backupStages "mysqlbackup.cnf" w.backups.nextId).run (World.answer ω) _ with ⟨e | _, w'⟩
    <;> rfl

theorem run_updateEdmBackup (backupId : Int) (data : TitleBody) :
    (updateEdmBackup backupId data).run (World.answer ω) w =
      match World.oneRow w.backups backupId with
      | .ok row => (.ok (), { w with
          backups := w.backups.put backupId { row with title := data.title, status := "UPDATED" } })
      | .error e => (.error e, w) := by
  unfold updateEdmBackup
  simp only [Prog.run_bind, run_oneBackup]
  cases hrow : World.oneRow w.backups backupId with
  | error e => rfl
  | ok row => exact run_commitBackup ω w hrow _

theorem run_deleteEdmBackup (backupId : Int) :
    (deleteEdmBackup backupId).run (World.answer ω) w =
      match World.oneRow w.backups backupId with
      | .ok _ => (.ok (), { w with backups := w.backups.remove backupId })
      | .error e => (.error e, w) := by
  unfold deleteEdmBackup
  simp only [Prog.run_bind, run_oneBackup]
  cases World.oneRow w.backups backupId <;> simp

theorem run_createRestore (data : RestoreBody) :
    (createRestore data).run (World.answer ω) w =
      match w.requestedKey ω data with
      | .ok key => (restoreStages "mysqlbackup.cnf" data.backupId).run (World.answer ω)
          (w.withRestore key data)
      | .error e => (.error e, w) := by
  unfold createRestore World.requestedKey
  simp only [Prog.run_bind, run_insertRestore]
  cases w.restoreKey ω data.backupId (if data.id.truthy then data.id else .absent) <;> rfl

theorem run_updateRestore (restoreId : Int) (data : TitleBody) :
    (updateRestore restoreId data).run (World.answer ω) w =
      match World.oneRow w.restores restoreId with
      | .ok row =>
        (.ok (), { w with restores := w.restores.put restoreId { row with title := data.title } })
      | .error e => (.error e, w) := by
  unfold updateRestore
  simp only [Prog.run_bind, run_oneRestore]
  cases hrow : World.oneRow w.restores restoreId with
  | error e => rfl
  | ok row => exact run_commitRestore ω w hrow _

theorem run_deleteRestore (restoreId : Int) :
    (deleteRestore restoreId).run (World.answer ω) w =
      match World.oneRow w.restores restoreId with
      | .ok _ => (.ok (), { w with restores := w.restores.remove restoreId })
      | .error e => (.error e, w) := by
  unfold deleteRestore
  simp only [Prog.run_bind, run_oneRestore]
  cases World.oneRow w.restores restoreId <;> simp

end Operations

end Edm
