import Edm.Service.Stages

/-!
# `business.py`

The six operations of the REST service on backups and restores. Each commits
its row before anything else happens.
-/

namespace Edm

open Effects

/-! ## `db.session` -/

def dbCall (c : DbCall) : Py c.Reply := Prog.perform (R := Reply) (Call.db c)

def insertBackup (title : Option String) (status : String) : Py Int :=
  dbCall (.insertBackup title status)

def oneBackup (id : Int) : Py Backup := dbCall (.oneBackup id)

def commitBackup (id : Int) (loaded row : Backup) : Py Unit :=
  dbCall (.commitBackup id loaded row)

def removeBackup (id : Int) : Py Unit := dbCall (.deleteBackup id)

def insertRestore (id : BodyId) (row : Restore) : Py Unit := dbCall (.insertRestore id row)

def oneRestore (id : Int) : Py Restore := dbCall (.oneRestore id)

def commitRestore (id : Int) (loaded row : Restore) : Py Unit :=
  dbCall (.commitRestore id loaded row)

def removeRestore (id : Int) : Py Unit := dbCall (.deleteRestore id)

/-! ## Backups -/

def createEdmBackup (data : TitleBody) : Py Int := do
  let backupId ← insertBackup data.title "INITIATED"
  backupStages "mysqlbackup.cnf" backupId
  pure backupId

def updateEdmBackup (backupId : Int) (data : TitleBody) : Py Unit := do
  let backup ← oneBackup backupId
  commitBackup backupId backup { backup with title := data.title, status := "UPDATED" }

def deleteEdmBackup (backupId : Int) : Py Unit := do
  let _backup ← oneBackup backupId
  removeBackup backupId

/-! ## Restores -/

/-- The body names the key of the row when its `id` is true. -/
def createRestore (data : RestoreBody) : Py Unit := do
  let restoreId := if data.id.truthy then data.id else .absent
  insertRestore restoreId ⟨data.title, data.backupId⟩
  restoreStages "mysqlbackup.cnf" data.backupId

def updateRestore (restoreId : Int) (data : TitleBody) : Py Unit := do
  let restore ← oneRestore restoreId
  commitRestore restoreId restore { restore with title := data.title }

def deleteRestore (restoreId : Int) : Py Unit := do
  let _restore ← oneRestore restoreId
  removeRestore restoreId

end Edm
