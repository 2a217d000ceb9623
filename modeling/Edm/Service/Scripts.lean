import Edm.Service.Run

/-!
# `backup.py` and `restore.py`

The scripts behind the Java service. Every run goes by one backup id.
-/

namespace Edm

open Effects

variable {D : Type}

def doBackup : Py Int := do
  let backupId := 3
  backupStages "/scripts/mysqlbackup.cnf" backupId
  pure backupId

def doRestore : Py Unit := do
  let backupId := 3
  restoreStages "/scripts/mysqlbackup.cnf" backupId

/-- The exit status of the Python process: an exception no one catches is
reported with `1`. -/
def exitStatus {α : Type} : Except PyExc α → Int
  | .ok _ => 0
  | .error (.systemExit code) => code
  | .error _ => 1

inductive Script where
  | backup
  | restore
  deriving DecidableEq

/-- Run a script to its end. -/
def World.runScript (ω : Outcomes) (w : World D) : Script → Int × World D
  | .backup => (exitStatus (doBackup.run (World.answer ω) w).1, (doBackup.run (World.answer ω) w).2)
  | .restore =>
    (exitStatus (doRestore.run (World.answer ω) w).1, (doRestore.run (World.answer ω) w).2)

/-- What happens to the stores of the Java service. -/
inductive ScriptEvent (D : Type) where
  | run (script : Script)
  /-- The users of the stores leave them so. -/
  | changeStores (stores : Stores D)

/-- The exit status of a script that ran. -/
def World.serveScript (e : Outcomes × ScriptEvent D) (w : World D) : Option Int × World D :=
  match e.2 with
  | .run script => (some (w.runScript e.1 script).1, (w.runScript e.1 script).2)
  | .changeStores stores => (none, w.withStores stores)

/-- A step of the history of the scripts. -/
abbrev ServedScript (D : Type) := Served (Outcomes × ScriptEvent D) (Option Int) (World D)

end Edm
