import Edm.Service.Esutils

/-!
# The stages of a backup and of a restore

`create_edm_backup` and `create_restore` of `business.py` and the scripts
`backup.py` and `restore.py` go through the same stages, Elasticsearch, HDFS
and MySQL. They differ in where the id comes from and in the path of the MySQL
credentials, `cnf`.
-/

namespace Edm

open Effects

/-! ## Calls -/

def hostCall (c : HostCall) : Py c.Reply := Prog.perform (R := Reply) (Call.host c)

def copyToLocal (source target : String) : Py Int := hostCall (.copyToLocal source target)

def copyFromLocal (source target : String) : Py Int := hostCall (.copyFromLocal source target)

def pathExists (path : String) : Py Bool := hostCall (.pathExists path)

def makedirs (path : String) : Py Unit := hostCall (.makedirs path)

def openForWriting (path : String) : Py Unit := hostCall (.openForWriting path)

def mysqldump (cnf target : String) : Py Int := hostCall (.mysqldump cnf target)

def mysqlSource (cnf script : String) : Py Int := hostCall (.mysqlSource cnf script)

def readConfig : Py Config := Prog.perform (R := Reply) Call.readConfig

/-- `subprocess.check_output`: a command that does not exit zero raises. -/
def checkOutput (command : Py Int) : Py Unit := do
  let returncode ← command
  if returncode = 0 then pure () else .raise (.calledProcessError returncode)

/-! ## Paths of the artifacts -/

def hdfsDir (backupId : Int) : String := "/backup/hdfs/" ++ str backupId

def dumpdir (backupId : Int) : String := "/backup/mysql/" ++ str backupId

def bfile : String := "elastest_mysql.sql"

def dumpfilepath (backupId : Int) : String := joinPath (dumpdir backupId) bfile

/-! ## Backup -/

/-- `if not os.path.exists(dumpdir): os.makedirs(dumpdir)` -/
def makeDumpdir (backupId : Int) : Py Unit := do
  let isThere ← pathExists (dumpdir backupId)
  if isThere then pure () else makedirs (dumpdir backupId)

/-- The return code of mysqldump is compared with zero to print a message only. -/
def dumpMysql (cnf : String) (backupId : Int) : Py Unit := do
  makeDumpdir backupId
  openForWriting (dumpfilepath backupId)
  let _retcode ← mysqldump cnf (dumpfilepath backupId)

def backupStages (cnf : String) (backupId : Int) : Py Unit := do
  let config ← readConfig
  snapshotIndicesFromSrcToFs config backupId
  checkOutput (copyToLocal "/hdfs" (hdfsDir backupId))
  dumpMysql cnf backupId

/-! ## Restore -/

/-- `sys.exit(1)` on a positive return code; a negative one goes unnoticed. -/
def sourceMysql (cnf : String) (backupId : Int) : Py Unit := do
  let returncode ← mysqlSource cnf (dumpfilepath backupId)
  if 0 < returncode then .raise (.systemExit 1)

def restoreStages (cnf : String) (backupId : Int) : Py Unit := do
  let config ← readConfig
  restoreIndicesFromFsToDest config backupId
  checkOutput (copyFromLocal (hdfsDir backupId) "/hdfs")
  sourceMysql cnf backupId

end Edm
