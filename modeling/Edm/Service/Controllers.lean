import Edm.Effects.Pipe
import Edm.Service.Scripts

/-!
# The controllers of the Java service

`BackupApiController.java` and `RestoreApiController.java`: each request runs a
script in a process of its own.
-/

namespace Edm

open Effects

variable {D : Type}

/-- What the operating system decides for one request. -/
structure Platform where
  /-- `file.exists()` -/
  fileExists : Bool
  /-- `file.isDirectory()` -/
  isDirectory : Bool
  /-- `exec` raises an `IOException`. -/
  execRaises : Bool
  script : Outcomes

/-- `file.exists() && !file.isDirectory()` -/
def Platform.hasScript (p : Platform) : Bool := p.fileExists && !p.isDirectory

inductive HttpStatus where
  | ok
  | expectationFailed
  deriving DecidableEq

/-- A `ResponseEntity<MessageResponse>`. -/
structure ResponseEntity where
  body : Option String
  statusCode : HttpStatus
  deriving DecidableEq

inductive JavaExc where
  | ioException
  deriving DecidableEq

/-! ## `BackupApiController` -/

/-- The output of the script goes to the log, its exit status nowhere. -/
def BackupApiController.runScript (p : Platform) (w : World D) : Except JavaExc Unit × World D :=
  if p.execRaises then (.error .ioException, w)
  else
    let (_exitStatus, w') := w.runScript p.script .backup
    (.ok (), w')

def BackupApiController.createBackup (p : Platform) (w : World D) :
    Except JavaExc ResponseEntity × World D :=
  if p.hasScript then
    match BackupApiController.runScript p w with
    | (.ok (), w') => (.ok ⟨some "Backup Completed", .ok⟩, w')
    | (.error e, w') => (.error e, w')
  else (.ok ⟨some "Cannot create backup", .expectationFailed⟩, w)

/-! ## `RestoreApiController` -/

/-- The exit status of the script, or `-1` when it could not be run. -/
def RestoreApiController.runScript (p : Platform) (w : World D) : Int × World D :=
  if p.execRaises then (-1, w) else w.runScript p.script .restore

def RestoreApiController.restoreBackup (p : Platform) (_backupId : String) (w : World D) :
    ResponseEntity × World D :=
  if p.hasScript then
    let (_x, w') := RestoreApiController.runScript p w
    (⟨some "Restore Completed", .ok⟩, w')
  else (⟨none, .expectationFailed⟩, w)

/-! ## Requests -/

inductive JavaRequest (D : Type) where
  | createBackup
  | restoreBackup (backupId : String)
  /-- The users of the stores leave them so. -/
  | changeStores (stores : Stores D)

inductive JavaAnswer where
  | response (entity : ResponseEntity)
  | raised (e : JavaExc)
  | done
  deriving DecidableEq

def World.serveJava (q : Platform × JavaRequest D) (w : World D) : JavaAnswer × World D :=
  match q.2 with
  | .createBackup =>
    match BackupApiController.createBackup q.1 w with
    | (.ok entity, w') => (.response entity, w')
    | (.error e, w') => (.raised e, w')
  | .restoreBackup backupId =>
    let (entity, w') := RestoreApiController.restoreBackup q.1 backupId w
    (.response entity, w')
  | .changeStores stores => (.done, w.withStores stores)

/-- A step of the history of the Java service. -/
abbrev ServedJava (D : Type) := Served (Platform × JavaRequest D) JavaAnswer (World D)

/-! ## The process of a script -/

inductive Stream where
  | stdout
  | stderr
  deriving DecidableEq

/-- What `runScript` does with the process it started: wait for it, then read
its standard output line by line. -/
def BackupApiController.reads : List (Pipe.Instr Stream) := [.waitFor, .readToEnd .stdout]

/-- It waits for the process and asks for its exit value. -/
def RestoreApiController.reads : List (Pipe.Instr Stream) := [.waitFor]

end Edm
