import Edm.Data.Pages
import Edm.Effects.Prog
import Edm.World.Elasticsearch
import Edm.World.Paths

/-!
# The world around the Python code

`World` is everything the code reads or changes: the config file, the cluster,
HDFS behind Alluxio, MySQL, the local files under `/backup` and the catalogue.
The code reaches it through the calls of `Call`. What a call does when it is
let through is fixed here; whether it is let through, and how far a process
that fails gets, is decided by an `Outcomes`, over which every result
quantifies.
-/

namespace Edm

open Edm.Data Edm.Effects

/-! ## The world -/

/-- What `read_config` returns: sections with their options. -/
abbrev Config := List (String × List (String × String))

/-- A dump written by mysqldump; `completed` stands for the trailer mysqldump
writes when it is through. -/
structure Dump (D : Type) where
  tables : String → Option D
  completed : Bool

inductive FileContent (D : Type) where
  | data (d : D)
  | dump (d : Dump D)

/-- The world; `D` is what an index, a file or a table holds. -/
structure World (D : Type) where
  config : Config
  cluster : Cluster D
  /-- The files Alluxio serves. -/
  hdfs : String → Option (FileContent D)
  /-- The MySQL tables. -/
  mysql : String → Option D
  /-- The local files. -/
  files : String → Option (FileContent D)
  /-- The local directories. -/
  dirs : String → Bool
  backups : Table Backup
  restores : Table Restore

/-! ## Calls -/

/-- Processes the code starts and functions of `os` it calls. -/
inductive HostCall where
  /-- `alluxio fs copyToLocal source target` -/
  | copyToLocal (source target : String)
  /-- `alluxio fs copyFromLocal source target` -/
  | copyFromLocal (source target : String)
  | pathExists (path : String)
  | makedirs (path : String)
  /-- `open(path, 'w')` -/
  | openForWriting (path : String)
  /-- `mysqldump --defaults-extra-file=cnf --all-databases --events > target` -/
  | mysqldump (cnf target : String)
  /-- `mysql --defaults-extra-file=cnf -e 'source script'` -/
  | mysqlSource (cnf script : String)

/-- A process replies with its return code, negative for death by a signal. -/
abbrev HostCall.Reply : HostCall → Type
  | .copyToLocal .. => Int
  | .copyFromLocal .. => Int
  | .pathExists _ => Bool
  | .makedirs _ => Unit
  | .openForWriting _ => Unit
  | .mysqldump .. => Int
  | .mysqlSource .. => Int

/-- Transactions and queries of `db.session`. -/
inductive DbCall where
  /-- `add` of a new `Backup` and `commit`; replies with its key. -/
  | insertBackup (title : Option String) (status : String)
  /-- `Backup.query.filter(Backup.id == id).one()` -/
  | oneBackup (id : Int)
  /-- `add` of a `Backup` that was `loaded` and changed to `row`, and `commit`. -/
  | commitBackup (id : Int) (loaded row : Backup)
  | deleteBackup (id : Int)
  | insertRestore (id : BodyId) (row : Restore)
  | oneRestore (id : Int)
  | commitRestore (id : Int) (loaded row : Restore)
  | deleteRestore (id : Int)
  /-- The rows of a query on `Backup`, with `LIMIT limit OFFSET offset`. -/
  | pageOfBackups (keep : Backup → Bool) (limit : Nat) (offset : Int)
  /-- The number of rows of a query on `Backup`. -/
  | countBackups (keep : Backup → Bool)

abbrev DbCall.Reply : DbCall → Type
  | .insertBackup .. => Int
  | .oneBackup _ => Backup
  | .commitBackup .. => Unit
  | .deleteBackup _ => Unit
  | .insertRestore .. => Unit
  | .oneRestore _ => Restore
  | .commitRestore .. => Unit
  | .deleteRestore _ => Unit
  | .pageOfBackups .. => List (Int × Backup)
  | .countBackups _ => Nat

inductive Call where
  | es (c : EsCall)
  | host (c : HostCall)
  | db (c : DbCall)
  | readConfig

abbrev Reply : Call → Type
  | .es _ => Unit
  | .host c => c.Reply
  | .db c => c.Reply
  | .readConfig => Config

/-- A Python function of the service. -/
abbrev Py (α : Type) := Prog Call Reply PyExc α

/-! ## Outcomes -/

/-- How a process ends. A process that exits with a nonzero code has handled
the files or tables it `reached`. -/
inductive Ending where
  /-- `Popen` raises. -/
  | notStarted
  | exited (returncode : Int) (reached : String → Bool)

/-- What the environment decides during one run of a function. -/
structure Outcomes where
  /-- The error a client call is refused with. -/
  es : EsStep → Option EsError
  copyToLocal : Ending
  copyFromLocal : Ending
  /-- Whether `os.makedirs` raises. -/
  makedirsRaises : Bool
  /-- Whether `open` raises. -/
  openRaises : Bool
  mysqldump : Ending
  mysql : Ending
  utcnow : DateTime
  /-- The key SQLite has drawn when it stops drawing. -/
  drawnKey : Int

/-- What a process with this return code has handled. -/
def handled (returncode : Int) (reached : String → Bool) : String → Bool :=
  if returncode = 0 then fun _ => true else reached

/-- A process that cannot read its input does not exit with `0`. -/
def failing (returncode : Int) : Int := if returncode = 0 then 1 else returncode

/-- Everything is let through and goes well. -/
def Outcomes.smooth (utcnow : DateTime) : Outcomes where
  es _ := none
  copyToLocal := .exited 0 fun _ => true
  copyFromLocal := .exited 0 fun _ => true
  makedirsRaises := false
  openRaises := false
  mysqldump := .exited 0 fun _ => true
  mysql := .exited 0 fun _ => true
  utcnow := utcnow
  drawnKey := 1

namespace World

variable {D : Type}

/-- A world with a config file, with empty stores and nothing on disk. -/
def blank (config : Config) : World D where
  config := config
  cluster := ⟨Store.empty, fun _ => none, fun _ _ => none⟩
  hdfs _ := none
  mysql _ := none
  files _ := none
  dirs _ := false
  backups := Table.empty
  restores := Table.empty

/-! ## Answers -/

def setCluster (w : World D) (cluster : Cluster D) : World D := { w with cluster }

/-- `os.path.exists` -/
def isThere (w : World D) (path : String) : Bool := w.dirs path || (w.files path).isSome

def makeDir (w : World D) (path : String) : World D :=
  { w with dirs := Function.update w.dirs path true }

def writeDump (w : World D) (path : String) (dump : Dump D) : World D :=
  { w with files := Function.update w.files path (some (.dump dump)) }

/-- What mysqldump has written when it ends. -/
def dumped (w : World D) (returncode : Int) (reached : String → Bool) : Dump D where
  tables t := if handled returncode reached t then w.mysql t else none
  completed := returncode = 0

/-- What copyToLocal has copied when it ends. -/
def copiedOut (w : World D) (source target : String) (reached : String → Bool) : World D :=
  { w.makeDir target with files := copyTree source target reached w.hdfs w.files }

/-- What copyFromLocal has copied when it ends. -/
def copiedIn (w : World D) (source target : String) (reached : String → Bool) : World D :=
  { w with hdfs := copyTree source target reached w.files w.hdfs }

/-- What sourcing a dump has written when it ends. -/
def sourced (w : World D) (d : Dump D) (reached : String → Bool) : World D :=
  { w with mysql := fun t => if reached t then (d.tables t).or (w.mysql t) else w.mysql t }

def runCopyToLocal (w : World D) (source target : String) : Ending → Except PyExc Int × World D
  | .notStarted => (.error .osError, w)
  | .exited returncode reached =>
    (.ok returncode, w.copiedOut source target (handled returncode reached))

def runCopyFromLocal (w : World D) (source target : String) : Ending → Except PyExc Int × World D
  | .notStarted => (.error .osError, w)
  | .exited returncode reached =>
    if w.dirs source then
      (.ok returncode, w.copiedIn source target (handled returncode reached))
    else (.ok (failing returncode), w)

def runMysqldump (w : World D) (target : String) : Ending → Except PyExc Int × World D
  | .notStarted => (.error .osError, w)
  | .exited returncode reached =>
    (.ok returncode, w.writeDump target (w.dumped returncode reached))

def runMysqlSource (w : World D) (script : String) : Ending → Except PyExc Int × World D
  | .notStarted => (.error .osError, w)
  | .exited returncode reached =>
    match w.files script with
    | some (.dump d) => (.ok returncode, w.sourced d (handled returncode reached))
    | _ => (.ok (failing returncode), w)

def answerHost (ω : Outcomes) (w : World D) : (c : HostCall) → Except PyExc c.Reply × World D
  | .copyToLocal source target => w.runCopyToLocal source target ω.copyToLocal
  | .copyFromLocal source target => w.runCopyFromLocal source target ω.copyFromLocal
  | .pathExists path => (.ok (w.isThere path), w)
  | .makedirs path =>
    if ω.makedirsRaises then (.error .osError, w) else (.ok (), w.makeDir path)
  | .openForWriting path =>
    if ω.openRaises then (.error .osError, w)
    else (.ok (), w.writeDump path ⟨fun _ => none, false⟩)
  | .mysqldump _ target => w.runMysqldump target ω.mysqldump
  | .mysqlSource _ script => w.runMysqlSource script ω.mysql

/-- The key of a row that names none. When the greatest key of 64 bits is taken,
SQLite draws keys until one is free or it gives up. -/
def newKey {ρ : Type} (ω : Outcomes) (t : Table ρ) : Except PyExc Int :=
  if storable t.nextId then .ok t.nextId
  else if storable ω.drawnKey && (t.find? ω.drawnKey).isNone then .ok ω.drawnKey
  else .error .dbapiError

/-- The key of a row that names this one. -/
def freeKey {ρ : Type} (t : Table ρ) (id : Int) : Except PyExc Int :=
  if (t.find? id).isSome then .error .dbapiError else .ok id

/-- The key of a new `Restore` row, or the exception its commit raises. A Python
integer that does not fit into its column never gets to SQLite. -/
def restoreKey (ω : Outcomes) (w : World D) (backupId : Int) (id : BodyId) : Except PyExc Int :=
  if storable backupId then
    match id with
    | .absent => newKey ω w.restores
    | .integer n => if storable n then freeKey w.restores n else .error .overflowError
    | .text n => if storable n then freeKey w.restores n else .error .dbapiError
    | .other => .error .dbapiError
  else .error .overflowError

/-- `Model.query.filter(Model.id == id).one()`. A number that does not fit into
the column never gets to SQLite. -/
def oneRow {ρ : Type} (t : Table ρ) (id : Int) : Except PyExc ρ :=
  if storable id then
    match t.find? id with
    | some row => .ok row
    | none => .error .noResultFound
  else .error .overflowError

/-- The rows a query selects, in the order in which SQLite scans the table. -/
def matching (w : World D) (keep : Backup → Bool) : List (Int × Backup) :=
  w.backups.rows.filter fun row => keep row.2

/-- The rows of a page. SQLite takes a negative offset for zero; one of more than
64 bits never gets to it. -/
def pageOf (w : World D) (keep : Backup → Bool) (limit : Nat) (offset : Int) :
    Except PyExc (List (Int × Backup)) :=
  if storable offset then .ok (window limit offset.toNat (w.matching keep))
  else .error .overflowError

/-- A value that was changed after it was loaded is written, another one stays. -/
def flushed {α : Type} [DecidableEq α] (loaded changed current : α) : α :=
  if changed = loaded then current else changed

/-- The row a `Backup` becomes that was loaded and changed. -/
def flushedBackup (loaded row current : Backup) : Backup where
  title := flushed loaded.title row.title current.title
  startDate := flushed loaded.startDate row.startDate current.startDate
  status := flushed loaded.status row.status current.status

/-- The row a `Restore` becomes that was loaded and changed. -/
def flushedRestore (loaded row current : Restore) : Restore where
  title := flushed loaded.title row.title current.title
  backupId := flushed loaded.backupId row.backupId current.backupId

/-- Flush a row. If it is not there any more and there is something to write,
SQLAlchemy raises. -/
def flushRow {ρ : Type} [DecidableEq ρ] (t : Table ρ) (id : Int) (loaded row : ρ)
    (write : ρ → ρ) : Except PyExc Unit × Table ρ :=
  match t.find? id with
  | some current => (.ok (), t.put id (write current))
  | none => (if row = loaded then .ok () else .error .staleDataError, t)

def answerDb (ω : Outcomes) (w : World D) : (c : DbCall) → Except PyExc c.Reply × World D
  | .insertBackup title status =>
    -- no backup names its key, so the keys of 64 bits do not run out
    (.ok w.backups.nextId,
      { w with backups := w.backups.put w.backups.nextId ⟨title, ω.utcnow, status⟩ })
  | .oneBackup id => (oneRow w.backups id, w)
  | .commitBackup id loaded row =>
    let flush := flushRow w.backups id loaded row (flushedBackup loaded row)
    (flush.1, { w with backups := flush.2 })
  | .deleteBackup id => (.ok (), { w with backups := w.backups.remove id })
  | .insertRestore id row =>
    match w.restoreKey ω row.backupId id with
    | .ok key => (.ok (), { w with restores := w.restores.put key row })
    | .error e => (.error e, w)
  | .oneRestore id => (oneRow w.restores id, w)
  | .commitRestore id loaded row =>
    let flush := flushRow w.restores id loaded row (flushedRestore loaded row)
    (flush.1, { w with restores := flush.2 })
  | .deleteRestore id => (.ok (), { w with restores := w.restores.remove id })
  | .pageOfBackups keep limit offset => (w.pageOf keep limit offset, w)
  | .countBackups keep => (.ok (w.matching keep).length, w)

def answerEs (ω : Outcomes) (w : World D) (c : EsCall) : Except PyExc Unit × World D :=
  ((Cluster.answer (ω.es c.step) w.cluster c).1.mapError PyExc.elasticsearch,
    w.setCluster (Cluster.answer (ω.es c.step) w.cluster c).2)

/-- The world as the machine that answers the code's calls. -/
def answer (ω : Outcomes) : Machine Call Reply PyExc (World D)
  | .es c, w => w.answerEs ω c
  | .host c, w => w.answerHost ω c
  | .db c, w => w.answerDb ω c
  | .readConfig, w => (.ok w.config, w)

/-! ## Small lemmas -/

theorem oneRow_eq_ok_iff {ρ : Type} {t : Table ρ} {id : Int} {row : ρ} :
    oneRow t id = .ok row ↔ storable id = true ∧ t.find? id = some row := by
  unfold oneRow
  cases storable id with
  | false => simp
  | true => cases t.find? id <;> simp

section Keys

variable {ρ : Type} {ω : Outcomes} {t : Table ρ} {w : World D} {backupId id key : Int}

theorem newKey_eq_ok (h : newKey ω t = .ok key) : storable key = true ∧ t.find? key = none := by
  unfold newKey at h
  split at h
  · next hfits =>
    cases h
    exact ⟨hfits, t.find?_nextId⟩
  · split at h
    · next hdrawn =>
      cases h
      rw [Bool.and_eq_true, Option.isNone_iff_eq_none] at hdrawn
      exact hdrawn
    · cases h

theorem freeKey_eq_ok_iff : freeKey t id = .ok key ↔ key = id ∧ t.find? id = none := by
  unfold freeKey
  cases t.find? id with
  | none => simp [eq_comm]
  | some row => simp

/-- A new row of the table of restores gets a key that fits and has no row. -/
theorem restoreKey_eq_ok {bodyId : BodyId} (h : w.restoreKey ω backupId bodyId = .ok key) :
    storable key = true ∧ w.restores.find? key = none := by
  unfold restoreKey at h
  split at h
  · split at h
    · exact newKey_eq_ok h
    · split at h
      · next hfits =>
        obtain ⟨rfl, hfree⟩ := freeKey_eq_ok_iff.1 h
        exact ⟨hfits, hfree⟩
      · cases h
    · split at h
      · next hfits =>
        obtain ⟨rfl, hfree⟩ := freeKey_eq_ok_iff.1 h
        exact ⟨hfits, hfree⟩
      · cases h
    · cases h
  · cases h

theorem newKey_error {e : PyExc} (h : newKey ω t = .error e) : e = .dbapiError := by
  unfold newKey at h
  split at h
  · cases h
  · split at h <;> cases h
    rfl

theorem freeKey_error {e : PyExc} (h : freeKey t id = .error e) : e = .dbapiError := by
  unfold freeKey at h
  split at h <;> cases h
  rfl

/-- What the commit of a new row of the table of restores raises. -/
theorem restoreKey_error {bodyId : BodyId} {e : PyExc}
    (h : w.restoreKey ω backupId bodyId = .error e) : e = .dbapiError ∨ e = .overflowError := by
  unfold restoreKey at h
  split at h
  · split at h
    · exact .inl (newKey_error h)
    · split at h
      · exact .inl (freeKey_error h)
      · exact .inr (Except.error.inj h).symm
    · split at h
      · exact .inl (freeKey_error h)
      · exact .inl (Except.error.inj h).symm
    · exact .inl (Except.error.inj h).symm
  · exact .inr (Except.error.inj h).symm

/-- The outcomes decide only which key SQLite draws. -/
theorem restoreKey_congr {ω' : Outcomes} (h : ω'.drawnKey = ω.drawnKey) (bodyId : BodyId) :
    w.restoreKey ω' backupId bodyId = w.restoreKey ω backupId bodyId := by
  unfold restoreKey newKey
  rw [h]

end Keys

section Flush

@[simp] theorem flushed_self {α : Type} [DecidableEq α] (loaded changed : α) :
    flushed loaded changed loaded = changed := by
  unfold flushed
  split
  · next h => exact h.symm
  · rfl

@[simp] theorem flushedBackup_self (loaded row : Backup) :
    flushedBackup loaded row loaded = row := by
  simp [flushedBackup]

@[simp] theorem flushedRestore_self (loaded row : Restore) :
    flushedRestore loaded row loaded = row := by
  simp [flushedRestore]

variable {ρ : Type} [DecidableEq ρ] {t : Table ρ} {id : Int} {loaded row : ρ} {write : ρ → ρ}

/-- A row that is as it was loaded becomes what it was changed to. -/
theorem flushRow_of_loaded (h : t.find? id = some loaded) (hwrite : write loaded = row) :
    flushRow t id loaded row write = (.ok (), t.put id row) := by
  simp only [flushRow, h, hwrite]

/-- A flush keeps all keys. -/
theorem mem_ids_flushRow {j : Int} (h : j ∈ t.ids) :
    j ∈ (flushRow t id loaded row write).2.ids := by
  unfold flushRow
  split
  · exact (Table.mem_ids_put ..).2 (.inr h)
  · exact h

end Flush

section SetCluster

variable (w : World D) (c c' : Cluster D)

@[simp] theorem setCluster_cluster : (w.setCluster c).cluster = c := rfl
@[simp] theorem setCluster_hdfs : (w.setCluster c).hdfs = w.hdfs := rfl
@[simp] theorem setCluster_setCluster : (w.setCluster c).setCluster c' = w.setCluster c' := rfl
@[simp] theorem setCluster_self : w.setCluster w.cluster = w := rfl

section Answers

variable (ω : Outcomes)

theorem setCluster_dirs : (w.setCluster c).dirs = w.dirs := rfl

theorem setCluster_files : (w.setCluster c).files = w.files := rfl

theorem restoreKey_setCluster (backupId : Int) (id : BodyId) :
    (w.setCluster c).restoreKey ω backupId id = w.restoreKey ω backupId id := rfl

/-- The host does not see the cluster. -/
theorem answerHost_setCluster (call : HostCall) :
    (w.setCluster c).answerHost ω call =
      ((w.answerHost ω call).1, (w.answerHost ω call).2.setCluster c) := by
  cases call with
  | copyToLocal source target => cases h : ω.copyToLocal <;> simp only [answerHost, h] <;> rfl
  | copyFromLocal source target =>
    cases h : ω.copyFromLocal with
    | notStarted => simp only [answerHost, runCopyFromLocal, h]
    | exited returncode reached =>
      cases hdir : w.dirs source <;>
        simp only [answerHost, runCopyFromLocal, h, setCluster_dirs, hdir] <;> rfl
  | pathExists path => rfl
  | makedirs path => cases h : ω.makedirsRaises <;> simp only [answerHost, h] <;> rfl
  | openForWriting path => cases h : ω.openRaises <;> simp only [answerHost, h] <;> rfl
  | mysqldump cnf target => cases h : ω.mysqldump <;> simp only [answerHost, h] <;> rfl
  | mysqlSource cnf script =>
    cases h : ω.mysql with
    | notStarted => simp only [answerHost, runMysqlSource, h]
    | exited returncode reached =>
      simp only [answerHost, runMysqlSource, h, setCluster_files]
      rcases w.files script with - | (- | -) <;> rfl

theorem answerDb_setCluster (call : DbCall) :
    (w.setCluster c).answerDb ω call =
      ((w.answerDb ω call).1, (w.answerDb ω call).2.setCluster c) := by
  cases call with
  | insertRestore id row =>
    simp only [answerDb, restoreKey_setCluster]
    cases w.restoreKey ω row.backupId id <;> rfl
  | _ => rfl

/-- Only the client changes the cluster. -/
theorem cluster_answerHost (call : HostCall) : (w.answerHost ω call).2.cluster = w.cluster :=
  congrArg (fun x : _ × World D => x.2.cluster) (answerHost_setCluster w w.cluster ω call)

theorem cluster_answerDb (call : DbCall) : (w.answerDb ω call).2.cluster = w.cluster :=
  congrArg (fun x : _ × World D => x.2.cluster) (answerDb_setCluster w w.cluster ω call)

end Answers

end SetCluster

section Files

variable (w : World D) (path : String) (d : Dump D)

@[simp] theorem writeDump_files_self : (w.writeDump path d).files path = some (.dump d) :=
  Function.update_self ..

theorem writeDump_files_of_ne {other : String} (h : other ≠ path) :
    (w.writeDump path d).files other = w.files other := Function.update_of_ne h ..

theorem writeDump_writeDump (d' : Dump D) :
    (w.writeDump path d).writeDump path d' = w.writeDump path d' := by
  simp [writeDump, Function.update_idem]

end Files

section Processes

variable {w w' : World D} {source target : String} {e : Ending}

@[simp] theorem handled_zero (reached : String → Bool) : handled 0 reached = fun _ => true := rfl

/-- A dump that ends well holds every table. -/
@[simp] theorem dumped_zero (reached : String → Bool) : w.dumped 0 reached = ⟨w.mysql, true⟩ := by
  simp [dumped]

/-- A copy that exits zero has copied everything. -/
theorem runCopyToLocal_eq_ok_zero_iff :
    w.runCopyToLocal source target e = (.ok 0, w') ↔
      (∃ reached, e = .exited 0 reached) ∧ w' = w.copiedOut source target fun _ => true := by
  cases e with
  | notStarted => simp [runCopyToLocal]
  | exited returncode reached =>
    simp only [runCopyToLocal, Prod.mk.injEq, Except.ok.injEq, Ending.exited.injEq]
    constructor
    · rintro ⟨rfl, rfl⟩
      exact ⟨⟨reached, rfl, rfl⟩, rfl⟩
    · rintro ⟨⟨_, rfl, rfl⟩, rfl⟩
      exact ⟨rfl, rfl⟩

theorem failing_ne_zero (returncode : Int) : failing returncode ≠ 0 := by
  unfold failing
  split <;> omega

theorem runCopyFromLocal_eq_ok_zero_iff :
    w.runCopyFromLocal source target e = (.ok 0, w') ↔
      (∃ reached, e = .exited 0 reached) ∧ w.dirs source = true ∧
        w' = w.copiedIn source target fun _ => true := by
  cases e with
  | notStarted => simp [runCopyFromLocal]
  | exited returncode reached =>
    simp only [runCopyFromLocal, Ending.exited.injEq]
    cases hdir : w.dirs source with
    | false => simp [failing_ne_zero]
    | true =>
      simp only [if_true, Prod.mk.injEq, Except.ok.injEq, true_and]
      constructor
      · rintro ⟨rfl, rfl⟩
        exact ⟨⟨reached, rfl, rfl⟩, rfl⟩
      · rintro ⟨⟨_, rfl, rfl⟩, rfl⟩
        exact ⟨rfl, rfl⟩

@[simp] theorem copiedIn_hdfs_joinPath (rel : String) :
    (w.copiedIn source target fun _ => true).hdfs (joinPath target rel) =
      (w.files (joinPath source rel)).or (w.hdfs (joinPath target rel)) := copyTree_joinPath ..

/-- A client that sources a dump and exits zero has written every table of it. -/
theorem runMysqlSource_zero {script : String} {d : Dump D} (reached : String → Bool)
    (h : w.files script = some (.dump d)) :
    w.runMysqlSource script (.exited 0 reached) = (.ok 0, w.sourced d fun _ => true) := by
  simp only [runMysqlSource, h, handled_zero]

theorem sourced_mysql_of_some {d : Dump D} {t : String} {content : D}
    (h : d.tables t = some content) : (w.sourced d fun _ => true).mysql t = some content := by
  simp [sourced, h]

end Processes

end World

end Edm
