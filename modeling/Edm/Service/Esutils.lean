import Edm.World.Environment

/-!
# `esutils.py`

The two functions that talk to Elasticsearch. `rest/.../utils/esutils.py` and
`rest-java/scripts/esutils.py` differ in the path of the config file only, so
the definitions stand for both. Messages the functions print are left out.
-/

namespace Edm

open Effects

/-! ## Python idioms -/

/-- `except Exception as e: handler` -/
def exceptException {α : Type} (handler : PyExc → Py α) : PyExc → Py α := fun e =>
  if e.isException then handler e else .raise e

/-- `config[sec][option]` -/
def Config.item (config : Config) (sec option : String) : Except PyExc String :=
  match config.lookup sec with
  | none => .error (.keyError sec)
  | some options =>
    match options.lookup option with
    | none => .error (.keyError option)
    | some value => .ok value

/-- The second and third seed node, or the first one twice when the config does
not name both. -/
def Config.otherSeeds (config : Config) (seed1 key2 key3 : String) :
    Except PyExc (String × String) :=
  match (do
    let seed2 ← config.item "elasticsearch_config" key2
    let seed3 ← config.item "elasticsearch_config" key3
    pure (seed2, seed3) : Except PyExc (String × String)) with
  | .error (.keyError _) => .ok (seed1, seed1)
  | other => other

/-- `config['elasticsearch_config']['snapshot_prefix'] + "_" + str(backup_id)` -/
def Config.snapshotName (config : Config) (backupId : Int) : Except PyExc String := do
  let snapshotPrefix ← config.item "elasticsearch_config" "snapshot_prefix"
  pure (snapshotPrefix ++ "_" ++ str backupId)

/-- The section of `es-fs-snapshot.conf` the code reads, as shipped. -/
def Config.shipped : Config :=
  [("elasticsearch_config",
    [("es_repository_name", "elastest-snapshot"),
      ("es_src_seed1", "elasticsearch:9200"),
      ("es_dest_seed1", "elasticsearch:9200"),
      ("index_names", "logstash-2015.05.18,logstash-2015.05.19,logstash-2015.05.20"),
      ("snapshot_prefix", "elastest_snapshot")])]

def esCall (c : EsCall) : Py Unit := Prog.perform (R := Reply) (Call.es c)

/-! ## `snapshot_indices_from_src_to_fs` -/

/-- The repository and the seed nodes of a snapshot (lines 33 to 41). -/
def Config.srcSettings (config : Config) : Except PyExc (String × List String) := do
  let srcSeed1 ← config.item "elasticsearch_config" "es_src_seed1"
  let esFsRepo ← config.item "elasticsearch_config" "es_repository_name"
  let (srcSeed2, srcSeed3) ← config.otherSeeds srcSeed1 "es_src_seed2" "es_src_seed3"
  pure (esFsRepo, [srcSeed1, srcSeed2, srcSeed3])

/-- Look the snapshot up and delete it; any error counts as "does not exist"
(lines 66 to 73). -/
def dropSnapshot (esFsRepo snapshotName : String) : Py Unit :=
  Prog.tryCatch
    (do
      esCall (.getSnapshot esFsRepo snapshotName)
      esCall (.deleteSnapshot esFsRepo snapshotName))
    (exceptException fun _ => pure ())

/-- The body of the outer `try` (lines 44 to 79). -/
def takeSnapshot (config : Config) (esFsRepo : String) (seeds : List String) (backupId : Int) :
    Py Unit := do
  esCall (.connect seeds)
  esCall .info
  esCall (.createRepository esFsRepo (str backupId))
  let snapshotName ← Prog.ofExcept (config.snapshotName backupId)
  dropSnapshot esFsRepo snapshotName
  esCall (.createSnapshot esFsRepo snapshotName)

def snapshotIndicesFromSrcToFs (config : Config) (backupId : Int) : Py Unit := do
  let (esFsRepo, seeds) ← Prog.ofExcept config.srcSettings
  Prog.tryCatch (takeSnapshot config esFsRepo seeds backupId) (exceptException fun _ => pure ())

/-! ## `restore_indices_from_fs_to_dest` -/

/-- The repository and the seed nodes of a restore (lines 98 to 108). The list
of index names is read and not used. -/
def Config.destSettings (config : Config) : Except PyExc (String × List String) := do
  let destSeed1 ← config.item "elasticsearch_config" "es_dest_seed1"
  let esFsRepo ← config.item "elasticsearch_config" "es_repository_name"
  let _indexNames ← config.item "elasticsearch_config" "index_names"
  let (destSeed2, destSeed3) ← config.otherSeeds destSeed1 "es_dest_seed2" "es_dest_seed3"
  pure (esFsRepo, [destSeed1, destSeed2, destSeed3])

/-- Close all indices; an error is printed only (lines 137 to 143). -/
def closeIndices : Py Unit :=
  Prog.tryCatch (esCall .closeIndices) fun
    | .elasticsearch .notFoundError => pure ()
    | e => exceptException (fun _ => pure ()) e

/-- Open all indices; an error is printed only. -/
def reopenIndices : Py Unit :=
  Prog.tryCatch (esCall .openIndices) fun
    | .elasticsearch .notFoundError => pure ()
    | e => exceptException (fun _ => pure ()) e

/-- The body of the outer `try` (lines 112 to 166). -/
def restoreSnapshot (config : Config) (esFsRepo : String) (seeds : List String)
    (backupId : Int) : Py Unit := do
  esCall (.connect seeds)
  esCall (.createRepository esFsRepo (str backupId))
  esCall .info
  closeIndices
  let snapshotName ← Prog.ofExcept (config.snapshotName backupId)
  esCall (.restoreSnapshot esFsRepo snapshotName)
  reopenIndices

/-- The `finally` block of the source prints only. -/
def restoreIndicesFromFsToDest (config : Config) (backupId : Int) : Py Unit := do
  let (esFsRepo, seeds) ← Prog.ofExcept config.destSettings
  Prog.tryCatch (restoreSnapshot config esFsRepo seeds backupId)
    (exceptException fun _ => .raise (.exception "Restore FAILED !!!"))

end Edm
