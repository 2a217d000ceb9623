import Edm.Effects.Crash
import Edm.Service.Scripts

/-!
# The whole deployment

Whatever works on the three stores: the requests of the REST service, the
scripts of the Java service and `esutils.py` as a program of its own. The
containers share the cluster, the stores and `/backup`, and their config files
hold the same text. A job runs to its end, or its process dies after some of its calls.
-/

namespace Edm

open Effects Data

variable {D : Type}

/-! ## `main` of `esutils.py` -/

/-- `-m`, by its `choices`. -/
inductive Mode where
  | backup
  | restore
  deriving DecidableEq

def setOption (sec option value : String) (config : Config) : Config :=
  config.map fun section_ =>
    if section_.1 = sec then (section_.1, section_.2 ++ [(option, value)]) else section_

theorem lookup_setOption (config : Config) (sec sec' option value : String) :
    (setOption sec option value config).lookup sec' =
      (config.lookup sec').map fun options =>
        if sec' = sec then options ++ [(option, value)] else options := by
  induction config with
  | nil => rfl
  | cons section_ rest ih =>
    obtain ⟨key, options⟩ := section_
    have hcons : setOption sec option value ((key, options) :: rest) =
        (key, if key = sec then options ++ [(option, value)] else options) ::
          setOption sec option value rest := by
      rw [setOption, List.map_cons]
      split <;> rfl
    rw [hcons, List.lookup_cons, List.lookup_cons]
    by_cases hsec : sec' = key
    · simp [hsec]
    · simp only [beq_eq_false_iff_ne.2 hsec, ih]

theorem item_setOption (config : Config) (sec value : String) {option name : String}
    (h : name ≠ option) (sec' : String) :
    (setOption sec option value config).item sec' name = config.item sec' name := by
  have hone : [(option, value)].lookup name = none := by
    simp [List.lookup_cons, beq_eq_false_iff_ne.2 h]
  unfold Config.item
  rw [lookup_setOption]
  cases config.lookup sec' with
  | none => rfl
  | some options =>
    have hlookup : (if sec' = sec then options ++ [(option, value)] else options).lookup name =
        options.lookup name := by
      split
      · rw [List.lookup_append, hone, Option.or_none]
      · rfl
    simp only [Option.map_some, hlookup]

/-- Set the default value of `snapshot_prefix` if it is missing (lines 229 to 232). -/
def Config.withDefaults (config : Config) : Except PyExc Config :=
  match config.lookup "elasticsearch_config" with
  | none => .error (.keyError "elasticsearch_config")
  | some options =>
    if (options.lookup "snapshot_prefix").isSome then .ok config
    else .ok (setOption "elasticsearch_config" "snapshot_prefix" "elastest_snapshot" config)

/-- The default is not read by what chooses the nodes. -/
theorem settings_withDefaults {config config' : Config} (h : config.withDefaults = .ok config') :
    config'.srcSettings = config.srcSettings ∧ config'.destSettings = config.destSettings := by
  unfold Config.withDefaults at h
  split at h
  · cases h
  · split at h
    · cases h
      exact ⟨rfl, rfl⟩
    · cases h
      have hitem (name : String) (hne : name ≠ "snapshot_prefix") :=
        item_setOption config "elasticsearch_config" "elastest_snapshot" hne "elasticsearch_config"
      simp [Config.srcSettings, Config.destSettings, Config.otherSeeds, hitem]

/-- The parsed command line is its `mode`. -/
def esutilsMain (mode : Mode) : Py Unit := do
  let config ← readConfig
  let config ← Prog.ofExcept config.withDefaults
  let backupId := 1
  match mode with
  | .backup => snapshotIndicesFromSrcToFs config backupId
  | .restore => restoreIndicesFromFsToDest config backupId

/-! ## Jobs -/

inductive Job (D : Type) where
  | request (q : Request D)
  | script (script : Script)
  | esutils (mode : Mode)

/-- What the process of a job runs. -/
def Job.prog : Job D → Py Unit
  | .request (.createEdmBackup data) => do
    let _backupId ← createEdmBackup data
  | .request (.updateEdmBackup backupId data) => updateEdmBackup backupId data
  | .request (.deleteEdmBackup backupId) => deleteEdmBackup backupId
  | .request (.createRestore data) => createRestore data
  | .request (.updateRestore restoreId data) => updateRestore restoreId data
  | .request (.deleteRestore restoreId) => deleteRestore restoreId
  | .request (.changeStores _) => pure ()
  | .script .backup => do
    let _backupId ← doBackup
  | .script .restore => doRestore
  | .esutils mode => esutilsMain mode

inductive JobAnswer where
  | answer (a : Answer)
  | exitStatus (code : Int)
  deriving DecidableEq

/-- Run a job to its end. -/
def World.runJob (ω : Outcomes) (w : World D) : Job D → JobAnswer × World D
  | .request q => (.answer (w.serveRequest ω q).1, (w.serveRequest ω q).2)
  | .script script => (.exitStatus (w.runScript ω script).1, (w.runScript ω script).2)
  | .esutils mode =>
    (.exitStatus (exitStatus ((esutilsMain mode).run (World.answer ω) w).1),
      ((esutilsMain mode).run (World.answer ω) w).2)

/-- What a request leaves whose process dies after so many calls. A change of
the stores has no process. -/
def World.dieInRequest (ω : Outcomes) (n : Nat) (w : World D) : Request D → World D
  | .createEdmBackup data => (createEdmBackup data).runFor (World.answer ω) n w
  | .updateEdmBackup backupId data => (updateEdmBackup backupId data).runFor (World.answer ω) n w
  | .deleteEdmBackup backupId => (deleteEdmBackup backupId).runFor (World.answer ω) n w
  | .createRestore data => (createRestore data).runFor (World.answer ω) n w
  | .updateRestore restoreId data => (updateRestore restoreId data).runFor (World.answer ω) n w
  | .deleteRestore restoreId => (deleteRestore restoreId).runFor (World.answer ω) n w
  | .changeStores stores => w.withStores stores

/-- What a job leaves whose process dies after so many calls. -/
def World.dieInJob (ω : Outcomes) (n : Nat) (w : World D) : Job D → World D
  | .request q => w.dieInRequest ω n q
  | .script .backup => doBackup.runFor (World.answer ω) n w
  | .script .restore => doRestore.runFor (World.answer ω) n w
  | .esutils mode => (esutilsMain mode).runFor (World.answer ω) n w

/-- A job, with the outcomes it meets and the number of calls after which its
process dies, if it does. -/
structure Turn (D : Type) where
  outcomes : Outcomes
  dies : Option Nat
  job : Job D

/-- A job whose process dies is not answered. -/
def World.takeTurn (turn : Turn D) (w : World D) : Option JobAnswer × World D :=
  match turn.dies with
  | none => (some (w.runJob turn.outcomes turn.job).1, (w.runJob turn.outcomes turn.job).2)
  | some n => (none, w.dieInJob turn.outcomes n turn.job)

/-- A step of the history of the deployment. -/
abbrev ServedTurn (D : Type) := Served (Turn D) (Option JobAnswer) (World D)

end Edm
