import Edm.Verify.Answers
import Edm.Verify.Crash
import Edm.Verify.RoundTrip

/-!
# What survives in the whole deployment

Runs in which the REST service, the scripts and `esutils.py` take turns, with
any outcomes, and any process may die after any of its calls. A backup of the
REST service outlives all of them but those that write under its id or delete
its row (`backup_survives`), can then be restored however often a restore was
cut short before (`restore_completes`), and is never seen by the users of the
stores (`stores_of_no_restore`).
-/

namespace Edm

open Effects Data

variable {D : Type}

/-! ## What a job touches -/

/-- The job deletes the row of the backup `b`, or is a backup that goes by the
fixed id `b` whatever the catalogue holds. -/
def Job.Threatens (b : Int) : Job D → Prop
  | .request (.deleteEdmBackup backupId) => backupId = b
  | .script .backup => b = 3
  | .esutils .backup => b = 1
  | _ => False

/-- The job is a restore. -/
def Job.Restores : Job D → Prop
  | .request (.createRestore _) => True
  | .script .restore => True
  | .esutils .restore => True
  | _ => False

/-- The catalogue has a row for `b`, and the artifacts of `b` hold the capture. -/
structure Keeps (b : Int) (c : Capture D) (w : World D) : Prop where
  row : b ∈ w.backups.ids
  saves : Saves w b c

theorem answered_fst_of_ok {α : Type} {returned : α → Answer} {x : Except PyExc α × World D}
    {a : α} (h : x.1 = .ok a) : (answered returned x).1 = returned a := by
  obtain ⟨r, w'⟩ := x
  cases h
  rfl

section Requests

variable {ω : Outcomes} {w : World D} {b : Int}

/-- A request drops no key but the one it deletes. -/
theorem mem_ids_of_not_threatens {q : Request D} (h : b ∈ w.backups.ids)
    (hq : ¬Job.Threatens b (.request q)) : b ∈ (w.serveRequest ω q).2.backups.ids := by
  cases q with
  | createEdmBackup data =>
    rw [World.serveRequest, answered_snd, run_createEdmBackup,
      (sameCatalogue_backupStages _ _).backups, World.withBackup, Table.mem_ids_put]
    exact .inr h
  | updateEdmBackup backupId data =>
    rw [World.serveRequest, answered_snd, run_updateEdmBackup]
    split
    · exact (Table.mem_ids_put ..).2 (.inr h)
    · exact h
  | deleteEdmBackup backupId =>
    rw [World.serveRequest, answered_snd, run_deleteEdmBackup]
    split
    · exact (Table.mem_ids_remove ..).2 ⟨fun heq => hq heq.symm, h⟩
    · exact h
  | createRestore data =>
    rw [World.serveRequest, answered_snd, run_createRestore]
    split
    · rw [(sameCatalogue_restoreStages _ _).backups]
      exact h
    · exact h
  | updateRestore restoreId data =>
    rw [World.serveRequest, answered_snd, run_updateRestore]
    split <;> exact h
  | deleteRestore restoreId =>
    rw [World.serveRequest, answered_snd, run_deleteRestore]
    split <;> exact h
  | changeStores stores => exact h

/-- While its row is there, no new backup gets the id. -/
theorem keeps_serveRequest {c : Capture D} {q : Request D} (h : Keeps b c w)
    (hq : ¬Job.Threatens b (.request q)) : Keeps b c (w.serveRequest ω q).2 where
  row := mem_ids_of_not_threatens h.row hq
  saves := by
    have hfresh : allocated w q ≠ some b := by
      intro halloc
      have hlt := Table.lt_nextId h.row
      rw [allocated_eq_some halloc] at hlt
      omega
    unfold Saves
    rw [artifacts_serveRequest ω w b q hfresh, config_serveRequest]
    exact h.saves

end Requests

section Jobs

variable {ω : Outcomes} {w : World D} {b : Int} {c : Capture D}

theorem Keeps.of_artifacts {w' : World D} (h : Keeps b c w) (hsame : SameCatalogue w w')
    (hartifacts : w'.artifacts b = w.artifacts b) : Keeps b c w' where
  row := hsame.backups ▸ h.row
  saves := by
    unfold Saves
    rw [hartifacts, hsame.config]
    exact h.saves

theorem config_answer (ω : Outcomes) (c : Call) (w : World D) :
    (World.answer ω c w).2.config = w.config := by
  cases c with
  | es c => rfl
  | host c => exact (sameCatalogue_answerHost c).config
  | readConfig => rfl
  | db c =>
    cases c with
    | insertRestore id row =>
      simp only [World.answer, World.answerDb]
      split <;> rfl
    | _ => rfl

theorem calls_esutilsMain (mode : Mode) : (esutilsMain mode).Calls fun c => ∀ d, c ≠ .db d := by
  refine .bind (calls_readConfig fun _ => nofun) fun config =>
    .bind (.ofExcept _) fun config => ?_
  cases mode with
  | backup => exact calls_snapshotIndices (fun _ _ => nofun) _ _
  | restore => exact calls_restoreIndices (fun _ _ => nofun) _ _

theorem sameCatalogue_esutilsMain (mode : Mode) :
    SameCatalogue w ((esutilsMain mode).run (World.answer ω) w).2 :=
  sameCatalogue_run (calls_esutilsMain mode)

/-- `esutils.py` writes under the id `1` only. -/
theorem artifacts_esutilsMain {mode : Mode} (h : ¬Job.Threatens b (.esutils (D := D) mode)) :
    ((esutilsMain mode).run (World.answer ω) w).2.artifacts b = w.artifacts b := by
  unfold esutilsMain
  simp only [Prog.run_bind, run_readConfig, Prog.run_ofExcept]
  cases w.config.withDefaults with
  | error e => rfl
  | ok config =>
    cases mode with
    | backup =>
      obtain ⟨cluster, hrun, -, hsnapshots⟩ := exists_cluster_snapshot config 1 ω w
      show ((snapshotIndicesFromSrcToFs config 1).run (World.answer ω) w).2.artifacts b = _
      rw [hrun]
      exact artifacts_setCluster (hsnapshots _ fun heq => h (str_inj heq))
    | restore => exact artifacts_restoreIndices config b 1

theorem keeps_runJob {job : Job D} (h : Keeps b c w) (hjob : ¬job.Threatens b) :
    Keeps b c (w.runJob ω job).2 := by
  cases job with
  | request q => exact keeps_serveRequest h hjob
  | script script =>
    cases script with
    | backup =>
      show Keeps b c (doBackup.run (World.answer ω) w).2
      rw [run_doBackup]
      exact h.of_artifacts (sameCatalogue_backupStages _ _)
        (artifacts_backupStages (fun heq => hjob heq.symm) _)
    | restore =>
      exact h.of_artifacts (sameCatalogue_restoreStages _ _) (artifacts_restoreStages b 3 _)
  | esutils mode =>
    exact h.of_artifacts (sameCatalogue_esutilsMain mode) (artifacts_esutilsMain hjob)

theorem keeps_of_succeeds (data : TitleBody) (h : Succeeds w.backups.nextId ω w) :
    ((createEdmBackup data).run (World.answer ω) w).1 = .ok w.backups.nextId ∧
      Keeps w.backups.nextId w.capture ((createEdmBackup data).run (World.answer ω) w).2 := by
  obtain ⟨hok, hsaves⟩ := saves_createEdmBackup data h
  refine ⟨hok, ?_, hsaves⟩
  rw [run_createEdmBackup, (sameCatalogue_backupStages _ _).backups, World.withBackup]
  exact (Table.mem_ids_put ..).2 (.inl rfl)

theorem recovered_of_saves (h : Saves w b c) (hsmooth : RestoreSmooth ω w c.indices)
    (cnf : String) : ((restoreStages cnf b).run (World.answer ω) w).1 = .ok () ∧
      Recovered c ((restoreStages cnf b).run (World.answer ω) w).2.stores := by
  have hreturns := hsmooth.returns h cnf
  exact ⟨hreturns, Artifacts.Holds.recovered h hsmooth.sourced (Prod.ext hreturns rfl)⟩

/-- A restore whose steps are let through recovers all that a kept backup captured. -/
theorem recovered_of_keeps {data : RestoreBody} (h : Keeps data.backupId c w)
    (hkey : (w.requestedKey ω data).isOk = true) (hsmooth : RestoreSmooth ω w c.indices) :
    ((createRestore data).run (World.answer ω) w).1 = .ok () ∧
      Recovered c ((createRestore data).run (World.answer ω) w).2.stores := by
  rw [run_createRestore]
  cases hrequested : w.requestedKey ω data with
  | error e =>
    rw [hrequested] at hkey
    cases hkey
  | ok key =>
    have hrow : RestoreSmooth ω (w.withRestore key data) c.indices :=
      ⟨hsmooth.settings, hsmooth.reaches, hsmooth.closed, hsmooth.restored, hsmooth.copied,
        hsmooth.sourced⟩
    exact recovered_of_saves (w := w.withRestore key data) h.saves hrow "mysqlbackup.cnf"

/-- A job keeps a backup it does not threaten, also when its process dies. -/
theorem keeps_takeTurn {turn : Turn D} (h : Keeps b c w) (hjob : ¬turn.job.Threatens b) :
    Keeps b c (w.takeTurn turn).2 := by
  rcases takeTurn_cases turn w with hleft | ⟨ω, hleft⟩
  · rw [hleft]
    exact h
  · rw [hleft]
    exact keeps_runJob h hjob

end Jobs

/-! ## Runs of the deployment -/

section Runs

variable {w : World D} {turns : List (Turn D)} {done since rest : List (ServedTurn D)}
  {made st : ServedTurn D}

theorem takeTurn_of_whole (hst : st ∈ history World.takeTurn turns w)
    (hwhole : st.request.dies = none) :
    some (st.before.runJob st.request.outcomes st.request.job).1 = st.answer ∧
      (st.before.runJob st.request.outcomes st.request.job).2 = st.after := by
  have hserve := serve_of_mem_history hst
  unfold World.takeTurn at hserve
  rw [hwhole] at hserve
  exact Prod.mk.inj hserve

theorem keeps_before {b : Int} {c : Capture D}
    (hsteps : history World.takeTurn turns w = done ++ st :: rest) (hw : Keeps b c w)
    (hkept : ∀ t ∈ done, ¬t.request.job.Threatens b) : Keeps b c st.before := by
  refine holds_before hsteps hw ?_
  intro t ht hbefore
  have hmem : t ∈ history World.takeTurn turns w := hsteps ▸ List.mem_append_left _ ht
  rw [after_of_mem_history hmem]
  exact keeps_takeTurn hbefore (hkept t ht)

/-- A backup that succeeds answers with its id and is kept. -/
theorem keeps_createEdmBackup (hst : made ∈ history World.takeTurn turns w) {data : TitleBody}
    (hjob : made.request.job = .request (.createEdmBackup data))
    (hwhole : made.request.dies = none)
    (hsucc : Succeeds made.before.backups.nextId made.request.outcomes made.before) :
    made.answer = some (.answer (.created made.before.backups.nextId)) ∧
      Keeps made.before.backups.nextId made.before.capture made.after := by
  obtain ⟨hanswer, hafter⟩ := takeTurn_of_whole hst hwhole
  obtain ⟨hok, hkeeps⟩ := keeps_of_succeeds data hsucc
  rw [hjob] at hanswer hafter
  rw [← hanswer, ← hafter]
  simp only [World.runJob, World.serveRequest, answered_snd]
  rw [answered_fst_of_ok hok]
  exact ⟨rfl, hkeeps⟩

/-- **A backup survives crashes, failures and other backups**: from the step
that made it on, its artifacts hold what it captured and its row is there, until
a job deletes the row or writes under the same fixed id. -/
theorem backup_survives (w : World D) (turns : List (Turn D))
    (hsteps : history World.takeTurn turns w = done ++ made :: since ++ st :: rest)
    {data : TitleBody} (hjob : made.request.job = .request (.createEdmBackup data))
    (hwhole : made.request.dies = none)
    (hsucc : Succeeds made.before.backups.nextId made.request.outcomes made.before)
    (hkept : ∀ t ∈ since, ¬t.request.job.Threatens made.before.backups.nextId) :
    made.answer = some (.answer (.created made.before.backups.nextId)) ∧
      Keeps made.before.backups.nextId made.before.capture st.before := by
  rw [List.append_assoc, List.cons_append] at hsteps
  have hmem : made ∈ history World.takeTurn turns w := by
    rw [hsteps]
    exact List.mem_append_right _ List.mem_cons_self
  obtain ⟨hanswer, hkeeps⟩ := keeps_createEdmBackup hmem hjob hwhole hsucc
  obtain ⟨later, hlater⟩ := exists_history_after hsteps
  exact ⟨hanswer, keeps_before hlater.symm hkeeps hkept⟩

/-- **A restore can be repeated until it comes through**: whatever ran since a
backup was kept, restores of it that died half way included, a restore whose
steps are let through is answered and recovers all that was captured. -/
theorem restore_completes {b : Int} {c : Capture D} (w : World D) (turns : List (Turn D))
    (hw : Keeps b c w) (hsteps : history World.takeTurn turns w = done ++ st :: rest)
    (hkept : ∀ t ∈ done, ¬t.request.job.Threatens b) {data : RestoreBody}
    (hjob : st.request.job = .request (.createRestore data)) (hid : data.backupId = b)
    (hwhole : st.request.dies = none)
    (hkey : (st.before.requestedKey st.request.outcomes data).isOk = true)
    (hsmooth : RestoreSmooth st.request.outcomes st.before c.indices) :
    st.answer = some (.answer .done) ∧ Recovered c st.after.stores := by
  subst hid
  have hmem : st ∈ history World.takeTurn turns w := by
    rw [hsteps]
    exact List.mem_append_right _ List.mem_cons_self
  obtain ⟨hanswer, hafter⟩ := takeTurn_of_whole hmem hwhole
  have hkeeps := keeps_before hsteps hw hkept
  obtain ⟨hok, hrecovered⟩ := recovered_of_keeps hkeeps hkey hsmooth
  rw [hjob] at hanswer hafter
  rw [← hanswer, ← hafter]
  simp only [World.runJob, World.serveRequest, answered_snd]
  rw [answered_fst_of_ok hok]
  exact ⟨rfl, hrecovered⟩

section Samples

def whole (q : Request Nat) : Turn Nat := ⟨.smoothNewYear, none, .request q⟩

def restoreNightly : Request Nat := .createRestore ⟨some "restore", .absent, 1⟩

/-- A backup, a backup of the scripts and a restore that die, and a restore. -/
def crashes : List (Turn Nat) :=
  [whole (.createEdmBackup ⟨some "nightly"⟩), ⟨.smoothNewYear, some 6, .script .backup⟩,
    ⟨.smoothNewYear, some 6, .request restoreNightly⟩, whole restoreNightly]

def crashSteps : List (ServedTurn Nat) := history World.takeTurn crashes World.busy

theorem crashSteps_kept :
    ∀ t ∈ [crashSteps[1], crashSteps[2]], ¬t.request.job.Threatens World.busy.backups.nextId := by
  intro t ht
  simp only [List.mem_cons, List.not_mem_nil, or_false] at ht
  rcases ht with rfl | rfl
  · exact show ¬World.busy.backups.nextId = 3 by decide
  · exact id

theorem crashSteps_made : Keeps 1 World.busy.capture crashSteps[0].after := by
  have hmade : crashSteps[0] ∈ history World.takeTurn crashes World.busy := List.mem_cons_self
  exact (keeps_createEdmBackup hmade rfl rfl (succeeds_smooth 1 rfl)).2

theorem backup_survives_crashes :
    Keeps 1 World.busy.capture crashSteps[3].before :=
  (backup_survives World.busy crashes
    (show crashSteps = [] ++ crashSteps[0] :: [crashSteps[1], crashSteps[2]] ++
      crashSteps[3] :: [] from rfl)
    rfl rfl (succeeds_smooth 1 rfl) crashSteps_kept).2

/-- The restore that died left the index closed. -/
example : (crashSteps[3].before.cluster.indices.get? "logs").map (·.isOpen) = some false := rfl

theorem restore_completes_crashes :
    crashSteps[3].answer = some (.answer .done) ∧
      Recovered World.busy.capture crashSteps[3].after.stores := by
  exact restore_completes crashSteps[0].after crashes.tail crashSteps_made
    (show history World.takeTurn crashes.tail crashSteps[0].after =
      [crashSteps[1], crashSteps[2]] ++ crashSteps[3] :: [] from rfl)
    crashSteps_kept rfl rfl rfl rfl
    ⟨⟨_, rfl⟩, ⟨rfl, rfl, rfl⟩, .inl rfl, rfl, ⟨_, rfl⟩, ⟨_, rfl⟩⟩

end Samples

end Runs

/-! ## The stores -/

section Stores

variable {ω : Outcomes} {w : World D}

/-- The stores after a turn that only their users can change. -/
def changedStores (stores : Stores D) (st : ServedTurn D) : Stores D :=
  match st.request.job with
  | .request (.changeStores changed) => changed
  | _ => stores

/-- The stores as their users left them last. -/
def usersStores (steps : List (ServedTurn D)) (stores : Stores D) : Stores D :=
  steps.foldl changedStores stores

theorem stores_snapshotIndices (config : Config) (backupId : Int) :
    ((snapshotIndicesFromSrcToFs config backupId).run (World.answer ω) w).2.stores = w.stores := by
  obtain ⟨cluster, hrun, hindices, -⟩ := exists_cluster_snapshot config backupId ω w
  rw [hrun]
  unfold World.stores
  rw [World.setCluster_cluster, hindices]
  rfl

theorem stores_runCopyToLocal (source target : String) (e : Ending) :
    (w.runCopyToLocal source target e).2.stores = w.stores := by
  cases e <;> rfl

theorem stores_dump_end {b : Int} {r : Except PyExc Unit} {w' : World D}
    (h : DumpEnd b ω w r w') : w'.stores = w.stores := by
  have hdir : (w.withDumpdir b).stores = w.stores := by
    unfold World.withDumpdir
    split <;> rfl
  cases h with
  | noDir => rfl
  | noFile | notStarted | dumped => exact hdir

/-- A backup leaves the stores alone, however it ends. -/
theorem stores_backupStages (cnf : String) (b : Int) :
    ((backupStages cnf b).run (World.answer ω) w).2.stores = w.stores := by
  have hsnap := stores_snapshotIndices (ω := ω) (w := w) w.config b
  have hend := backup_end b ω w cnf
  generalize ((backupStages cnf b).run (World.answer ω) w).1 = r at hend
  generalize ((backupStages cnf b).run (World.answer ω) w).2 = w' at hend ⊢
  cases hend with
  | unsnapped h =>
    rw [h] at hsnap
    exact hsnap
  | uncopied h hcopy =>
    rw [h] at hsnap
    exact (stores_runCopyToLocal _ _ _).trans hsnap
  | @copied r w₁ w₂ w₃ h hcopy hdump =>
    rw [h] at hsnap
    have hcopied := stores_runCopyToLocal (w := w₁) "/hdfs" (hdfsDir b) ω.copyToLocal
    rw [hcopy] at hcopied
    exact (stores_dump_end hdump).trans (hcopied.trans hsnap)

/-- Only a restore or a change of the stores changes them. -/
theorem stores_runJob {job : Job D} (hrestore : ¬job.Restores)
    (hchange : ∀ stores, job ≠ .request (.changeStores stores)) :
    (w.runJob ω job).2.stores = w.stores := by
  cases job with
  | request q =>
    simp only [World.runJob]
    cases q with
    | createEdmBackup data =>
      rw [World.serveRequest, answered_snd, run_createEdmBackup]
      exact stores_backupStages _ _
    | updateEdmBackup backupId data =>
      rw [World.serveRequest, answered_snd, run_updateEdmBackup]
      split <;> rfl
    | deleteEdmBackup backupId =>
      rw [World.serveRequest, answered_snd, run_deleteEdmBackup]
      split <;> rfl
    | createRestore data => exact absurd trivial hrestore
    | updateRestore restoreId data =>
      rw [World.serveRequest, answered_snd, run_updateRestore]
      split <;> rfl
    | deleteRestore restoreId =>
      rw [World.serveRequest, answered_snd, run_deleteRestore]
      split <;> rfl
    | changeStores stores => exact absurd rfl (hchange stores)
  | script script =>
    cases script with
    | backup =>
      show (doBackup.run (World.answer ω) w).2.stores = w.stores
      rw [run_doBackup]
      exact stores_backupStages _ _
    | restore => exact absurd trivial hrestore
  | esutils mode =>
    cases mode with
    | restore => exact absurd trivial hrestore
    | backup =>
      simp only [World.runJob, esutilsMain, Prog.run_bind, run_readConfig, Prog.run_ofExcept]
      cases w.config.withDefaults with
      | error e => rfl
      | ok config => exact stores_snapshotIndices config 1

theorem stores_takeTurn {turn : Turn D} (hrestore : ¬turn.job.Restores)
    (hchange : ∀ stores, turn.job ≠ .request (.changeStores stores)) :
    (w.takeTurn turn).2.stores = w.stores := by
  rcases takeTurn_cases turn w with hleft | ⟨ω, hleft⟩
  · rw [hleft]
  · rw [hleft]
    exact stores_runJob hrestore hchange

/-- A change of the stores is made, whatever becomes of the turn. -/
theorem stores_takeTurn_changeStores {turn : Turn D} {stores : Stores D}
    (h : turn.job = .request (.changeStores stores)) : (w.takeTurn turn).2.stores = stores := by
  unfold World.takeTurn
  rw [h]
  cases turn.dies <;> rfl

end Stores

/-- **No backup is seen by the users of the stores**: in a run without restores
each step finds the stores as their users left them, whatever backups ended
badly or died before it. -/
theorem stores_of_no_restore (w : World D) (turns : List (Turn D))
    {done rest : List (ServedTurn D)} {st : ServedTurn D}
    (hsteps : history World.takeTurn turns w = done ++ st :: rest)
    (hno : ∀ t ∈ done, ¬t.request.job.Restores) :
    st.before.stores = usersStores done w.stores := by
  refine eq_foldl_before World.stores hsteps ?_
  intro t ht
  have hmem : t ∈ history World.takeTurn turns w := hsteps ▸ List.mem_append_left _ ht
  rw [after_of_mem_history hmem, changedStores]
  split
  · next changed hjob => exact stores_takeTurn_changeStores hjob
  · next hchange => exact stores_takeTurn (hno t ht) hchange

section Samples

theorem stores_of_no_restore_crashes :
    crashSteps[2].before.stores = usersStores [crashSteps[0], crashSteps[1]] World.busy.stores :=
  stores_of_no_restore World.busy crashes
    (show crashSteps = [crashSteps[0], crashSteps[1]] ++ crashSteps[2] :: [crashSteps[3]] from rfl)
    (by
      intro t ht
      simp only [List.mem_cons, List.not_mem_nil, or_false] at ht
      rcases ht with rfl | rfl <;> exact id)

end Samples

end Edm
