import Edm.Service.Deployment
import Edm.Verify.Leftovers
import Edm.Verify.Run

/-!
# Jobs cut short

Every call of a backup or a restore but those that only look can be refused,
and none is issued twice, so a job whose process dies leaves what a whole run
of it leaves in which the environment refuses all from some point on
(`exists_outcomes_of_dieInJob`). The worlds that runs with crashes lead to are
those that runs without crashes lead to (`exists_turns_without_crash`).
-/

namespace Edm

open Effects Data

variable {D : Type}

/-! ## Steps the environment can refuse -/

inductive Step where
  | es (step : EsStep)
  | copyToLocal
  | copyFromLocal
  | makedirs
  | openForWriting
  | mysqldump
  | mysqlSource

/-- The step of a call, if it does more than look. -/
def Call.step? : Call → Option Step
  | .es c => some (.es c.step)
  | .host (.copyToLocal ..) => some .copyToLocal
  | .host (.copyFromLocal ..) => some .copyFromLocal
  | .host (.pathExists _) => none
  | .host (.makedirs _) => some .makedirs
  | .host (.openForWriting _) => some .openForWriting
  | .host (.mysqldump ..) => some .mysqldump
  | .host (.mysqlSource ..) => some .mysqlSource
  | .db _ => none
  | .readConfig => none

/-- The steps that do not `go` on are refused. -/
def Outcomes.only (ω : Outcomes) (go : Step → Bool) : Outcomes where
  es step := if go (.es step) then ω.es step else some .transportError
  copyToLocal := if go .copyToLocal then ω.copyToLocal else .notStarted
  copyFromLocal := if go .copyFromLocal then ω.copyFromLocal else .notStarted
  makedirsRaises := if go .makedirs then ω.makedirsRaises else true
  openRaises := if go .openForWriting then ω.openRaises else true
  mysqldump := if go .mysqldump then ω.mysqldump else .notStarted
  mysql := if go .mysqlSource then ω.mysql else .notStarted
  utcnow := ω.utcnow
  drawnKey := ω.drawnKey

section Only

variable {ω : Outcomes} {go : Step → Bool} {w : World D} {c : Call}

theorem answer_only_of_go (h : ∀ step, c.step? = some step → go step = true) :
    World.answer (ω.only go) c w = World.answer ω c w := by
  cases c with
  | es c =>
    have hgo := h _ rfl
    simp only [World.answer, World.answerEs, Outcomes.only, hgo, if_true]
  | host c =>
    cases c with
    | pathExists path => rfl
    | copyToLocal | copyFromLocal | makedirs | openForWriting | mysqldump | mysqlSource =>
      have hgo := h _ rfl
      simp only [World.answer, World.answerHost, Outcomes.only, hgo, if_true]
  | db c => cases c <;> rfl
  | readConfig => rfl

theorem answer_only_of_not_go {step : Step} (hstep : c.step? = some step)
    (h : go step = false) : (World.answer (ω.only go) c w).2 = w := by
  cases c with
  | es c =>
    cases hstep
    have hrefused : (ω.only go).es c.step = some .transportError := by
      simp only [Outcomes.only, h, Bool.false_eq_true, if_false]
    exact congrArg Prod.snd (answerEs_refused _ w c hrefused)
  | host c =>
    cases c with
    | pathExists path => cases hstep
    | copyToLocal | copyFromLocal | makedirs | openForWriting | mysqldump | mysqlSource =>
      cases hstep
      simp only [World.answer, World.answerHost, Outcomes.only, h, Bool.false_eq_true, if_false,
        if_true, World.runCopyToLocal, World.runCopyFromLocal, World.runMysqldump,
        World.runMysqlSource]
  | db c => cases hstep
  | readConfig => cases hstep

/-- A call that only looks, if it is not one of the database. -/
theorem answer_of_no_step (h : c.step? = none) (hdb : ∀ d, c ≠ .db d) :
    (World.answer ω c w).2 = w := by
  cases c with
  | es c => cases h
  | host c =>
    cases c with
    | pathExists path => rfl
    | copyToLocal | copyFromLocal | makedirs | openForWriting | mysqldump | mysqlSource => cases h
  | db d => exact absurd rfl (hdb d)
  | readConfig => rfl

end Only

/-! ## The order of the steps -/

def Call.stage (order : Step → Nat) (c : Call) : Option Nat := c.step?.map order

/-- The steps before a stage go on. -/
def Outcomes.before (order : Step → Nat) (ω : Outcomes) (t : Nat) : Outcomes :=
  ω.only fun step => order step < t

theorem stoppable_answer (order : Step → Nat) (ω : Outcomes) :
    Stoppable (fun c => ∀ d, c ≠ .db d) (Call.stage order) (World.answer (D := D) ω)
      fun t => World.answer (ω.before order t) where
  before t c w _ h := by
    refine answer_only_of_go ?_
    intro step hstep
    exact decide_eq_true (h _ (by rw [Call.stage, hstep]; rfl))
  after t c w r _ hr ht := by
    obtain ⟨step, hstep, rfl⟩ := Option.map_eq_some_iff.1 hr
    exact answer_only_of_not_go hstep (decide_eq_false (Nat.not_lt.2 ht))
  quiet c w hdb h := answer_of_no_step (Option.map_eq_none_iff.1 h) hdb

/-- The order in which a backup goes through its steps. -/
def backupOrder : Step → Nat
  | .es .connect => 0
  | .es .info => 1
  | .es .createRepository => 2
  | .es .getSnapshot => 3
  | .es .deleteSnapshot => 4
  | .es .createSnapshot => 5
  | .copyToLocal => 6
  | .makedirs => 7
  | .openForWriting => 8
  | .mysqldump => 9
  | _ => 10

/-- The order in which a restore goes through its steps. -/
def restoreOrder : Step → Nat
  | .es .connect => 0
  | .es .createRepository => 1
  | .es .info => 2
  | .es .closeIndices => 3
  | .es .restoreSnapshot => 4
  | .es .openIndices => 5
  | .copyFromLocal => 6
  | .mysqlSource => 7
  | _ => 8

section Ascending

variable {order : Step → Nat} {lo hi stage : Nat}

theorem ascending_perform {c : Call} (h : c.stage order = some stage) :
    (Prog.perform (E := PyExc) (R := Reply) c).Ascending (Call.stage order) (stage + 1) stage := by
  refine .perform ?_
  intro r hr
  rw [h] at hr
  cases hr
  exact ⟨Nat.le_refl stage, Nat.lt_succ_self stage⟩

theorem ascending_esCall {c : EsCall} (h : Call.stage order (.es c) = some stage) :
    (esCall c).Ascending (Call.stage order) (stage + 1) stage := ascending_perform h

theorem ascending_hostCall {c : HostCall} (h : Call.stage order (.host c) = some stage) :
    (hostCall c).Ascending (Call.stage order) (stage + 1) stage := ascending_perform h

theorem ascending_pathExists (path : String) :
    (pathExists path).Ascending (Call.stage order) hi lo := .perform nofun

theorem ascending_exceptException {α : Type} {handler : PyExc → Py α}
    (h : ∀ e, (handler e).Ascending (Call.stage order) hi lo) (e : PyExc) :
    (exceptException handler e).Ascending (Call.stage order) hi lo := by
  unfold exceptException
  split
  · exact h e
  · exact .raise e

theorem ascending_readConfig : readConfig.Ascending (Call.stage order) hi lo :=
  .perform nofun

theorem ascending_checkOutput {command : Py Int}
    (h : command.Ascending (Call.stage order) hi lo) (hlo : lo ≤ hi) :
    (checkOutput command).Ascending (Call.stage order) hi lo := by
  refine .bind hi h ?_
  intro returncode
  split
  · exact .pure ()
  · exact .raise _

theorem ascending_dropSnapshot (esFsRepo snapshotName : String) :
    (dropSnapshot esFsRepo snapshotName).Ascending (Call.stage backupOrder) 5 3 := by
  refine .tryCatch 5 ?_ (ascending_exceptException fun _ => .pure ())
  exact .bind 4 (ascending_esCall rfl) fun _ => ascending_esCall rfl

theorem ascending_snapshotIndices (config : Config) (backupId : Int) :
    (snapshotIndicesFromSrcToFs config backupId).Ascending (Call.stage backupOrder) 6 0 := by
  refine .bind 0 (.ofExcept _) ?_
  rintro ⟨esFsRepo, seeds⟩
  refine .tryCatch 6 ?_ (ascending_exceptException fun _ => .pure ())
  unfold takeSnapshot
  refine .bind 1 (ascending_esCall rfl) fun _ => ?_
  refine .bind 2 (ascending_esCall rfl) fun _ => ?_
  refine .bind 3 (ascending_esCall rfl) fun _ => ?_
  refine .bind 3 (.ofExcept _) fun snapshotName => ?_
  refine .bind 5 (ascending_dropSnapshot _ _) fun _ => ?_
  exact ascending_esCall rfl

theorem ascending_dumpMysql (cnf : String) (backupId : Int) :
    (dumpMysql cnf backupId).Ascending (Call.stage backupOrder) 10 7 := by
  refine .bind 8 ?_ fun _ => ?_
  · refine .bind 7 (ascending_pathExists _) fun isThere => ?_
    split
    · exact .pure ()
    · exact ascending_hostCall rfl
  · refine .bind 9 (ascending_hostCall rfl) fun _ => ?_
    exact .bind 10 (ascending_hostCall rfl) fun _ => .pure ()

theorem ascending_backupStages (cnf : String) (backupId : Int) :
    (backupStages cnf backupId).Ascending (Call.stage backupOrder) 10 0 := by
  refine .bind 0 ascending_readConfig fun config => ?_
  refine .bind 6 (ascending_snapshotIndices _ _) fun _ => ?_
  refine .bind 7 ?_ fun _ => ascending_dumpMysql cnf backupId
  exact ascending_checkOutput (ascending_hostCall rfl) (Nat.le_succ 6)

theorem ascending_closeIndices :
    closeIndices.Ascending (Call.stage restoreOrder) 4 3 := by
  refine .tryCatch 4 (ascending_esCall rfl) ?_
  intro e
  split
  · exact .pure ()
  · exact ascending_exceptException (fun _ => .pure ()) _

theorem ascending_reopenIndices :
    reopenIndices.Ascending (Call.stage restoreOrder) 6 5 := by
  refine .tryCatch 6 (ascending_esCall rfl) ?_
  intro e
  split
  · exact .pure ()
  · exact ascending_exceptException (fun _ => .pure ()) _

theorem ascending_restoreIndices (config : Config) (backupId : Int) :
    (restoreIndicesFromFsToDest config backupId).Ascending (Call.stage restoreOrder) 6 0 := by
  refine .bind 0 (.ofExcept _) ?_
  rintro ⟨esFsRepo, seeds⟩
  refine .tryCatch 6 ?_ (ascending_exceptException fun _ => .raise _)
  unfold restoreSnapshot
  refine .bind 1 (ascending_esCall rfl) fun _ => ?_
  refine .bind 2 (ascending_esCall rfl) fun _ => ?_
  refine .bind 3 (ascending_esCall rfl) fun _ => ?_
  refine .bind 4 ascending_closeIndices fun _ => ?_
  refine .bind 4 (.ofExcept _) fun snapshotName => ?_
  refine .bind 5 (ascending_esCall rfl) fun _ => ?_
  exact ascending_reopenIndices

theorem ascending_restoreStages (cnf : String) (backupId : Int) :
    (restoreStages cnf backupId).Ascending (Call.stage restoreOrder) 8 0 := by
  refine .bind 0 ascending_readConfig fun config => ?_
  refine .bind 6 (ascending_restoreIndices _ _) fun _ => ?_
  refine .bind 7 ?_ fun _ => ?_
  · exact ascending_checkOutput (ascending_hostCall rfl) (Nat.le_succ 6)
  · refine .bind 8 (ascending_hostCall rfl) fun returncode => ?_
    split
    · exact .raise _
    · exact .pure ()

end Ascending

/-! ## Crashes as refusals -/

section Dies

/-- The environment gives a new row the same time and draws the same key for it. -/
def Outcomes.SameRow (ω' ω : Outcomes) : Prop :=
  ω'.utcnow = ω.utcnow ∧ ω'.drawnKey = ω.drawnKey

theorem Outcomes.SameRow.refl (ω : Outcomes) : ω.SameRow ω := ⟨rfl, rfl⟩

variable (ω : Outcomes) (n : Nat) (w : World D)

/-- The state is the one before the program, or one a whole run of it leaves. -/
def LeftByRun {α : Type} (p : Py α) (left : World D) : Prop :=
  ∃ ω', ω'.SameRow ω ∧ (left = w ∨ left = (p.run (World.answer ω') w).2)

variable {ω w} in
theorem exists_outcomes_of_ascending {α : Type} {p : Py α} {order : Step → Nat} {lo hi : Nat}
    (hcalls : p.Calls fun c => ∀ d, c ≠ .db d) (h : p.Ascending (Call.stage order) hi lo) :
    ∃ ω', ω'.SameRow ω ∧
      p.runFor (World.answer ω) n w = (p.run (World.answer ω') w).2 := by
  obtain ⟨t, -, ht⟩ := h.exists_run_eq_runFor (stoppable_answer order ω) hcalls n w
  exact ⟨ω.before order t, .refl ω, ht.symm⟩

theorem exists_outcomes_backupStages (cnf : String) (backupId : Int) :
    ∃ ω', ω'.SameRow ω ∧ (backupStages cnf backupId).runFor (World.answer ω) n w =
      ((backupStages cnf backupId).run (World.answer ω') w).2 :=
  exists_outcomes_of_ascending n
    (calls_backupStages (fun _ _ => nofun) (fun _ _ => nofun) (fun _ => nofun) _ _)
    (ascending_backupStages cnf backupId)

theorem exists_outcomes_restoreStages (cnf : String) (backupId : Int) :
    ∃ ω', ω'.SameRow ω ∧ (restoreStages cnf backupId).runFor (World.answer ω) n w =
      ((restoreStages cnf backupId).run (World.answer ω') w).2 :=
  exists_outcomes_of_ascending n
    (calls_restoreStages (fun _ _ => nofun) (fun _ _ => nofun) (fun _ => nofun) _ _)
    (ascending_restoreStages cnf backupId)

theorem exists_outcomes_esutilsMain (mode : Mode) :
    ∃ ω', ω'.SameRow ω ∧ (esutilsMain mode).runFor (World.answer ω) n w =
      ((esutilsMain mode).run (World.answer ω') w).2 := by
  cases mode with
  | backup =>
    have hascending : (esutilsMain .backup).Ascending (Call.stage backupOrder) 6 0 :=
      .bind 0 ascending_readConfig fun config => .bind 0 (.ofExcept _) fun config =>
        ascending_snapshotIndices _ _
    exact exists_outcomes_of_ascending n
      (.bind (calls_readConfig fun _ => nofun) fun config => .bind (.ofExcept _) fun config =>
        calls_snapshotIndices (fun _ _ => nofun) _ _) hascending
  | restore =>
    have hascending : (esutilsMain .restore).Ascending (Call.stage restoreOrder) 6 0 :=
      .bind 0 ascending_readConfig fun config => .bind 0 (.ofExcept _) fun config =>
        ascending_restoreIndices _ _
    exact exists_outcomes_of_ascending n
      (.bind (calls_readConfig fun _ => nofun) fun config => .bind (.ofExcept _) fun config =>
        calls_restoreIndices (fun _ _ => nofun) _ _) hascending

theorem leftByRun_createEdmBackup (data : TitleBody) :
    LeftByRun ω w (createEdmBackup data) ((createEdmBackup data).runFor (World.answer ω) n w) := by
  cases n with
  | zero => exact ⟨ω, .refl ω, .inl rfl⟩
  | succ n =>
    obtain ⟨ω', hsame, hrun⟩ := exists_outcomes_backupStages ω n (w.withBackup ω data.title)
      "mysqlbackup.cnf" w.backups.nextId
    refine ⟨ω', hsame, .inr ?_⟩
    have hbegin := Prog.runFor_succ_perform_bind (World.answer ω) n w
      (c := .db (.insertBackup data.title "INITIATED"))
      (fun backupId => backupStages "mysqlbackup.cnf" backupId >>= fun _ => pure backupId) rfl
    rw [run_createEdmBackup]
    unfold World.withBackup at hrun ⊢
    rw [hsame.1, ← hrun]
    exact hbegin.trans (Prog.runFor_bind_pure ..)

theorem leftByRun_createRestore (data : RestoreBody) :
    LeftByRun ω w (createRestore data) ((createRestore data).runFor (World.answer ω) n w) := by
  cases n with
  | zero => exact ⟨ω, .refl ω, .inl rfl⟩
  | succ n =>
    cases hkey : w.requestedKey ω data with
    | error e =>
      refine ⟨ω, .refl ω, .inl ?_⟩
      refine Prog.runFor_succ_perform_bind_error (World.answer ω) n w
        (fun _ => restoreStages "mysqlbackup.cnf" data.backupId) (e := e) ?_
      unfold World.requestedKey at hkey
      simp only [World.answer, World.answerDb, hkey]
    | ok key =>
      obtain ⟨ω', hsame, hrun⟩ := exists_outcomes_restoreStages ω n (w.withRestore key data)
        "mysqlbackup.cnf" data.backupId
      refine ⟨ω', hsame, .inr ?_⟩
      rw [run_createRestore, requestedKey_congr w hsame.2, hkey]
      simp only
      rw [← hrun]
      refine Prog.runFor_succ_perform_bind (World.answer ω) n w
        (fun _ => restoreStages "mysqlbackup.cnf" data.backupId) (r := ()) ?_
      unfold World.requestedKey at hkey
      simp only [World.answer, World.answerDb, hkey, World.withRestore]

variable {ω w} in
/-- A program that looks a row up and then goes on with one call. -/
theorem leftByRun_look {d : DbCall} (hlook : (w.answerDb ω d).2 = w) {commit : d.Reply → Py Unit}
    (hcommit : ∀ row k, (commit row).runFor (World.answer ω) k w = w ∨
      (commit row).runFor (World.answer ω) k w = ((commit row).run (World.answer ω) w).2) :
    LeftByRun ω w (dbCall d >>= commit) ((dbCall d >>= commit).runFor (World.answer ω) n w) := by
  refine ⟨ω, .refl ω, ?_⟩
  rcases Prog.runFor_bind (World.answer ω) n w (dbCall d) commit with hfirst | ⟨row, w', k, hrun, h⟩
  · rw [hfirst, dbCall, Prog.runFor_perform]
    split
    · exact .inl rfl
    · exact .inl hlook
  · have hsame : w' = w := by
      rw [run_dbCall] at hrun
      rw [← hlook, hrun]
    subst hsame
    rw [h]
    refine (hcommit row k).imp_right fun hwhole => ?_
    rw [hwhole, Prog.run_bind, hrun]

/-- One call of the database is made or not. -/
theorem runFor_dbCall (d : DbCall) :
    (dbCall d).runFor (World.answer ω) n w = w ∨
      (dbCall d).runFor (World.answer ω) n w = ((dbCall d).run (World.answer ω) w).2 := by
  rw [run_dbCall, dbCall, Prog.runFor_perform]
  split
  · exact .inl rfl
  · exact .inr rfl

/-- A request is cut short where some run of it ends, or before it changed anything. -/
theorem exists_outcomes_of_dieInRequest (q : Request D) :
    ∃ ω', ω'.SameRow ω ∧
      (w.dieInRequest ω n q = w ∨ w.dieInRequest ω n q = (w.serveRequest ω' q).2) := by
  cases q with
  | createEdmBackup data =>
    simp only [World.serveRequest, answered_snd]
    exact leftByRun_createEdmBackup ω n w data
  | updateEdmBackup backupId data =>
    simp only [World.serveRequest, answered_snd]
    exact leftByRun_look n rfl fun _ k => runFor_dbCall ω k w _
  | deleteEdmBackup backupId =>
    simp only [World.serveRequest, answered_snd]
    exact leftByRun_look n rfl fun _ k => runFor_dbCall ω k w _
  | createRestore data =>
    simp only [World.serveRequest, answered_snd]
    exact leftByRun_createRestore ω n w data
  | updateRestore restoreId data =>
    simp only [World.serveRequest, answered_snd]
    exact leftByRun_look n rfl fun _ k => runFor_dbCall ω k w _
  | deleteRestore restoreId =>
    simp only [World.serveRequest, answered_snd]
    exact leftByRun_look n rfl fun _ k => runFor_dbCall ω k w _
  | changeStores stores => exact ⟨ω, .refl ω, .inr rfl⟩

/-- **A crash is a failure of the environment.** What a job leaves whose process
dies after any number of its calls is what it found, or what it leaves when it
runs to its end and the environment refuses some of its steps. -/
theorem exists_outcomes_of_dieInJob (job : Job D) :
    ∃ ω', ω'.SameRow ω ∧
      (w.dieInJob ω n job = w ∨ w.dieInJob ω n job = (w.runJob ω' job).2) := by
  cases job with
  | request q => exact exists_outcomes_of_dieInRequest ω n w q
  | script script =>
    cases script with
    | backup =>
      obtain ⟨ω', hsame, hrun⟩ :=
        exists_outcomes_backupStages ω n w "/scripts/mysqlbackup.cnf" 3
      refine ⟨ω', hsame, .inr ?_⟩
      show (doBackup.runFor (World.answer ω) n w) = (doBackup.run (World.answer ω') w).2
      rw [run_doBackup, ← hrun]
      exact Prog.runFor_bind_pure ..
    | restore =>
      obtain ⟨ω', hsame, hrun⟩ :=
        exists_outcomes_restoreStages ω n w "/scripts/mysqlbackup.cnf" 3
      exact ⟨ω', hsame, .inr hrun⟩
  | esutils mode =>
    obtain ⟨ω', hsame, hrun⟩ := exists_outcomes_esutilsMain ω n w mode
    exact ⟨ω', hsame, .inr hrun⟩

end Dies

/-- The world after all turns. -/
def World.afterTurns : List (Turn D) → World D → World D
  | [], w => w
  | turn :: turns, w => World.afterTurns turns (w.takeTurn turn).2

@[simp] theorem afterTurns_cons (turn : Turn D) (turns : List (Turn D)) (w : World D) :
    World.afterTurns (turn :: turns) w = World.afterTurns turns (w.takeTurn turn).2 := rfl

/-- A turn leaves what it found, or what a turn of its job does that does not die. -/
theorem takeTurn_cases (turn : Turn D) (w : World D) :
    (w.takeTurn turn).2 = w ∨
      ∃ ω, (w.takeTurn turn).2 = (w.takeTurn ⟨ω, none, turn.job⟩).2 := by
  unfold World.takeTurn
  cases turn.dies with
  | none => exact .inr ⟨turn.outcomes, rfl⟩
  | some n =>
    obtain ⟨ω', -, hleft⟩ := exists_outcomes_of_dieInJob turn.outcomes n w turn.job
    exact hleft.imp_right fun hrun => ⟨ω', hrun⟩

/-- **Crashes lead nowhere else than failures do.** For every run there is one
of some of its jobs, in their order, in which no process dies and which leads to
the same world. -/
theorem exists_turns_without_crash (turns : List (Turn D)) (w : World D) :
    ∃ turns', (∀ turn ∈ turns', turn.dies = none) ∧
      (turns'.map (·.job)).Sublist (turns.map (·.job)) ∧
      World.afterTurns turns' w = World.afterTurns turns w := by
  induction turns generalizing w with
  | nil => exact ⟨[], List.forall_mem_nil _, .slnil, rfl⟩
  | cons turn turns ih =>
    rw [afterTurns_cons]
    rcases takeTurn_cases turn w with hleft | ⟨ω, hleft⟩
    · -- the job changed nothing and is left out
      rw [hleft]
      obtain ⟨turns', hwhole, hjobs, hafter⟩ := ih w
      exact ⟨turns', hwhole, hjobs.cons _, hafter⟩
    · obtain ⟨turns', hwhole, hjobs, hafter⟩ := ih (w.takeTurn turn).2
      refine ⟨⟨ω, none, turn.job⟩ :: turns', ?_, hjobs.cons_cons _, ?_⟩
      · exact List.forall_mem_cons.2 ⟨rfl, hwhole⟩
      · rw [afterTurns_cons, ← hleft, hafter]

end Edm
