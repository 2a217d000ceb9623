import Edm.Service.Api
import Edm.Verify.Capture
import Edm.Verify.Refusal

/-!
# What a restore answers

The answer of a restore follows its stages: an error of Elasticsearch or of the
copy reaches the caller as an exception, and what comes behind it is not done.
The last stage breaks the rule twice. A mysql client that exits with a positive
code ends the process of the server, and one that was killed by a signal, with
a negative code, is taken for a success.
-/

namespace Edm

open Effects Data

variable {D : Type}

/-! ## Answers of the API -/

/-- Every exception but `SystemExit` is answered with an error code. -/
theorem handleError_of_isException {e : PyExc} (h : e.isException = true) (debug : Bool) :
    ∃ code message, handleError debug e = .response code message ∧ 400 ≤ code := by
  have hdefault : ∃ code message,
      errorResponse (defaultErrorHandler debug) = .response code message ∧ 400 ≤ code := by
    cases debug
    · exact ⟨_, _, rfl, by decide⟩
    · exact ⟨_, _, rfl, by decide⟩
  cases e with
  | systemExit code => cases h
  | noResultFound => exact ⟨_, _, rfl, by decide⟩
  | keyError | elasticsearch | calledProcessError | osError | dbapiError | staleDataError
    | overflowError | exception => exact hdefault

/-! ## Exceptions of the stages -/

section Exceptions

variable {config : Config} {backupId : Int} {ω : Outcomes} {w : World D} {e : PyExc}

theorem error_of_bind_eq_error {α β ε : Type} {x : Except ε α} {f : α → Except ε β} {e : ε}
    (h : (x >>= f) = .error e) : x = .error e ∨ ∃ a, x = .ok a ∧ f a = .error e := by
  cases x with
  | error e' =>
    cases h
    exact .inl rfl
  | ok a => exact .inr ⟨a, rfl, h⟩

theorem Config.otherSeeds_error {seed1 key2 key3 : String}
    (h : config.otherSeeds seed1 key2 key3 = .error e) : e.isException = true := by
  unfold Config.otherSeeds at h
  split at h
  · cases h
  · rcases error_of_bind_eq_error h with h | ⟨seed2, -, h⟩
    · exact Config.item_error h
    · rcases error_of_bind_eq_error h with h | ⟨seed3, -, h⟩
      · exact Config.item_error h
      · cases h

theorem Config.destSettings_error (h : config.destSettings = .error e) :
    e.isException = true := by
  unfold Config.destSettings at h
  rcases error_of_bind_eq_error h with h | ⟨destSeed1, -, h⟩
  · exact Config.item_error h
  · rcases error_of_bind_eq_error h with h | ⟨esFsRepo, -, h⟩
    · exact Config.item_error h
    · rcases error_of_bind_eq_error h with h | ⟨indexNames, -, h⟩
      · exact Config.item_error h
      · rcases error_of_bind_eq_error h with h | ⟨others, -, h⟩
        · exact Config.otherSeeds_error h
        · cases h

theorem requestedKey_error {data : RestoreBody} (h : w.requestedKey ω data = .error e) :
    e.isException = true := by
  rcases World.restoreKey_error h with rfl | rfl <;> rfl

theorem checked_error {x : Except PyExc Int} (h : checked x = .error e) :
    x = .error e ∨ ∃ returncode, e = .calledProcessError returncode := by
  cases x with
  | error e' =>
    cases h
    exact .inl rfl
  | ok returncode =>
    by_cases hzero : returncode = 0
    · simp [checked, hzero] at h
    · simp only [checked, hzero, if_false, Except.error.injEq] at h
      exact .inr ⟨returncode, h.symm⟩

theorem runCopyFromLocal_error {source target : String} {ending : Ending}
    (h : (w.runCopyFromLocal source target ending).1 = .error e) : e = .osError := by
  cases ending with
  | notStarted =>
    cases h
    rfl
  | exited returncode reached =>
    unfold World.runCopyFromLocal at h
    dsimp only at h
    split at h <;> cases h

theorem copyFromLocal_error {source target : String} {ending : Ending}
    (h : checked (w.runCopyFromLocal source target ending).1 = .error e) :
    e.isException = true := by
  rcases checked_error h with h | ⟨returncode, rfl⟩
  · rw [runCopyFromLocal_error h]
    rfl
  · rfl

end Exceptions

/-! ## How far a restore gets -/

section Reaches

variable (ω : Outcomes) (w : World D) (data : RestoreBody)

/-- Elasticsearch accepts the snapshot of the backup for restoring. -/
def RestoresIndices (config : Config) (backupId : Int) : Prop :=
  ∃ repository seeds snapshot, config.destSettings = .ok (repository, seeds) ∧
    RestoreReaches ω ∧ RestoreAccepts config backupId ω w repository snapshot

/-- The restore comes to start the mysql client. -/
structure ReachesMysql : Prop where
  commits : ¬CannotCommit ω w.restores data
  restores : RestoresIndices ω w w.config data.backupId
  copies : ∃ reached, ω.copyFromLocal = .exited 0 reached
  copied : w.dirs (hdfsDir data.backupId) = true

theorem restoreIndices_cases (config : Config) (backupId : Int) :
    (RestoresIndices ω w config backupId ∧ ∃ cluster,
      (restoreIndicesFromFsToDest config backupId).run (World.answer ω) w =
        (.ok (), w.setCluster cluster)) ∨
    ¬RestoresIndices ω w config backupId ∧ ∃ e w', e.isException = true ∧
      (restoreIndicesFromFsToDest config backupId).run (World.answer ω) w = (.error e, w') := by
  have hend := restore_end config backupId ω w
  rcases hrun : (restoreIndicesFromFsToDest config backupId).run (World.answer ω) w with ⟨r, w'⟩
  rw [hrun] at hend
  cases hend with
  | noSettings hset =>
    refine .inr ⟨?_, _, _, Config.destSettings_error hset, rfl⟩
    rintro ⟨repository, seeds, snapshot, hset', -⟩
    rw [hset] at hset'
    cases hset'
  | unreached hset hreach hcluster =>
    refine .inr ⟨?_, _, _, rfl, rfl⟩
    rintro ⟨repository, seeds, snapshot, -, hreach', -⟩
    exact hreach hreach'
  | unrestored hset hreach hno =>
    refine .inr ⟨?_, _, _, rfl, rfl⟩
    rintro ⟨repository, seeds, snapshot, hset', -, haccepts⟩
    rw [hset] at hset'
    cases hset'
    exact hno snapshot haccepts
  | restored hset hreach haccepts => exact .inl ⟨⟨_, _, _, hset, hreach, haccepts⟩, _, rfl⟩

theorem restoresIndices_withRestore (key : Int) (config : Config) (backupId : Int) :
    RestoresIndices ω (w.withRestore key data) config backupId ↔
      RestoresIndices ω w config backupId := by
  constructor
  · rintro ⟨repository, seeds, snapshot, hset, hreach, h⟩
    exact ⟨repository, seeds, snapshot, hset, hreach, h.stored, h.noConflict, h.accepted⟩
  · rintro ⟨repository, seeds, snapshot, hset, hreach, h⟩
    exact ⟨repository, seeds, snapshot, hset, hreach, h.stored, h.noConflict, h.accepted⟩

/-- A restore that does not come to the mysql client ends in an exception, and
one that does ends as the client tells. -/
theorem createRestore_cases :
    (ReachesMysql ω w data ∧ ∃ w₂ : World D, w₂.files = w.files ∧
      ((createRestore data).run (World.answer ω) w).1 = exitUnlessDone
        (w₂.runMysqlSource (dumpfilepath data.backupId) ω.mysql).1) ∨
    ¬ReachesMysql ω w data ∧ ∃ e, e.isException = true ∧
      ((createRestore data).run (World.answer ω) w).1 = .error e := by
  rw [run_createRestore]
  cases hkey : w.requestedKey ω data with
  | error e =>
    refine .inr ⟨?_, e, requestedKey_error hkey, rfl⟩
    intro h
    exact h.commits (requestedKey_eq_error_iff.1 ⟨e, hkey⟩)
  | ok key =>
    have hcommits := not_cannotCommit_of_requestedKey hkey
    dsimp only
    have hend := restoreStages_end data.backupId ω (w.withRestore key data) "mysqlbackup.cnf"
    rcases hrun : (restoreStages "mysqlbackup.cnf" data.backupId).run (World.answer ω)
      (w.withRestore key data) with ⟨r, w'⟩
    rw [hrun] at hend
    have hcases := restoreIndices_cases ω (w.withRestore key data) w.config data.backupId
    rw [restoresIndices_withRestore] at hcases
    cases hend with
    | unrestored h =>
      rcases hcases with ⟨-, cluster, hok⟩ | ⟨hno, e, w'', hexc, herror⟩
      · cases hok.symm.trans h
      · cases herror.symm.trans h
        exact .inr ⟨fun hreach => hno hreach.restores, _, hexc, rfl⟩
    | uncopied h hcopy =>
      rcases hcases with ⟨-, cluster, hok⟩ | ⟨-, e, w'', hexc, herror⟩
      · cases hok.symm.trans h
        refine .inr ⟨?_, _, copyFromLocal_error hcopy, rfl⟩
        intro hreach
        have hzero : ((w.withRestore key data).setCluster cluster).runCopyFromLocal
            (hdfsDir data.backupId) "/hdfs" ω.copyFromLocal = (.ok 0, _) :=
          World.runCopyFromLocal_eq_ok_zero_iff.2 ⟨hreach.copies, hreach.copied, rfl⟩
        rw [hzero] at hcopy
        cases hcopy
      · cases herror.symm.trans h
    | @copied w₁ w₂ h hcopy =>
      rcases hcases with ⟨hrestores, cluster, hok⟩ | ⟨-, e, w'', hexc, herror⟩
      · cases hok.symm.trans h
        obtain ⟨hcopies, hdir, rfl⟩ := World.runCopyFromLocal_eq_ok_zero_iff.1 hcopy
        exact .inl ⟨⟨hcommits, hrestores, hcopies, hdir⟩,
          ((w.withRestore key data).setCluster cluster).copiedIn _ _ _, rfl, rfl⟩
      · cases herror.symm.trans h

end Reaches

/-! ## The steps of a restore -/

section Steps

/-- In a run with this log the call was answered so. -/
def Logged (log : List (Event Call Reply PyExc (World D))) (c : Call)
    (answer : Except PyExc (Reply c)) : Prop :=
  ∃ before after, ⟨before, c, answer, after⟩ ∈ log

/-- All three steps of a restore were done: the snapshot of the backup was
accepted for restoring, the copy exited zero and so did the mysql client. -/
structure RestoreDone (config : Config) (b : Int)
    (log : List (Event Call Reply PyExc (World D))) : Prop where
  snapshot : ∃ repository name, config.snapshotName b = .ok name ∧
    Logged log (.es (.restoreSnapshot repository name)) (.ok ())
  hdfs : Logged log (.host (.copyFromLocal (hdfsDir b) "/hdfs")) (.ok (0 : Int))
  mysql : Logged log (.host (.mysqlSource "mysqlbackup.cnf" (dumpfilepath b))) (.ok (0 : Int))

/-- This call, with an answer of which `P` holds. -/
inductive Answered (c : Call) (P : Except PyExc (Reply c) → Prop) :
    (c' : Call) → Except PyExc (Reply c') → Prop where
  | intro {answer : Except PyExc (Reply c)} (h : P answer) : Answered c P c answer

theorem exists_logged {α : Type} {p : Py α} {ω : Outcomes} {w w' : World D} {a : α} {c : Call}
    {P : Except PyExc (Reply c) → Prop} (h : p.Through (Answered c P))
    (hrun : p.run (World.answer ω) w = (.ok a, w')) :
    ∃ answer, P answer ∧ Logged (p.log (World.answer ω) w) c answer := by
  obtain ⟨⟨before, c', answer', after⟩, hev, hanswered⟩ := h.exists_mem_log hrun
  cases hanswered with
  | intro hanswer => exact ⟨_, hanswer, before, after, hev⟩

variable {config : Config} {b : Int}

/-- On no path does a restore of the indices return without the restore call
being accepted. -/
theorem through_restoreIndices : (restoreIndicesFromFsToDest config b).Through fun c answer =>
    ∃ repository name, config.snapshotName b = .ok name ∧
      Answered (.es (.restoreSnapshot repository name)) (· = .ok ()) c answer := by
  unfold restoreIndicesFromFsToDest
  apply Prog.Through.bind_right
  rintro ⟨repository, seeds⟩
  apply Prog.Through.tryCatch
  · unfold restoreSnapshot
    apply Prog.Through.bind_right
    intro _
    apply Prog.Through.bind_right
    intro _
    apply Prog.Through.bind_right
    intro _
    apply Prog.Through.bind_right
    intro _
    cases hname : config.snapshotName b with
    | error e => trivial
    | ok name =>
      apply Prog.Through.perform_bind
      intro _
      exact .inl ⟨repository, name, rfl, .intro rfl⟩
  · intro e
    unfold exceptException
    split <;> trivial

/-- Nor without the copy exiting zero. -/
theorem through_copyFromLocal (source target : String) :
    (checkOutput (copyFromLocal source target)).Through
      (Answered (.host (.copyFromLocal source target)) (· = .ok (0 : Int))) := by
  apply Prog.Through.perform_bind
  intro returncode
  by_cases hzero : returncode = (0 : Int)
  · subst hzero
    exact .inl (.intro rfl)
  · right
    rw [if_neg hzero]
    trivial

/-- But it does where the mysql client ends with a negative code. -/
theorem through_sourceMysql (cnf : String) : (sourceMysql cnf b).Through
    (Answered (.host (.mysqlSource cnf (dumpfilepath b)))
      (fun answer => ∃ returncode : Int, returncode ≤ 0 ∧ answer = .ok returncode)) := by
  apply Prog.Through.perform_bind
  intro returncode
  by_cases hpos : (0 : Int) < returncode
  · right
    rw [if_pos hpos]
    trivial
  · exact .inl (.intro ⟨returncode, Int.not_lt.1 hpos, rfl⟩)

variable (data : RestoreBody)

theorem through_createRestore_hdfs : (createRestore data).Through
    (Answered (.host (.copyFromLocal (hdfsDir data.backupId) "/hdfs")) (· = .ok (0 : Int))) := by
  apply Prog.Through.bind_right
  intro _
  apply Prog.Through.bind_right
  intro config
  apply Prog.Through.bind_right
  intro _
  exact (through_copyFromLocal _ _).bind_left _

theorem through_createRestore_mysql : (createRestore data).Through
    (Answered (.host (.mysqlSource "mysqlbackup.cnf" (dumpfilepath data.backupId)))
      (fun answer => ∃ returncode : Int, returncode ≤ 0 ∧ answer = .ok returncode)) := by
  apply Prog.Through.bind_right
  intro _
  apply Prog.Through.bind_right
  intro config
  apply Prog.Through.bind_right
  intro _
  apply Prog.Through.bind_right
  intro _
  exact through_sourceMysql _

end Steps

/-! ## The outcome of a restore -/

/-- A restore returns, and is answered with `201`, only when it is done; else it
ends in an exception that is answered with an error, and the server lives on. -/
structure TellsOutcome (ω : Outcomes) (w : World D) (data : RestoreBody) : Prop where
  returns : ((createRestore data).run (World.answer ω) w).1 = .ok () →
    RestoreDone w.config data.backupId ((createRestore data).log (World.answer ω) w) ∧
      w.respond ω (RestoreCollection.post data) = .response 201 none
  raises : ∀ e, ((createRestore data).run (World.answer ω) w).1 = .error e →
    e.isException = true ∧ ∃ code message,
      w.respond ω (RestoreCollection.post data) = .response code message ∧ 400 ≤ code

/-- The mysql client cannot be started, or it sources a dump and exits zero. -/
def MysqlTells (ω : Outcomes) (w : World D) (b : Int) : Prop :=
  ω.mysql = .notStarted ∨
    (∃ reached, ω.mysql = .exited 0 reached) ∧ ∃ d, w.files (dumpfilepath b) = some (.dump d)

section Outcome

variable {ω : Outcomes} {w : World D} {data : RestoreBody}

theorem respond_post : w.respond ω (RestoreCollection.post data) =
    match ((createRestore data).run (World.answer ω) w).1 with
    | .ok _ => .response 201 none
    | .error e => handleError flaskDebug e := by
  unfold World.respond RestoreCollection.post
  rw [Prog.run_bind]
  rcases (createRestore data).run (World.answer ω) w with ⟨e | _, w'⟩ <;> rfl

/-- An exception of Python is a true answer. -/
theorem tellsOutcome_of_error {e : PyExc} (hexc : e.isException = true)
    (hrun : ((createRestore data).run (World.answer ω) w).1 = .error e) :
    TellsOutcome ω w data := by
  constructor
  · intro hok
    rw [hrun] at hok
    cases hok
  · intro e' he
    rw [hrun] at he
    cases he
    refine ⟨hexc, ?_⟩
    rw [respond_post, hrun]
    exact handleError_of_isException hexc flaskDebug

/-- What the mysql client answers. -/
theorem runMysqlSource_fst (w : World D) (script : String) (returncode : Int)
    (reached : String → Bool) :
    ((∃ d, w.files script = some (.dump d)) ∧
      (w.runMysqlSource script (.exited returncode reached)).1 = .ok returncode) ∨
    (¬∃ d, w.files script = some (.dump d)) ∧
      (w.runMysqlSource script (.exited returncode reached)).1 = .ok (failing returncode) := by
  unfold World.runMysqlSource
  dsimp only
  split
  · next d hd => exact .inl ⟨⟨d, hd⟩, rfl⟩
  · next hno => exact .inr ⟨fun ⟨d, hd⟩ => hno d hd, rfl⟩

/-- A logged call of the mysql client was answered by the process. -/
theorem answer_of_logged_mysql {α : Type} {p : Py α} {cnf script : String} {returncode x : Int}
    {reached : String → Bool} (hmysql : ω.mysql = .exited returncode reached)
    (h : Logged (p.log (World.answer ω) w) (.host (.mysqlSource cnf script)) (.ok x)) :
    x = returncode ∨ x = failing returncode := by
  obtain ⟨before, after, hev⟩ := h
  have hanswer := congrArg Prod.fst (Prog.answer_of_mem_log hev)
  have hcall : (before.runMysqlSource script ω.mysql).1 = .ok x := hanswer
  rw [hmysql] at hcall
  rcases runMysqlSource_fst before script returncode reached with ⟨-, h⟩ | ⟨-, h⟩
  · rw [h] at hcall
    cases hcall
    exact .inl rfl
  · rw [h] at hcall
    cases hcall
    exact .inr rfl

theorem mem_log_createRestore {key : Int} (hkey : w.requestedKey ω data = .ok key)
    {ev : Event Call Reply PyExc (World D)}
    (hev : ev ∈ (restoreIndicesFromFsToDest w.config data.backupId).log (World.answer ω)
      (w.withRestore key data)) : ev ∈ (createRestore data).log (World.answer ω) w := by
  unfold World.requestedKey at hkey
  unfold createRestore restoreStages
  rw [Prog.log_bind, run_insertRestore, hkey]
  apply List.mem_append_right
  dsimp only
  rw [Prog.log_bind, run_readConfig]
  apply List.mem_append_right
  dsimp only
  rw [Prog.log_bind]
  exact List.mem_append_left _ hev

/-- A restore that returns after a mysql client that exited zero is done. -/
theorem restoreDone_of_ok {reached : String → Bool} (hreach : ReachesMysql ω w data)
    (hmysql : ω.mysql = .exited 0 reached)
    (hrun : ((createRestore data).run (World.answer ω) w).1 = .ok ()) :
    RestoreDone w.config data.backupId ((createRestore data).log (World.answer ω) w) := by
  have hrun' : (createRestore data).run (World.answer ω) w =
      (.ok (), ((createRestore data).run (World.answer ω) w).2) := Prod.ext hrun rfl
  refine ⟨?_, ?_, ?_⟩
  · cases hkey : w.requestedKey ω data with
    | error e => exact absurd (requestedKey_eq_error_iff.1 ⟨e, hkey⟩) hreach.commits
    | ok key =>
      rcases restoreIndices_cases ω (w.withRestore key data) w.config data.backupId with
        ⟨-, cluster, hok⟩ | ⟨hno, -⟩
      · obtain ⟨⟨before, c, answer, after⟩, hev, repository, name, hname, hanswered⟩ :=
          through_restoreIndices.exists_mem_log hok
        cases hanswered with
        | intro hanswer =>
          cases hanswer
          exact ⟨repository, name, hname, before, after, mem_log_createRestore hkey hev⟩
      · exact absurd ((restoresIndices_withRestore ω w data key _ _).2 hreach.restores) hno
  · obtain ⟨answer, rfl, hlogged⟩ := exists_logged (through_createRestore_hdfs data) hrun'
    exact hlogged
  · obtain ⟨answer, ⟨returncode, hle, rfl⟩, hlogged⟩ :=
      exists_logged (through_createRestore_mysql data) hrun'
    have hzero : returncode = 0 := by
      rcases answer_of_logged_mysql hmysql hlogged with h | h
      · exact h
      · rw [h] at hle
        exact absurd hle (by decide)
    rw [← hzero]
    exact hlogged

/-- What a client that was started answers, and whether that is a success. -/
theorem exists_answer_of_exited {w₂ : World D} {b : Int} {returncode : Int}
    {reached : String → Bool} (hmysql : ω.mysql = .exited returncode reached)
    (hfiles : w₂.files = w.files) :
    ∃ x, (x = returncode ∨ x = failing returncode) ∧
      (w₂.runMysqlSource (dumpfilepath b) ω.mysql).1 = .ok x ∧ (MysqlTells ω w b ↔ x = 0) := by
  have hstarted (h : MysqlTells ω w b) :
      returncode = 0 ∧ ∃ d, w₂.files (dumpfilepath b) = some (.dump d) := by
    rcases h with h | ⟨⟨reached', h⟩, hd⟩
    · rw [hmysql] at h
      cases h
    · rw [hmysql] at h
      cases h
      exact ⟨rfl, hfiles ▸ hd⟩
  rw [hmysql]
  rcases runMysqlSource_fst w₂ (dumpfilepath b) returncode reached with ⟨hd, hans⟩ | ⟨hno, hans⟩
  · refine ⟨returncode, .inl rfl, hans, fun h => (hstarted h).1, ?_⟩
    intro hzero
    exact .inr ⟨⟨reached, hzero ▸ hmysql⟩, hfiles ▸ hd⟩
  · refine ⟨failing returncode, .inr rfl, hans, fun h => absurd (hstarted h).2 hno, ?_⟩
    intro hzero
    exact absurd hzero (World.failing_ne_zero returncode)

/-- **When a restore tells its outcome**: unless it comes to the mysql client
and that one starts and fails. -/
theorem tellsOutcome_iff (ω : Outcomes) (w : World D) (data : RestoreBody) :
    TellsOutcome ω w data ↔ (ReachesMysql ω w data → MysqlTells ω w data.backupId) := by
  rcases createRestore_cases ω w data with ⟨hreach, w₂, hfiles, hrun⟩ | ⟨hno, e, hexc, hrun⟩
  · rw [forall_prop_of_true hreach]
    cases hmysql : ω.mysql with
    | notStarted =>
      rw [hmysql] at hrun
      exact iff_of_true (tellsOutcome_of_error rfl hrun) (.inl hmysql)
    | exited returncode reached =>
      obtain ⟨x, hx, hans, htells⟩ := exists_answer_of_exited hmysql hfiles
      rw [hans] at hrun
      rw [htells]
      rcases lt_trichotomy x 0 with hneg | rfl | hpos
      · -- killed by a signal: the restore returns and the client did not exit zero
        have hok : ((createRestore data).run (World.answer ω) w).1 = .ok () :=
          hrun.trans (if_neg (by omega))
        refine iff_of_false ?_ (by omega)
        intro h
        rcases answer_of_logged_mysql hmysql (h.returns hok).1.mysql with hzero | hzero
        · subst hzero
          rcases hx with rfl | rfl <;> exact absurd hneg (by decide)
        · exact World.failing_ne_zero returncode hzero.symm
      · have hok : ((createRestore data).run (World.answer ω) w).1 = .ok () := hrun
        have hzero : returncode = 0 :=
          (hx.resolve_right fun h => World.failing_ne_zero returncode h.symm).symm
        refine iff_of_true ⟨fun _ => ⟨?_, ?_⟩, ?_⟩ rfl
        · exact restoreDone_of_ok hreach (hzero ▸ hmysql) hok
        · rw [respond_post, hok]
        · intro e he
          rw [hok] at he
          cases he
      · -- `sys.exit(1)`
        have hexit : ((createRestore data).run (World.answer ω) w).1 = .error (.systemExit 1) :=
          hrun.trans (if_pos hpos)
        refine iff_of_false ?_ (by omega)
        intro h
        have hexc := (h.raises _ hexit).1
        cases hexc
  · exact iff_of_true (tellsOutcome_of_error hexc hrun) fun h => absurd h hno

end Outcome

section Samples

/-- Filled stores and a backup of them under the id `1`. -/
def World.backedUp : World Nat :=
  ((createEdmBackup ⟨some "nightly"⟩).run (World.answer .smoothNewYear) World.busy).2

/-- All goes well but the mysql client, which has handled no table when it ends. -/
def Outcomes.mysqlEnds (returncode : Int) : Outcomes :=
  { Outcomes.smoothNewYear with mysql := .exited returncode fun _ => false }

def restoreFirst : RestoreBody := ⟨some "restore", .absent, 1⟩

/-- A client that exits with `1` ends the process of the server; one that was
killed by the signal `9` is answered with `201`. -/
theorem restore_outcome_untold :
    World.backedUp.respond (.mysqlEnds 1) (RestoreCollection.post restoreFirst) =
        .processExit 1 ∧
      ¬TellsOutcome (.mysqlEnds 1) World.backedUp restoreFirst ∧
      World.backedUp.respond (.mysqlEnds (-9)) (RestoreCollection.post restoreFirst) =
        .response 201 none ∧
      ¬TellsOutcome (.mysqlEnds (-9)) World.backedUp restoreFirst := by
  refine ⟨rfl, ?_, rfl, ?_⟩
  · intro h
    have hexc := (h.raises (.systemExit 1) rfl).1
    cases hexc
  · intro h
    rcases answer_of_logged_mysql rfl (h.returns rfl).1.mysql with hzero | hzero
    · exact absurd hzero (by decide)
    · exact absurd hzero (by decide)

end Samples

end Edm
