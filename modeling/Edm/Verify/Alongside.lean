import Edm.Effects.Alone
import Edm.Verify.Agree

/-!
# A backup or a restore alongside other jobs

A backup can overlap with other jobs that back up or serve the catalogue, and
so can a restore. It does what it does alone, unless one of them registers its
own location while it uses the repository (`backup_alongside`,
`restore_alongside`).
-/

namespace Edm

open Effects Data

variable {D : Type}

/-! ## Programs -/

section Programs

variable {config : Config} {b : Int}

/-- The config is read as it is. -/
def ReadsAs (config : Config) : (c : Call) → Except PyExc (Reply c) → Prop
  | .readConfig, r => r = .ok config
  | _, _ => True

/-- Besides, no row of a backup gets the id `b`. -/
def AnsweredBeside (config : Config) (b : Int) : (c : Call) → Except PyExc (Reply c) → Prop
  | .readConfig, r => r = .ok config
  | .db (.insertBackup ..), r => r ≠ .ok b
  | _, _ => True

theorem beside_backupStages {b' : Int} (hne : b' ≠ b) (cnf : String) :
    (backupStages cnf b').CallsGiven (AnsweredBeside config b)
      fun c => c.Spares config b ∧ c.Quiet := by
  refine .perform_bind ⟨trivial, trivial⟩ ?_
  intro config' hconfig
  obtain rfl : config' = config := Except.ok.inj hconfig
  exact .of_calls (spares_backup hne cnf)

theorem beside_prog (hname : ∃ name, config.snapshotName b = .ok name) {job : Job D}
    (hrestores : ¬job.Restores) (h : ¬job.Threatens b) :
    job.prog.CallsGiven (AnsweredBeside config b) fun c => c.Spares config b ∧ c.Quiet := by
  cases job with
  | script script =>
    cases script with
    | backup =>
      have hne : (3 : Int) ≠ b := fun heq => h heq.symm
      exact .bind (.bind (beside_backupStages hne _) fun _ => trivial) fun _ => trivial
    | restore => exact absurd trivial hrestores
  | esutils mode =>
    cases mode with
    | backup =>
      refine .perform_bind ⟨trivial, trivial⟩ ?_
      intro config' hconfig
      obtain rfl : config' = config := Except.ok.inj hconfig
      obtain ⟨name, hname⟩ := hname
      rw [Config.withDefaults_of_named hname]
      have hne : Task.snapshot 1 ≠ .snapshot b := fun heq => h (congrArg Task.backupId heq).symm
      exact .of_calls ((Task.calls_prog config' (.snapshot 1)).mono fun _ hissues =>
        ⟨spares_of_issues hne hissues, quiet_of_issues hissues⟩)
    | restore => exact absurd trivial hrestores
  | request q =>
    cases q with
    | createEdmBackup data =>
      refine .bind (.perform_bind ⟨trivial, trivial⟩ ?_) fun _ => trivial
      intro backupId hinsert
      have hne : backupId ≠ b := fun heq => hinsert (congrArg Except.ok heq)
      exact .bind (beside_backupStages hne _) fun _ => trivial
    | createRestore data => exact absurd trivial hrestores
    | changeStores stores => trivial
    | deleteEdmBackup backupId =>
      exact .of_calls (.bind (calls_dbCall ⟨trivial, trivial⟩) fun _ => calls_dbCall ⟨h, trivial⟩)
    | updateEdmBackup backupId data =>
      exact .of_calls (.bind (calls_dbCall ⟨trivial, trivial⟩) fun _ =>
        calls_dbCall ⟨trivial, trivial⟩)
    | updateRestore restoreId data =>
      exact .of_calls (.bind (calls_dbCall ⟨trivial, trivial⟩) fun _ =>
        calls_dbCall ⟨trivial, trivial⟩)
    | deleteRestore restoreId =>
      exact .of_calls (.bind (calls_dbCall ⟨trivial, trivial⟩) fun _ =>
        calls_dbCall ⟨trivial, trivial⟩)

/-- The calls of a backup by itself. -/
theorem goesBy_snapshotIndices :
    (snapshotIndicesFromSrcToFs config b).Calls (Call.GoesBy config b) := by
  unfold snapshotIndicesFromSrcToFs
  cases hset : config.srcSettings with
  | error e => trivial
  | ok settings =>
    obtain ⟨repository, seeds⟩ := settings
    have hrepo := Config.repository_of_srcSettings hset
    refine .tryCatch ?_ (calls_exceptException fun _ => .pure ())
    unfold takeSnapshot
    refine .bind (calls_esCall trivial) fun _ => .bind (calls_esCall trivial) fun _ =>
      .bind (calls_esCall ⟨hrepo, rfl⟩) fun _ => ?_
    cases hname : config.snapshotName b with
    | error e => trivial
    | ok name =>
      show (dropSnapshot repository name >>= fun _ =>
        esCall (.createSnapshot repository name)).Calls _
      refine .bind (.tryCatch ?_ (calls_exceptException fun _ => .pure ())) fun _ =>
        calls_esCall ⟨hrepo, hname⟩
      exact .bind (calls_esCall ⟨hrepo, hname⟩) fun _ => calls_esCall ⟨hrepo, hname⟩

theorem goesBy_backupStages (cnf : String) :
    (backupStages cnf b).CallsGiven (ReadsAs config) (Call.GoesBy config b) := by
  refine .perform_bind trivial ?_
  intro config' hconfig
  obtain rfl : config' = config := Except.ok.inj hconfig
  refine .of_calls (.bind goesBy_snapshotIndices fun _ => .bind
    (calls_checkOutput (calls_host rfl)) fun _ => .bind (.bind (calls_host rfl) fun isThere => ?_)
      fun _ => .bind (calls_host rfl) fun _ => .bind (calls_host rfl) fun _ => .pure ())
  split
  · exact .pure ()
  · exact calls_host rfl

theorem goesBy_of_issues {call : Call} (h : (Task.restore b).Issues config call) :
    call.GoesBy config b := by
  cases h with
  | createRepository task hrepo => exact ⟨hrepo, rfl⟩
  | restoreSnapshot hrepo hname => exact ⟨hrepo, hname⟩
  | connect | info | closeIndices | openIndices => trivial

theorem goesBy_restoreStages (cnf : String) :
    (restoreStages cnf b).CallsGiven (ReadsAs config) (Call.GoesBy config b) := by
  refine .perform_bind trivial ?_
  intro config' hconfig
  obtain rfl : config' = config := Except.ok.inj hconfig
  have hindices := (Task.calls_prog config' (.restore b)).mono fun _ => goesBy_of_issues
  refine .of_calls (.bind hindices fun _ => .bind (calls_checkOutput (calls_host rfl)) fun _ =>
    .bind (calls_host rfl) fun returncode => ?_)
  split
  · exact .raise _
  · exact .pure ()

/-- A backup registers its location before it uses it. -/
theorem guarded_backupStages (cnf : String) :
    (backupStages cnf b).Guarded Registers (·.usesRepository = true) := by
  refine .bind (.of_calls (calls_readConfig nofun)) fun config => .bind ?_ fun _ => ?_
  · refine .bind (.of_calls (.ofExcept _)) fun settings =>
      .tryCatch ?_ (guarded_exceptException fun _ => trivial)
    unfold takeSnapshot
    refine guarded_esCall_bind nofun (.inr (guarded_esCall_bind nofun (.inr ?_)))
    exact guarded_esCall_bind nofun (.inl ⟨rfl, rfl⟩)
  · refine .of_calls (.bind (calls_checkOutput (calls_host nofun)) fun _ => ?_)
    exact calls_dumpMysql (fun _ => nofun) cnf b

/-- And so does a restore. -/
theorem guarded_restoreStages (cnf : String) :
    (restoreStages cnf b).Guarded Registers (·.usesRepository = true) := by
  refine .bind (.of_calls (calls_readConfig nofun)) fun config => .bind ?_ fun _ => ?_
  · refine .bind (.of_calls (.ofExcept _)) fun settings =>
      .tryCatch ?_ (guarded_exceptException fun _ => trivial)
    unfold restoreSnapshot
    exact guarded_esCall_bind nofun (.inr (guarded_esCall_bind nofun (.inl ⟨rfl, rfl⟩)))
  · refine .of_calls (.bind (calls_checkOutput (calls_host nofun)) fun _ =>
      .bind (calls_host nofun) fun returncode => ?_)
    split
    · exact .raise _
    · exact .pure ()

end Programs

/-! ## Alongside other jobs -/

section Events

variable {ι : Type}

/-- The id that a new row of a backup gets. -/
def inserted : RunEvent ι D → Option Int
  | ⟨⟨_, .db (.insertBackup _ _), .ok id, _⟩, _⟩ => some id
  | _ => none

/-- While its row is there, no new one gets the id. -/
theorem notMem_inserted {ω : Outcomes} {e : RunEvent ι D} {b : Int}
    (hanswer : World.answer ω e.call e.before = (e.answer, e.after))
    (hrow : b ∈ e.before.backups.ids) : b ∉ inserted e := by
  obtain ⟨⟨before, call, answer, after⟩, who⟩ := e
  cases call with
  | db call =>
    cases call with
    | insertBackup title status =>
      intro hid
      have hnext : Except.ok before.backups.nextId = answer := congrArg Prod.fst hanswer
      rw [← hnext] at hid
      have hlt := Table.lt_nextId hrow
      exact hlt.ne' (Option.some.inj hid)
    | _ => exact nofun
  | _ => exact nofun

/-- The id `b` is given to `i` and to no other. -/
def GivenTo (i : ι) (b : Int) (tr : List (RunEvent ι D)) : Prop :=
  ∀ e ∈ tr, ∀ id ∈ inserted e, (id = b ↔ e.who = i)

/-- The error with which the row of a restore is refused. -/
def refused : RunEvent ι D → Option PyExc
  | ⟨⟨_, .db (.insertRestore _ _), .error x, _⟩, _⟩ => some x
  | _ => none

/-- The call registers a location that is not the one of `b`. -/
def Call.registersElsewhere (b : Int) : Call → Bool
  | .es (.createRepository _ location) => location ≠ str b
  | _ => false

/-- From the registration of `i` on, no other location is registered before `i`
uses its own for the last time. -/
def StaysPlaced (i : ι) (b : Int) (tr : List (RunEvent ι D)) : Prop :=
  Interleaved.Undisturbed i Registers (fun c => c.usesRepository = true)
    (fun e => e.call.registersElsewhere b = true ∧ e.answer.isOk = true) (fun _ => False) False tr

variable [DecidableEq ι] {jobs : ι → Job D} {ω : ι → Outcomes} {w w' : World D}
  {tr : List (RunEvent ι D)} {ps ps' : ι → Py Unit} {i : ι} {b : Int}

theorem config_before (h : Interleaved (fun i => World.answer (ω i)) ps w tr ps' w') :
    ∀ e ∈ tr, e.before.config = w.config :=
  h.holds_before (I := fun a => a.config = w.config) rfl
    fun j c a ha => (config_answer (ω j) c a).trans ha

theorem readsAs_answer {config : Config} {a : World D} (ω : Outcomes) (c : Call)
    (h : a.config = config) : ReadsAs config c (World.answer ω c a).1 := by
  cases c with
  | readConfig => exact congrArg Except.ok h
  | es | host | db => trivial

theorem readsAs_event (h : Interleaved (fun i => World.answer (ω i)) ps w tr ps' w') :
    ∀ e ∈ tr, ReadsAs w.config e.call e.answer := by
  intro e he
  have hanswer : (World.answer (ω e.who) e.call e.before).1 = e.answer :=
    congrArg Prod.fst (h.answered he)
  rw [← hanswer]
  exact readsAs_answer _ _ (config_before h e he)

theorem answeredBeside (h : Interleaved (fun i => World.answer (ω i)) ps w tr ps' w')
    (hid : ∀ e ∈ tr, e.who ≠ i → b ∉ inserted e) :
    ∀ e ∈ tr, e.who ≠ i → AnsweredBeside w.config b e.call e.answer := by
  intro e he hwho
  have hread := readsAs_event h e he
  have hnew := hid e he hwho
  obtain ⟨⟨before, call, answer, after⟩, who⟩ := e
  cases call with
  | readConfig => exact hread
  | es | host => trivial
  | db call =>
    cases call with
    | insertBackup title status =>
      rintro rfl
      exact hnew rfl
    | _ => trivial

/-- What the other jobs do leaves alone what a job that goes by `b` looks at. -/
theorem Concurrent.agree_event (h : Concurrent jobs ω w tr ps' w')
    (hid : ∀ e ∈ tr, e.who ≠ i → b ∉ inserted e)
    (hname : ∃ name, w.config.snapshotName b = .ok name)
    (hothers : ∀ j, j ≠ i → ¬(jobs j).Restores ∧ ¬(jobs j).Threatens b) :
    ∀ e ∈ tr, e.who ≠ i → Agree b e.after e.before := by
  intro e he hwho
  obtain ⟨hrestores, hthreatens⟩ := hothers e.who hwho
  have hcalls := h.calls_given (beside_prog hname hrestores hthreatens)
    (fun e' he' hsame => answeredBeside h hid e' he' (hsame ▸ hwho)) e he rfl
  rw [← config_before h e he] at hcalls
  have hafter : (World.answer (ω e.who) e.call e.before).2 = e.after :=
    congrArg Prod.snd (h.answered he)
  rw [← hafter]
  exact agree_answer hcalls.1 hcalls.2

/-! ### The repository in its place -/

theorem placed_event {ω : Outcomes} {ev : Event Call Reply PyExc (World D)}
    (hanswer : World.answer ω ev.call ev.before = (ev.answer, ev.after))
    (hev : ¬(ev.call.registersElsewhere b = true ∧ ev.answer.isOk = true))
    (h : Placed b ev.before) : Placed b ev.after := by
  have hafter : (World.answer ω ev.call ev.before).2 = ev.after := congrArg Prod.snd hanswer
  rw [← hafter]
  refine placed_answer ?_ h
  intro repository location hcall hok
  by_contra hne
  refine hev ⟨?_, ?_⟩
  · rw [hcall]
    exact decide_eq_true hne
  · rw [← hok, hanswer]

theorem placed_own {ω : Outcomes} {ev : Event Call Reply PyExc (World D)}
    (hanswer : World.answer ω ev.call ev.before = (ev.answer, ev.after))
    (hown : ev.call.GoesBy ev.before.config b) (hregisters : Registers ev.call ev.answer) :
    Placed b ev.after := by
  have hafter : (World.answer ω ev.call ev.before).2 = ev.after := congrArg Prod.snd hanswer
  rw [← hafter]
  refine placed_of_registers hown ⟨hregisters.1, ?_⟩
  rw [hanswer]
  exact hregisters.2

theorem not_registersElsewhere {config : Config} {c : Call} (h : c.GoesBy config b) :
    ¬c.registersElsewhere b = true := by
  cases c with
  | es call =>
    cases call with
    | createRepository repository location =>
      obtain ⟨-, rfl⟩ := h
      exact fun helse => of_decide_eq_true helse rfl
    | _ => exact nofun
  | _ => exact nofun

/-- Alone it finds the repository in its place. -/
theorem placed_alone {ω : Outcomes} {p : Py Unit}
    (hguarded : p.Guarded Registers (·.usesRepository = true))
    (hcalls : p.CallsGiven (ReadsAs w.config) (Call.GoesBy w.config b)) :
    ∀ ev ∈ p.log (World.answer ω) w, ev.call.usesRepository = true → Placed b ev.before := by
  have hown : ∀ ev ∈ p.log (World.answer ω) w, ev.call.GoesBy ev.before.config b := by
    intro ev hev
    obtain ⟨hconfig, hown⟩ := hcalls.of_mem_log (I := fun a : World D => a.config = w.config)
      (fun c a ha => ⟨readsAs_answer ω c ha, (config_answer ω c a).trans ha⟩) rfl hev
    rw [hconfig]
    exact hown
  refine Prog.Guarded.holds_at_use (.inl hguarded) ?_ ?_
  · intro ev hev hregisters
    exact placed_own (Prog.answer_of_mem_log hev) (hown ev hev) hregisters
  · intro ev hev
    refine placed_event (Prog.answer_of_mem_log hev) ?_
    exact fun helse => not_registersElsewhere (hown ev hev) helse.1

/-- **A program that goes by `b` does what it does alone**, if the others leave
alone what it looks at and the repository in its place. -/
theorem exists_alone (h : Interleaved (fun i => World.answer (ω i)) ps w tr ps' w')
    (hguarded : (ps i).Guarded Registers (·.usesRepository = true))
    (hcalls : (ps i).CallsGiven (ReadsAs w.config) (Call.GoesBy w.config b))
    (hothers : ∀ e ∈ tr, e.who ≠ i → Agree b e.after e.before) (hplace : StaysPlaced i b tr) :
    ∃ t, Agree b w' t ∧ (ps' i).run (World.answer (ω i)) t = (ps i).run (World.answer (ω i)) w := by
  have hown : ∀ e ∈ tr, e.who = i → e.call.GoesBy e.before.config b := by
    intro e he hwho
    rw [config_before h e he]
    exact h.calls_given hcalls (fun e' he' _ => readsAs_event h e' he') e he hwho
  have hplaced : ∀ e ∈ tr, e.who = i → e.call.usesRepository = true → Placed b e.before := by
    refine h.holds_at_use (.inl hguarded) ?_ (fun _ _ => False.elim) ?_ hplace
    · intro e he hwho
      exact placed_own (h.answered he) (hown e he hwho)
    · intro e he
      exact placed_event (h.answered he)
  exact h.alone (P := Agree b) (t := w) (i := i)
    (K := fun c a => c.GoesBy a.config b ∧ (c.usesRepository = true → Placed b a))
    (L := fun c a => c.usesRepository = true → Placed b a) (.refl b w)
    (fun c a a' hc hc' hagree => own_answer (hagree.config ▸ hc.1)
      (fun huse => ⟨hc.2 huse, hc' huse⟩) hagree)
    (fun e he hwho a hagree => (hothers e he hwho).trans hagree)
    (fun e he hwho => ⟨hown e he hwho, hplaced e he hwho⟩)
    (placed_alone hguarded hcalls)

/-- A job has not started yet, or it made its first call in a world that agrees
and goes on alongside the others. -/
theorem Concurrent.exists_started {c : Call} {next : Except PyExc (Reply c) → Py Unit}
    (h : Concurrent jobs ω w tr ps' w') (hprog : (jobs i).prog = .call c next)
    (hothers : ∀ e ∈ tr, e.who ≠ i → Agree b e.after e.before) (hplace : StaysPlaced i b tr) :
    ps' i = .call c next ∨ ∃ s ps tr', Agree b s w ∧
      ⟨⟨s, c, (World.answer (ω i) c s).1, (World.answer (ω i) c s).2⟩, i⟩ ∈ tr ∧
      ps i = next (World.answer (ω i) c s).1 ∧
      Interleaved (fun i => World.answer (ω i)) ps (World.answer (ω i) c s).2 tr' ps' w' ∧
      (∀ e ∈ tr', e.who ≠ i → Agree b e.after e.before) ∧ StaysPlaced i b tr' := by
  refine (h.exists_first hprog).imp_right ?_
  rintro ⟨tr₁, ps₁, s, tr₂, hbefore, hnone, -, hafter, rfl⟩
  have hfirst : ∀ e ∈ tr₁, Agree b e.after e.before := fun e he =>
    hothers e (List.mem_append_left _ he) (hnone e he)
  refine ⟨s, _, tr₂, hbefore.rel (.refl b) (fun _ _ _ => .trans) hfirst, ?_,
    Function.update_self .., hafter, ?_, ?_⟩
  · exact List.mem_append_right _ List.mem_cons_self
  · intro e he
    exact hothers e (List.mem_append_right _ (List.mem_cons_of_mem _ he))
  · rw [List.append_cons] at hplace
    exact hplace.of_append

/-! ### A backup -/

/-- After its row is there, a backup goes by the id the row got. -/
theorem exists_createEdmBackup_prog (data : TitleBody) :
    ∃ next, (Job.request (D := D) (.createEdmBackup data)).prog =
        .call (.db (.insertBackup data.title "INITIATED")) next ∧
      ∀ id, next (.ok id) = backupStages "mysqlbackup.cnf" id := by
  refine ⟨_, rfl, ?_⟩
  intro id
  have hassoc := Prog.bind_assoc (backupStages "mysqlbackup.cnf" id) (fun _ => pure id)
    fun _ : Int => (pure () : Py Unit)
  exact hassoc.trans (Prog.bind_pure (backupStages "mysqlbackup.cnf" id))

theorem keeps_backupStages {ω : Outcomes} (h : Succeeds b ω w) (hrow : b ∈ w.backups.ids)
    (cnf : String) : ((backupStages cnf b).run (World.answer ω) w).1 = .ok () ∧
      Keeps b w.capture ((backupStages cnf b).run (World.answer ω) w).2 := by
  obtain ⟨hok, hrenewed⟩ := h.renewed cnf
  have hsame := sameCatalogue_backupStages (ω := ω) (w := w) cnf b
  refine ⟨hok, by rw [hsame.backups]; exact hrow, ?_⟩
  unfold Saves
  rw [hsame.config]
  exact hrenewed.holds

/-- **A backup alongside other jobs is as good as one alone.** Its steps would
succeed, the jobs are no restores, none threatens it or got its id, and none
registers its own location while the backup uses the repository: then it does not
fail, and when it is through it keeps what the stores held. -/
theorem backup_alongside {data : TitleBody} (jobs : ι → Job D) (ω : ι → Outcomes) (w w' : World D)
    (tr : List (RunEvent ι D)) (ps' : ι → Py Unit) (h : Concurrent jobs ω w tr ps' w')
    (hjob : jobs i = .request (.createEdmBackup data)) (hgiven : GivenTo i b tr)
    (hothers : ∀ j, j ≠ i → ¬(jobs j).Restores ∧ ¬(jobs j).Threatens b)
    (hplace : StaysPlaced i b tr) (hsucc : Succeeds b (ω i) w) :
    (∀ x, ps' i ≠ .raise x) ∧ (ps' i = .pure () → Keeps b w.capture w') := by
  have hname : ∃ name, w.config.snapshotName b = .ok name := by
    obtain ⟨name, hname, -⟩ := hsucc.snapshot.named
    exact ⟨name, hname⟩
  have hagree := h.agree_event (fun e he hwho hid => hwho ((hgiven e he b hid).1 rfl)) hname hothers
  obtain ⟨next, hprog, hnext⟩ := exists_createEdmBackup_prog (D := D) data
  rw [← hjob] at hprog
  rcases h.exists_started hprog hagree hplace with hend |
    ⟨s, ps, tr', hstart, hfirst, hps, hafter, hagree', hplace'⟩
  · refine ⟨fun x hx => ?_, fun hx => ?_⟩ <;> rw [hend] at hx <;> cases hx
  -- The row is there, and the backup goes on by its id.
  have hid : s.backups.nextId = b := (hgiven _ hfirst _ rfl).2 rfl
  have hps : ps i = backupStages "mysqlbackup.cnf" b := hps.trans ((hnext _).trans (by rw [hid]))
  have hinserted :
      Agree b (World.answer (ω i) (.db (.insertBackup data.title "INITIATED")) s).2 w :=
    Agree.trans (agree_answerDb trivial) hstart
  have hrow : b ∈ (s.answerDb (ω i) (.insertBackup data.title "INITIATED")).2.backups.ids :=
    (Table.mem_ids_put ..).2 (.inl hid.symm)
  obtain ⟨t, ht, hrun⟩ := exists_alone hafter (hps ▸ guarded_backupStages _)
    (hps ▸ goesBy_backupStages _) hagree' hplace'
  obtain ⟨hok, hkeeps⟩ := keeps_backupStages (hinserted.succeeds hsucc) hrow "mysqlbackup.cnf"
  rw [hps] at hrun
  rw [← hrun] at hok hkeeps
  obtain ⟨hraise, hend⟩ := Prog.ends_of_run hok
  refine ⟨hraise, ?_⟩
  intro hreturned
  rw [hend () hreturned, hinserted.capture] at hkeeps
  exact ht.keeps hkeeps

/-! ### A restore -/

theorem Agree.restoreSmooth {ω : Outcomes} {indices : Snapshot D} (h : Agree b w' w)
    (hw : RestoreSmooth ω w indices) : RestoreSmooth ω w' indices where
  settings := h.config ▸ hw.settings
  reaches := hw.reaches
  closed := by
    have hindices : w'.cluster.indices = w.cluster.indices := congrArg Stores.indices h.stores
    unfold Cluster.IsOpen
    rw [hindices]
    exact hw.closed
  restored := hw.restored
  copied := hw.copied
  sourced := hw.sourced

/-- After its row is there, a restore goes by the id of its backup. -/
theorem exists_createRestore_prog (data : RestoreBody) :
    ∃ id row next, (Job.request (D := D) (.createRestore data)).prog =
        .call (.db (.insertRestore id row)) next ∧
      (∀ key, next (.ok key) = restoreStages "mysqlbackup.cnf" data.backupId) ∧
      ∀ x, next (.error x) = .raise x := by
  refine ⟨_, _, _, rfl, ?_, ?_⟩
  · intro key
    rfl
  · intro x
    rfl

/-- **A restore alongside other jobs recovers what its backup captured.** The
backup is kept and the calls of the restore are let through, the other jobs are no
restores, none threatens the backup, and none registers its own location while
the restore uses the repository: then the restore fails only when its row is
refused, and when it is through the stores hold what was captured. -/
theorem restore_alongside {c : Capture D} {data : RestoreBody} (jobs : ι → Job D)
    (ω : ι → Outcomes) (w w' : World D) (tr : List (RunEvent ι D)) (ps' : ι → Py Unit)
    (h : Concurrent jobs ω w tr ps' w') (hjob : jobs i = .request (.createRestore data))
    (hw : Keeps data.backupId c w)
    (hothers : ∀ j, j ≠ i → ¬(jobs j).Restores ∧ ¬(jobs j).Threatens data.backupId)
    (hplace : StaysPlaced i data.backupId tr) (hsmooth : RestoreSmooth (ω i) w c.indices) :
    (∀ x, ps' i = .raise x → ∃ e ∈ tr, e.who = i ∧ refused e = some x) ∧
      (ps' i = .pure () → Recovered c w'.stores) := by
  have hthreatens : ∀ j, ¬(jobs j).Threatens data.backupId := by
    intro j
    by_cases hj : j = i
    · rw [hj, hjob]
      exact id
    · exact (hothers j hj).2
  have hname : ∃ name, w.config.snapshotName data.backupId = .ok name := by
    obtain ⟨name, hname, -⟩ := hw.saves.snapshot
    exact ⟨name, hname⟩
  have hunder : KeepsUnder w.config data.backupId c w := ⟨rfl, hw⟩
  obtain ⟨hkept, -⟩ := h.maintains (fun j => maintains_prog (hthreatens j)) hunder
  have hagree := h.agree_event (fun e he _ => notMem_inserted (h.answered he)
    (hkept e he).1.keeps.row) hname hothers
  obtain ⟨id, row, next, hprog, hnext, hraise⟩ := exists_createRestore_prog (D := D) data
  rw [← hjob] at hprog
  rcases h.exists_started hprog hagree hplace with hend |
    ⟨s, ps, tr', hstart, hfirst, hps, hafter, hagree', hplace'⟩
  · refine ⟨fun x hx => ?_, fun hx => ?_⟩ <;> rw [hend] at hx <;> cases hx
  cases hr : (World.answer (ω i) (.db (.insertRestore id row)) s).1 with
  | error x =>
    rw [hr, hraise] at hps
    rw [hr] at hfirst
    obtain ⟨t, -, hrun⟩ := exists_alone hafter (hps ▸ trivial) (hps ▸ trivial) hagree' hplace'
    rw [hps] at hrun
    refine ⟨?_, ?_⟩
    · intro x' hx
      rw [hx] at hrun
      obtain rfl : x' = x := Except.error.inj (congrArg Prod.fst hrun)
      exact ⟨_, hfirst, rfl, rfl⟩
    · intro hend
      rw [hend] at hrun
      cases congrArg Prod.fst hrun
  | ok key =>
    rw [hr, hnext] at hps
    have hinserted :
        Agree data.backupId (World.answer (ω i) (.db (.insertRestore id row)) s).2 w :=
      Agree.trans (agree_answerDb trivial) hstart
    obtain ⟨t, ht, hrun⟩ := exists_alone hafter (hps ▸ guarded_restoreStages _)
      (hps ▸ goesBy_restoreStages _) hagree' hplace'
    obtain ⟨hok, hrecovered⟩ := recovered_of_saves (hinserted.keeps hw).saves
      (hinserted.restoreSmooth hsmooth) "mysqlbackup.cnf"
    rw [hps] at hrun
    rw [← hrun] at hok hrecovered
    obtain ⟨hraise, hend⟩ := Prog.ends_of_run hok
    refine ⟨fun x hx => absurd hx (hraise x), ?_⟩
    intro hreturned
    rw [hend () hreturned, ← ht.stores] at hrecovered
    exact hrecovered

instance (i : ι) (b : Int) (tr : List (RunEvent ι D)) : Decidable (StaysPlaced i b tr) :=
  inferInstanceAs (Decidable (Interleaved.Undisturbed ..))

instance (i : ι) (b : Int) (tr : List (RunEvent ι D)) : Decidable (GivenTo i b tr) :=
  inferInstanceAs (Decidable (∀ e ∈ tr, ∀ id ∈ inserted e, (id = b ↔ e.who = i)))

end Events

section Samples

def twoBackups : Side → Job Nat
  | .left => .request (.createEdmBackup ⟨some "nightly"⟩)
  | .right => .request (.createEdmBackup ⟨some "weekly"⟩)

/-- The second backup connects before the first one registers its location, and
registers its own after the snapshot of the first. -/
def twoBackupsRun : List (RunEvent Side Nat) × (Side → Py Unit) × World Nat :=
  interleave (fun _ => World.answer .smoothNewYear)
    (.replicate 1 .left ++ .replicate 4 .right ++ .replicate 6 .left ++ .replicate 4 .right ++
      .replicate 6 .left) (fun i => (twoBackups i).prog) World.busy

theorem backup_alongside_twoBackups : Keeps 1 World.busy.capture twoBackupsRun.2.2 := by
  have hothers : ∀ j, j ≠ Side.left →
      ¬(twoBackups j).Restores ∧ ¬(twoBackups j).Threatens 1 := by
    intro j _
    cases j <;> exact ⟨id, id⟩
  have hgiven : GivenTo Side.left 1 twoBackupsRun.1 := by decide
  have hplace : StaysPlaced Side.left 1 twoBackupsRun.1 := by decide
  exact (backup_alongside twoBackups _ _ _ _ _
    (interleaved_interleave (fun _ => World.answer .smoothNewYear) _ _ _) rfl hgiven hothers hplace
    (succeeds_smooth 1 rfl)).2 rfl

/-- A backup registers its location before the restore does, and stores its
snapshot while the restore is at it. -/
def restoreAmidRun : List (RunEvent Side Nat) × (Side → Py Unit) × World Nat :=
  interleave (fun _ => World.answer .smoothNewYear)
    (.replicate 5 .left ++ .replicate 7 .right ++ .replicate 7 .left ++ .replicate 3 .right)
    (fun i => (atOnce i).prog) afterFirst

theorem restore_alongside_atOnce : Recovered World.busy.capture restoreAmidRun.2.2.stores := by
  have hothers : ∀ j, j ≠ Side.right → ¬(atOnce j).Restores ∧ ¬(atOnce j).Threatens 1 := by
    intro j hj
    cases j with
    | left => exact ⟨id, id⟩
    | right => exact absurd rfl hj
  have hjob : atOnce .right = .request (.createRestore ⟨some "restore", .absent, 1⟩) := rfl
  have hplace : StaysPlaced Side.right 1 restoreAmidRun.1 := by decide
  exact (restore_alongside atOnce _ _ _ _ _
    (interleaved_interleave (fun _ => World.answer .smoothNewYear) _ _ _) hjob crashSteps_made
    hothers hplace ⟨⟨_, rfl⟩, ⟨rfl, rfl, rfl⟩, .inl rfl, rfl, ⟨_, rfl⟩, ⟨_, rfl⟩⟩).2 rfl

end Samples

end Edm
