import Edm.Effects.Linearize
import Edm.Verify.Concurrent

/-!
# Overlapping jobs and the catalogue

Each job takes effect on the two tables at once, with its insert or its commit
(`linearizes_prog`). So jobs that overlap leave the tables as they would one after
the other (`tables_linearize`), unless a row that one of them updates is written
by another: the update goes on with the row it has read. What the jobs are
answered is not compared: two deletes that overlap may both find the row.
-/

namespace Edm

open Effects Data

variable {D : Type}

/-! ## The effect of a job -/

structure Tables where
  backups : Table Backup
  restores : Table Restore

def World.tables (w : World D) : Tables := ⟨w.backups, w.restores⟩

@[simp] theorem World.tables_backups (w : World D) : w.tables.backups = w.backups := rfl

@[simp] theorem World.tables_restores (w : World D) : w.tables.restores = w.restores := rfl

/-- A world with these tables and nothing else. -/
def Tables.world (t : Tables) : World Unit :=
  { World.blank [] with backups := t.backups, restores := t.restores }

/-- What a job that runs alone makes of the tables. -/
def Job.effect (ω : Outcomes) : Job D → Tables → Tables
  | .request (.createEdmBackup data), t =>
    { t with backups := t.backups.put t.backups.nextId ⟨data.title, ω.utcnow, "INITIATED"⟩ }
  | .request (.updateEdmBackup backupId data), t =>
    match World.oneRow t.backups backupId with
    | .ok row => { t with
        backups := t.backups.put backupId { row with title := data.title, status := "UPDATED" } }
    | .error _ => t
  | .request (.deleteEdmBackup backupId), t =>
    match World.oneRow t.backups backupId with
    | .ok _ => { t with backups := t.backups.remove backupId }
    | .error _ => t
  | .request (.createRestore data), t =>
    match t.world.requestedKey ω data with
    | .ok key => { t with restores := t.restores.put key ⟨data.title, data.backupId⟩ }
    | .error _ => t
  | .request (.updateRestore restoreId data), t =>
    match World.oneRow t.restores restoreId with
    | .ok row => { t with restores := t.restores.put restoreId { row with title := data.title } }
    | .error _ => t
  | .request (.deleteRestore restoreId), t =>
    match World.oneRow t.restores restoreId with
    | .ok _ => { t with restores := t.restores.remove restoreId }
    | .error _ => t
  | _, t => t

section Effect

variable {ω : Outcomes} {w w' : World D}

theorem SameCatalogue.tables (h : SameCatalogue w w') : w'.tables = w.tables := by
  unfold World.tables
  rw [h.backups, h.restores]

theorem requestedKey_world (data : RestoreBody) :
    w.tables.world.requestedKey ω data = w.requestedKey ω data := rfl

/-- A job that runs to its end has its effect on the tables. -/
theorem tables_runJob (ω : Outcomes) (job : Job D) (w : World D) :
    (w.runJob ω job).2.tables = job.effect ω w.tables := by
  cases job with
  | request q =>
    show (w.serveRequest ω q).2.tables = _
    cases q with
    | createEdmBackup data =>
      rw [World.serveRequest, answered_snd, run_createEdmBackup]
      exact (sameCatalogue_backupStages _ _).tables
    | updateEdmBackup backupId data =>
      rw [World.serveRequest, answered_snd, run_updateEdmBackup, Job.effect, World.tables_backups]
      cases World.oneRow w.backups backupId <;> rfl
    | deleteEdmBackup backupId =>
      rw [World.serveRequest, answered_snd, run_deleteEdmBackup, Job.effect, World.tables_backups]
      cases World.oneRow w.backups backupId <;> rfl
    | createRestore data =>
      rw [World.serveRequest, answered_snd, run_createRestore, Job.effect, requestedKey_world]
      cases w.requestedKey ω data with
      | error e => rfl
      | ok key => exact (sameCatalogue_restoreStages _ _).tables
    | updateRestore restoreId data =>
      rw [World.serveRequest, answered_snd, run_updateRestore, Job.effect, World.tables_restores]
      cases World.oneRow w.restores restoreId <;> rfl
    | deleteRestore restoreId =>
      rw [World.serveRequest, answered_snd, run_deleteRestore, Job.effect, World.tables_restores]
      cases World.oneRow w.restores restoreId <;> rfl
    | changeStores stores => rfl
  | script script =>
    cases script with
    | backup =>
      show (doBackup.run (World.answer ω) w).2.tables = w.tables
      rw [run_doBackup]
      exact (sameCatalogue_backupStages _ _).tables
    | restore => exact (sameCatalogue_restoreStages _ _).tables
  | esutils mode => exact (sameCatalogue_esutilsMain mode).tables

end Effect

/-! ## Rows that overlapping jobs write -/

/-- A row of one of the tables. -/
inductive RowKey where
  | backup (id : Int)
  | restore (id : Int)

def Job.updates : Job D → Option RowKey
  | .request (.updateEdmBackup backupId _) => some (.backup backupId)
  | .request (.updateRestore restoreId _) => some (.restore restoreId)
  | _ => none

def Job.deletes : Job D → Option RowKey
  | .request (.deleteEdmBackup backupId) => some (.backup backupId)
  | .request (.deleteRestore restoreId) => some (.restore restoreId)
  | _ => none

/-- The row is as it was, if it was there. -/
def Tables.KeepsRow (t t' : Tables) : RowKey → Prop
  | .backup id => ∀ row, t.backups.find? id = some row → t'.backups.find? id = some row
  | .restore id => ∀ row, t.restores.find? id = some row → t'.restores.find? id = some row

theorem Tables.KeepsRow.refl (t : Tables) (key : RowKey) : t.KeepsRow t key := by
  cases key <;> exact fun _ => id

theorem Tables.KeepsRow.trans {t t' t'' : Tables} {key : RowKey} (h : t.KeepsRow t' key)
    (h' : t'.KeepsRow t'' key) : t.KeepsRow t'' key := by
  cases key <;> exact fun row hrow => h' row (h row hrow)

section KeepsRow

variable {ρ : Type} {t : Table ρ} {id k : Int} {row r : ρ}

theorem find?_put_of_ne (hne : k ≠ id) (h : t.find? k = some r) :
    (t.put id row).find? k = some r := by
  rw [Table.find?_put, if_neg hne, h]

theorem find?_put_of_free (hfree : t.find? id = none) (h : t.find? k = some r) :
    (t.put id row).find? k = some r := by
  refine find?_put_of_ne ?_ h
  rintro rfl
  rw [hfree] at h
  cases h

theorem find?_remove_of_ne (hne : k ≠ id) (h : t.find? k = some r) :
    (t.remove id).find? k = some r := by
  rw [Table.find?_remove, if_neg hne, h]

end KeepsRow

theorem Tables.keepsRow_backups {t : Tables} {key : RowKey} {backups : Table Backup}
    (h : ∀ k r, key = .backup k → t.backups.find? k = some r → backups.find? k = some r) :
    t.KeepsRow { t with backups } key := by
  cases key with
  | backup k => exact fun r => h k r rfl
  | restore k => exact fun _ => id

theorem Tables.keepsRow_restores {t : Tables} {key : RowKey} {restores : Table Restore}
    (h : ∀ k r, key = .restore k → t.restores.find? k = some r → restores.find? k = some r) :
    t.KeepsRow { t with restores } key := by
  cases key with
  | backup k => exact fun _ => id
  | restore k => exact fun r => h k r rfl

/-- A job leaves the rows alone that it neither updates nor deletes. -/
theorem keepsRow_effect {ω : Outcomes} {job : Job D} {key : RowKey} (t : Tables)
    (hupdates : key ∉ job.updates) (hdeletes : key ∉ job.deletes) :
    t.KeepsRow (job.effect ω t) key := by
  cases job with
  | request q =>
    cases q with
    | createEdmBackup data =>
      exact Tables.keepsRow_backups fun _ _ _ => find?_put_of_free t.backups.find?_nextId
    | updateEdmBackup backupId data =>
      rw [Job.effect]
      split
      · refine Tables.keepsRow_backups fun k r hk => find?_put_of_ne ?_
        rintro rfl
        exact hupdates (congrArg some hk.symm)
      · exact .refl t key
    | deleteEdmBackup backupId =>
      rw [Job.effect]
      split
      · refine Tables.keepsRow_backups fun k r hk => find?_remove_of_ne ?_
        rintro rfl
        exact hdeletes (congrArg some hk.symm)
      · exact .refl t key
    | createRestore data =>
      rw [Job.effect]
      split
      · next requested hkey =>
        have hfree := (World.restoreKey_eq_ok hkey).2
        exact Tables.keepsRow_restores fun _ _ _ => find?_put_of_free hfree
      · exact .refl t key
    | updateRestore restoreId data =>
      rw [Job.effect]
      split
      · refine Tables.keepsRow_restores fun k r hk => find?_put_of_ne ?_
        rintro rfl
        exact hupdates (congrArg some hk.symm)
      · exact .refl t key
    | deleteRestore restoreId =>
      rw [Job.effect]
      split
      · refine Tables.keepsRow_restores fun k r hk => find?_remove_of_ne ?_
        rintro rfl
        exact hdeletes (congrArg some hk.symm)
      · exact .refl t key
    | changeStores stores => exact .refl t key
  | script script => exact .refl t key
  | esutils mode => exact .refl t key

/-- What a job relies on: nobody else writes the row it updates. -/
def Job.Relies (job : Job D) (t t' : Tables) : Prop := ∀ key ∈ job.updates, t.KeepsRow t' key

/-! ## Each job takes effect at once -/

section Rows

variable {ρ : Type} {t t' : Table ρ} {id : Int} {row : ρ}

/-- A row that is kept is found again. -/
theorem oneRow_of_keeps (h : ∀ r, t.find? id = some r → t'.find? id = some r)
    (hrow : World.oneRow t id = .ok row) : World.oneRow t' id = .ok row := by
  obtain ⟨hfits, hfind⟩ := World.oneRow_eq_ok_iff.1 hrow
  exact World.oneRow_eq_ok_iff.2 ⟨hfits, h row hfind⟩

theorem remove_of_free (h : t.find? id = none) : t.remove id = t := by
  have hnotMem := (t.not_mem_ids_iff id).2 h
  obtain ⟨rows, sorted⟩ := t
  simp only [Table.remove, Table.mk.injEq, List.filter_eq_self, decide_eq_true_eq]
  rintro x hx rfl
  exact hnotMem (List.mem_map_of_mem hx)

/-- A row that was there is not there any more. -/
theorem remove_of_oneRow_error {e : PyExc} (hfits : storable id = true)
    (h : World.oneRow t id = .error e) : t.remove id = t := by
  refine remove_of_free (Option.eq_none_iff_forall_ne_some.2 ?_)
  intro row hrow
  rw [World.oneRow_eq_ok_iff.2 ⟨hfits, hrow⟩] at h
  cases h

end Rows

section Programs

variable {ω : Outcomes} {w : World D} {job : Job D}

/-- Without calls of the database there is nothing to see in the tables. -/
theorem silent_of_calls {α : Type} {p : Py α} (h : p.Calls fun c => ∀ d, c ≠ .db d) :
    p.Silent World.tables (World.answer (D := D) ω) :=
  .of_calls (fun _ _ hc => (sameCatalogue_answer hc).tables) h

theorem silent_backupStages (cnf : String) (backupId : Int) :
    (backupStages cnf backupId).Silent World.tables (World.answer (D := D) ω) :=
  silent_of_calls (calls_backupStages (fun _ _ => nofun) (fun _ _ => nofun) (fun _ => nofun) _ _)

theorem silent_restoreStages (cnf : String) (backupId : Int) :
    (restoreStages cnf backupId).Silent World.tables (World.answer (D := D) ω) :=
  silent_of_calls (calls_restoreStages (fun _ _ => nofun) (fun _ _ => nofun) (fun _ => nofun) _ _)

/-- A program that writes no row may be taken to have its effect at the start. -/
theorem linearizes_withConfig {α : Type} {Rely : Tables → Tables → Prop} {f : Config → Py α}
    (h : (readConfig >>= f).Calls fun c => ∀ d, c ≠ .db d) :
    (readConfig >>= f).Linearizes Rely World.tables id (World.answer ω) w :=
  .perform_bind (fun _ _ => rfl) fun config => silent_of_calls (h.2 (.ok config))

/-- A backup takes effect with the insert of its row. -/
theorem linearizes_createEdmBackup (data : TitleBody) :
    (createEdmBackup data).Linearizes (Job.Relies (D := D) (.request (.createEdmBackup data)))
      World.tables (Job.effect (D := D) ω (.request (.createEdmBackup data))) (World.answer ω) w :=
  .perform_bind (fun _ _ => rfl) fun _ => (silent_backupStages _ _).bind fun _ => trivial

/-- So does a restore. -/
theorem linearizes_createRestore (data : RestoreBody) :
    (createRestore data).Linearizes (Job.Relies (D := D) (.request (.createRestore data)))
      World.tables (Job.effect (D := D) ω (.request (.createRestore data))) (World.answer ω) w := by
  refine .perform_bind ?_ fun _ => silent_restoreStages _ _
  intro s₁ _
  rw [Job.effect, requestedKey_world]
  simp only [World.answer, World.answerDb, World.requestedKey]
  cases s₁.restoreKey ω data.backupId (if data.id.truthy then data.id else .absent) <;> rfl

section ReadThenCommit

variable {look : DbCall} {f : look.Reply → Py Unit} {id : Int} (commit : look.Reply → DbCall)
  (table : Tables → Table look.Reply) (withTable : Tables → Table look.Reply → Tables)

variable (ω job) in
/-- The program makes one call, and takes effect with it if the call has it. -/
def TakesEffectBy (p : Py Unit) (c : DbCall) : Prop := ∀ s : World D,
  (∀ s₂ : World D, job.Relies s.tables s₂.tables →
    (s₂.answerDb ω c).2.tables = job.effect ω s₂.tables) →
  p.Linearizes job.Relies World.tables (job.effect ω) (World.answer ω) s

/-- A program that looks a row up and goes on with it takes effect at its commit,
or by finding no row. -/
theorem linearizes_ofRow
    (hlook : ∀ s : World D, s.answerDb ω look = (World.oneRow (table s.tables) id, s))
    (hf : ∀ row, TakesEffectBy ω job (f row) (commit row))
    (hcommit : ∀ s s₂ : World D, ∀ row, World.oneRow (table s.tables) id = .ok row →
      job.Relies s.tables s₂.tables →
        (s₂.answerDb ω (commit row)).2.tables = job.effect ω s₂.tables)
    (habsent : ∀ t e, World.oneRow (table t) id = .error e → job.effect ω t = t) :
    (dbCall look >>= f).Linearizes job.Relies World.tables (job.effect ω) (World.answer ω) w := by
  have hanswer (s : World D) :
      World.answer ω (.db look) s = (World.oneRow (table s.tables) id, s) := hlook s
  refine .read_bind (fun s => by rw [hanswer]) ?_ ?_
  · intro s row hrow
    rw [hanswer] at hrow ⊢
    exact hf row s fun s₂ hs₂ => hcommit s s₂ row hrow hs₂
  · intro s e herror
    rw [hanswer] at herror
    exact habsent s.tables e herror

/-- An update goes on with the row it has read, which is still there. -/
theorem linearizes_update [DecidableEq look.Reply] (change : look.Reply → look.Reply)
    {write : look.Reply → look.Reply → look.Reply}
    (hlook : ∀ s : World D, s.answerDb ω look = (World.oneRow (table s.tables) id, s))
    (hf : ∀ row, TakesEffectBy ω job (f row) (commit row))
    (hcommit : ∀ (s : World D) row, (s.answerDb ω (commit row)).2.tables = withTable s.tables
      (World.flushRow (table s.tables) id row (change row) (write row)).2)
    (hwrite : ∀ row, write row row = change row)
    (heffect : ∀ t, job.effect ω t = match World.oneRow (table t) id with
      | .ok row => withTable t ((table t).put id (change row))
      | .error _ => t)
    (hrelies : ∀ t t', job.Relies t t' →
      ∀ row, (table t).find? id = some row → (table t').find? id = some row) :
    (dbCall look >>= f).Linearizes job.Relies World.tables (job.effect ω) (World.answer ω) w := by
  refine linearizes_ofRow commit table hlook hf ?_ fun t e he => by rw [heffect, he]
  intro s s₂ row hrow hs₂
  have hrow₂ := oneRow_of_keeps (hrelies _ _ hs₂) hrow
  rw [hcommit, heffect, hrow₂,
    World.flushRow_of_loaded (World.oneRow_eq_ok_iff.1 hrow₂).2 (hwrite row)]

/-- A delete may find at its commit that another one was faster. -/
theorem linearizes_delete
    (hlook : ∀ s : World D, s.answerDb ω look = (World.oneRow (table s.tables) id, s))
    (hf : ∀ row, TakesEffectBy ω job (f row) (commit row))
    (hcommit : ∀ (s : World D) row,
      (s.answerDb ω (commit row)).2.tables = withTable s.tables ((table s.tables).remove id))
    (hsame : ∀ t, withTable t (table t) = t)
    (heffect : ∀ t, job.effect ω t = match World.oneRow (table t) id with
      | .ok _ => withTable t ((table t).remove id)
      | .error _ => t) :
    (dbCall look >>= f).Linearizes job.Relies World.tables (job.effect ω) (World.answer ω) w := by
  refine linearizes_ofRow commit table hlook hf ?_ fun t e he => by rw [heffect, he]
  intro s s₂ row hrow _
  rw [hcommit, heffect]
  cases hrow₂ : World.oneRow (table s₂.tables) id with
  | ok row₂ => rfl
  | error e =>
    rw [remove_of_oneRow_error (World.oneRow_eq_ok_iff.1 hrow).1 hrow₂]
    exact hsame s₂.tables

end ReadThenCommit

theorem linearizes_updateEdmBackup (backupId : Int) (data : TitleBody) :
    (updateEdmBackup backupId data).Linearizes
      (Job.Relies (D := D) (.request (.updateEdmBackup backupId data))) World.tables
      (Job.effect (D := D) ω (.request (.updateEdmBackup backupId data))) (World.answer ω) w := by
  let change (row : Backup) : Backup := { row with title := data.title, status := "UPDATED" }
  refine linearizes_update (fun row => .commitBackup backupId row (change row)) Tables.backups
    (fun t backups => { t with backups }) change (fun _ => rfl) (fun _ _ h => .perform h)
    (fun _ _ => rfl) (fun row => World.flushedBackup_self row _) ?_ fun _ _ h => h _ rfl
  intro t
  rw [Job.effect]
  cases World.oneRow t.backups backupId <;> rfl

theorem linearizes_updateRestore (restoreId : Int) (data : TitleBody) :
    (updateRestore restoreId data).Linearizes
      (Job.Relies (D := D) (.request (.updateRestore restoreId data))) World.tables
      (Job.effect (D := D) ω (.request (.updateRestore restoreId data))) (World.answer ω) w := by
  let change (row : Restore) : Restore := { row with title := data.title }
  refine linearizes_update (fun row => .commitRestore restoreId row (change row)) Tables.restores
    (fun t restores => { t with restores }) change (fun _ => rfl) (fun _ _ h => .perform h)
    (fun _ _ => rfl) (fun row => World.flushedRestore_self row _) ?_ fun _ _ h => h _ rfl
  intro t
  rw [Job.effect]
  cases World.oneRow t.restores restoreId <;> rfl

theorem linearizes_deleteEdmBackup (backupId : Int) :
    (deleteEdmBackup backupId).Linearizes
      (Job.Relies (D := D) (.request (.deleteEdmBackup backupId))) World.tables
      (Job.effect (D := D) ω (.request (.deleteEdmBackup backupId))) (World.answer ω) w := by
  refine linearizes_delete (fun _ => .deleteBackup backupId) Tables.backups
    (fun t backups => { t with backups }) (fun _ => rfl) (fun _ _ h => .perform h) (fun _ _ => rfl)
    (fun _ => rfl) ?_
  intro t
  rw [Job.effect]
  cases World.oneRow t.backups backupId <;> rfl

theorem linearizes_deleteRestore (restoreId : Int) :
    (deleteRestore restoreId).Linearizes
      (Job.Relies (D := D) (.request (.deleteRestore restoreId))) World.tables
      (Job.effect (D := D) ω (.request (.deleteRestore restoreId))) (World.answer ω) w := by
  refine linearizes_delete (fun _ => .deleteRestore restoreId) Tables.restores
    (fun t restores => { t with restores }) (fun _ => rfl) (fun _ _ h => .perform h)
    (fun _ _ => rfl) (fun _ => rfl) ?_
  intro t
  rw [Job.effect]
  cases World.oneRow t.restores restoreId <;> rfl

theorem linearizes_backupStages {Rely : Tables → Tables → Prop} (cnf : String) (b : Int) :
    (backupStages cnf b).Linearizes Rely World.tables id (World.answer ω) w :=
  linearizes_withConfig
    (calls_backupStages (fun _ _ => nofun) (fun _ _ => nofun) (fun _ => nofun) _ _)

/-- Every job of the system takes effect at once. -/
theorem linearizes_prog (job : Job D) (hjob : ∀ stores, job ≠ .request (.changeStores stores)) :
    job.prog.Linearizes job.Relies World.tables (job.effect ω) (World.answer ω) w := by
  cases job with
  | script script =>
    cases script with
    | backup =>
      have hdoBackup : doBackup.Linearizes (Job.Relies (D := D) (.script .backup)) World.tables id
          (World.answer ω) w := (linearizes_backupStages _ 3).bind fun _ => trivial
      exact hdoBackup.bind fun _ => trivial
    | restore =>
      exact linearizes_withConfig
        (calls_restoreStages (fun _ _ => nofun) (fun _ _ => nofun) (fun _ => nofun) _ _)
  | esutils mode => exact linearizes_withConfig (calls_esutilsMain mode)
  | request q =>
    cases q with
    | createEdmBackup data => exact (linearizes_createEdmBackup data).bind fun _ => trivial
    | updateEdmBackup backupId data => exact linearizes_updateEdmBackup backupId data
    | deleteEdmBackup backupId => exact linearizes_deleteEdmBackup backupId
    | createRestore data => exact linearizes_createRestore data
    | updateRestore restoreId data => exact linearizes_updateRestore restoreId data
    | deleteRestore restoreId => exact linearizes_deleteRestore restoreId
    | changeStores stores => exact absurd rfl (hjob stores)

end Programs

/-! ## Any interleaving -/

section Order

variable {ι : Type} (jobs : ι → Job D) (ω : ι → Outcomes)

/-- Run the jobs of a list to their ends, one after the other. -/
def oneByOne (order : List ι) (w : World D) : World D :=
  order.foldl (fun w i => (w.runJob (ω i) (jobs i)).2) w

/-- The tables after one job after the other are those of their effects. -/
theorem tables_oneByOne (order : List ι) (w : World D) :
    (oneByOne jobs ω order w).tables =
      order.foldl (fun t i => (jobs i).effect (ω i) t) w.tables := by
  induction order generalizing w with
  | nil => rfl
  | cons i order ih =>
    rw [List.foldl_cons, ← tables_runJob]
    exact ih _

/-- **Overlapping jobs leave the tables as one after the other.** If no row that
one of them updates is written by another, there is an order, with a place for
each job at one of its own calls and for every job that has ended, in which the
jobs run one by one leave the same tables. Only the two tables are compared. -/
theorem tables_linearize [DecidableEq ι] (w w' : World D) (tr : List (RunEvent ι D))
    (ps' : ι → Py Unit) (h : Concurrent jobs ω w tr ps' w')
    (hrows : ∀ i j, i ≠ j → ∀ key ∈ (jobs i).updates,
      key ∉ (jobs j).updates ∧ key ∉ (jobs j).deletes) :
    ∃ order : List ι, order.Nodup ∧ order.Sublist (tr.map (·.who)) ∧
      (∀ i, (∀ stores, jobs i ≠ .request (.changeStores stores)) → (ps' i).Finished →
        i ∈ order) ∧
      w'.tables = (oneByOne jobs ω order w).tables := by
  have hothers : ∀ i j, i ≠ j → ∀ t, (jobs i).Relies t ((jobs j).effect (ω j) t) := by
    intro i j hij t key hkey
    obtain ⟨hupdates, hdeletes⟩ := hrows i j hij key hkey
    exact keepsRow_effect t hupdates hdeletes
  have hps : ∀ i, (jobs i).prog.Finished ∨ (jobs i).prog.Linearizes (jobs i).Relies World.tables
      ((jobs i).effect (ω i)) (World.answer (ω i)) w := by
    intro i
    by_cases hchange : ∃ stores, jobs i = .request (.changeStores stores)
    · obtain ⟨stores, hstores⟩ := hchange
      rw [hstores]
      exact .inl trivial
    · exact .inr (linearizes_prog _ fun stores hstores => hchange ⟨stores, hstores⟩)
  obtain ⟨order, hnodup, hsub, hin, htables⟩ := Interleaved.linearizes
    (fun i => (jobs i).Relies) World.tables (fun i => (jobs i).effect (ω i))
    (fun i t key _ => .refl t key) (fun i _ _ _ h h' key hkey => (h key hkey).trans (h' key hkey))
    hothers h hps
  refine ⟨order, hnodup, hsub, ?_, htables.trans (tables_oneByOne jobs ω order w).symm⟩
  intro i hjob
  exact hin i (linearizes_prog (ω := ω i) (w := w) (jobs i) hjob).not_finished

section Samples

/-- A backup, and an update of an older one. -/
def renameAmid : Side → Job Nat
  | .left => .request (.createEdmBackup ⟨some "weekly"⟩)
  | .right => .request (.updateEdmBackup 1 ⟨some "renamed"⟩)

/-- The row of the new backup is added between the read and the commit of the update. -/
def renameAmidRun : List (RunEvent Side Nat) × (Side → Py Unit) × World Nat :=
  interleave (fun _ => World.answer .smoothNewYear)
    (.right :: .left :: .right :: .replicate 11 .left) (fun i => (renameAmid i).prog)
    afterFirst

theorem tables_linearize_renameAmid :
    ∃ order : List Side, (∀ i, i ∈ order) ∧ renameAmidRun.2.2.tables =
      (oneByOne renameAmid (fun _ => .smoothNewYear) order afterFirst).tables := by
  have hrows : ∀ i j, i ≠ j → ∀ key ∈ (renameAmid i).updates,
      key ∉ (renameAmid j).updates ∧ key ∉ (renameAmid j).deletes := by
    intro i j hij key hkey
    cases i with
    | left => cases hkey
    | right =>
      cases j with
      | left => exact ⟨nofun, nofun⟩
      | right => exact absurd rfl hij
  obtain ⟨order, -, -, hin, htables⟩ := tables_linearize renameAmid _ _ _ _ _
    (interleaved_interleave (fun _ => World.answer .smoothNewYear) _ _ _) hrows
  refine ⟨order, ?_, htables⟩
  intro i
  cases i with
  | left => exact hin .left nofun trivial
  | right => exact hin .right nofun trivial

end Samples

end Order

end Edm
