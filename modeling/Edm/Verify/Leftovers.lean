import Edm.Service.Scripts
import Edm.Verify.Capture

/-!
# What earlier backups leave in a backup

All runs of `backup.py` write the artifacts of one id. The snapshot and the dump
are replaced, the HDFS copy is written over the copy that is there, so a file
that was deleted from `/hdfs` stays in it. `onlyCurrent_iff` says for which runs
a backup holds only what existed when it was taken.
-/

namespace Edm

open Effects Data

variable {D : Type}

/-! ## What a restore adds -/

/-- From `w` to `w'` the stores gain only what the artifacts of `b` hold. -/
structure AddsOnly (b : Int) (w w' : World D) : Prop where
  config : w'.config = w.config
  artifacts : w'.artifacts b = w.artifacts b
  indices : ∀ i, (w'.cluster.indices.get? i).isSome = true →
    (w.cluster.indices.get? i).isSome = true ∨ ∃ name snapshot,
      w.config.snapshotName b = .ok name ∧ (w.artifacts b).snapshots name = some snapshot ∧
        (snapshot.get? i).isSome = true
  hdfs : ∀ path, (w'.hdfs path).isSome = true → (w.hdfs path).isSome = true ∨
    ∃ rel, path = joinPath "/hdfs" rel ∧ ((w.artifacts b).hdfs rel).isSome = true
  mysql : ∀ t, (w'.mysql t).isSome = true → (w.mysql t).isSome = true ∨
    ∃ d, (w.artifacts b).dump = some (.dump d) ∧ (d.tables t).isSome = true

section AddsOnly

variable {b : Int} {ω : Outcomes} {w w' w₁ w₂ w₃ : World D}

theorem AddsOnly.refl (w : World D) : AddsOnly b w w :=
  ⟨rfl, rfl, fun _ => .inl, fun _ => .inl, fun _ => .inl⟩

theorem AddsOnly.trans (h : AddsOnly b w₁ w₂) (h' : AddsOnly b w₂ w₃) : AddsOnly b w₁ w₃ where
  config := h'.config.trans h.config
  artifacts := h'.artifacts.trans h.artifacts
  indices i hi := by
    rcases h'.indices i hi with hi | hnew
    · exact h.indices i hi
    · rw [h.artifacts, h.config] at hnew
      exact .inr hnew
  hdfs path hpath := by
    rcases h'.hdfs path hpath with hpath | hnew
    · exact h.hdfs path hpath
    · rw [h.artifacts] at hnew
      exact .inr hnew
  mysql t ht := by
    rcases h'.mysql t ht with ht | hnew
    · exact h.mysql t ht
    · rw [h.artifacts] at hnew
      exact .inr hnew

theorem addsOnly_copiedIn (reached : String → Bool) :
    AddsOnly b w (w.copiedIn (hdfsDir b) "/hdfs" reached) :=
  ⟨rfl, rfl, fun _ => .inl, fun _ => isSome_copyTree, fun _ => .inl⟩

theorem addsOnly_runCopyFromLocal (e : Ending) :
    AddsOnly b w (w.runCopyFromLocal (hdfsDir b) "/hdfs" e).2 := by
  unfold World.runCopyFromLocal
  split
  · exact .refl w
  · split
    · exact addsOnly_copiedIn _
    · exact .refl w

theorem addsOnly_sourced {d : Dump D} (h : w.files (dumpfilepath b) = some (.dump d))
    (reached : String → Bool) : AddsOnly b w (w.sourced d reached) := by
  refine ⟨rfl, rfl, fun _ => .inl, fun _ => .inl, fun t ht => ?_⟩
  unfold World.sourced at ht
  dsimp only at ht
  split at ht
  · rw [Option.isSome_or, Bool.or_eq_true] at ht
    exact ht.symm.imp_right fun hd => ⟨d, h, hd⟩
  · exact .inl ht

theorem addsOnly_runMysqlSource (e : Ending) :
    AddsOnly b w (w.runMysqlSource (dumpfilepath b) e).2 := by
  unfold World.runMysqlSource
  split
  · exact .refl w
  · split
    · next hd => exact addsOnly_sourced hd _
    · exact .refl w

theorem isSome_get?_setOpenIf {c : Cluster D} {refusal : Option EsError} {isOpen : Bool}
    {i : String} :
    ((c.setOpenIf refusal isOpen).indices.get? i).isSome = (c.indices.get? i).isSome := by
  unfold Cluster.setOpenIf
  split
  · rw [Cluster.get?_setOpen, Option.isSome_map]
  · rfl

theorem addsOnly_setCluster {cluster : Cluster D}
    (hsnapshots : cluster.snapshots = w.cluster.snapshots)
    (h : ∀ i, (cluster.indices.get? i).isSome = true →
      (w.cluster.indices.get? i).isSome = true ∨ ∃ name snapshot,
        w.config.snapshotName b = .ok name ∧ (w.artifacts b).snapshots name = some snapshot ∧
          (snapshot.get? i).isSome = true) :
    AddsOnly b w (w.setCluster cluster) :=
  ⟨rfl, artifacts_setCluster (by rw [hsnapshots]), h, fun _ => .inl, fun _ => .inl⟩

theorem addsOnly_restoreIndices :
    AddsOnly b w ((restoreIndicesFromFsToDest w.config b).run (World.answer ω) w).2 := by
  have hsame (repository : String) (i : String)
      (hi : ((atRestore b ω w repository).indices.get? i).isSome = true) :
      (w.cluster.indices.get? i).isSome = true := by
    unfold atRestore at hi
    rw [isSome_get?_setOpenIf] at hi
    exact hi
  obtain ⟨cluster, hrun, hsnapshots⟩ := exists_cluster_restore w.config b ω w
  have hend := restore_end w.config b ω w
  generalize ((restoreIndicesFromFsToDest w.config b).run (World.answer ω) w).1 = r at hend
  rw [hrun] at hend ⊢
  apply addsOnly_setCluster hsnapshots
  intro i hi
  generalize hw : w.setCluster cluster = w' at hend
  have hi : (w'.cluster.indices.get? i).isSome = true := by
    rw [← hw]
    exact hi
  clear hw
  cases hend with
  | noSettings hset => exact .inl hi
  | unreached hset hreach hregistered => rcases hregistered with rfl | rfl <;> exact .inl hi
  | unrestored hset hreach hno => exact .inl (hsame _ i hi)
  | @restored repository seeds snapshot hset hreach haccepts =>
    rw [World.setCluster_cluster, afterRestore, isSome_get?_setOpenIf, Cluster.get?_restored,
      Option.isSome_or, Bool.or_eq_true, Option.isSome_map] at hi
    obtain ⟨name, hname, hstored⟩ := haccepts.stored
    exact hi.symm.imp (hsame _ i) fun h => ⟨name, snapshot, hname, hstored, h⟩

/-- **A restore adds only what the artifacts of its id hold**, however it ends. -/
theorem addsOnly_restoreStages (cnf : String) :
    AddsOnly b w ((restoreStages cnf b).run (World.answer ω) w).2 := by
  have hindices := addsOnly_restoreIndices (b := b) (ω := ω) (w := w)
  have hend := restoreStages_end b ω w cnf
  generalize ((restoreStages cnf b).run (World.answer ω) w).1 = r at hend
  generalize ((restoreStages cnf b).run (World.answer ω) w).2 = w' at hend ⊢
  cases hend with
  | unrestored h =>
    rw [h] at hindices
    exact hindices
  | uncopied h hcopy =>
    rw [h] at hindices
    exact hindices.trans (addsOnly_runCopyFromLocal _)
  | @copied w₁ w₂ h hcopy =>
    rw [h] at hindices
    have hcopied := addsOnly_runCopyFromLocal (b := b) (w := w₁) ω.copyFromLocal
    rw [hcopy] at hcopied
    exact hindices.trans (hcopied.trans (addsOnly_runMysqlSource _))

end AddsOnly

/-! ## The scripts -/

section Scripts

variable (ω : Outcomes) (w : World D)

theorem run_doBackup :
    doBackup.run (World.answer ω) w =
      (((backupStages "/scripts/mysqlbackup.cnf" 3).run (World.answer ω) w).1.map fun _ => 3,
        ((backupStages "/scripts/mysqlbackup.cnf" 3).run (World.answer ω) w).2) := by
  unfold doBackup
  rw [Prog.run_bind]
  rcases (backupStages "/scripts/mysqlbackup.cnf" 3).run (World.answer ω) w with ⟨_ | _, _⟩ <;> rfl

theorem run_doRestore :
    doRestore.run (World.answer ω) w =
      (restoreStages "/scripts/mysqlbackup.cnf" 3).run (World.answer ω) w := rfl

/-- Only a backup touches the artifacts. -/
theorem artifacts_serveScript {e : ScriptEvent D} (h : e ≠ .run .backup) :
    (World.serveScript (ω, e) w).2.artifacts 3 = w.artifacts 3 := by
  match e with
  | .run .backup => exact absurd rfl h
  | .run .restore => exact artifacts_restoreStages 3 3 _
  | .changeStores stores => rfl

end Scripts

/-- Every step of the backup succeeds, if the event is one. -/
def ScriptSucceeds (st : ServedScript D) : Prop :=
  st.request.2 = .run .backup → Succeeds 3 st.request.1 st.before

/-- The artifacts of `b` are a capture and no more. -/
structure Artifacts.Exact (config : Config) (b : Int) (c : Capture D) (a : Artifacts D) : Prop where
  snapshot : ∃ name, config.snapshotName b = .ok name ∧ a.snapshots name = some c.indices
  hdfs : a.hdfs = c.hdfs
  dump : a.dump = some (.dump ⟨c.mysql, true⟩)

/-- What is in `after` was in one of the two stores. -/
structure BringsBackOnly (saved before after : Stores D) : Prop where
  indices : ∀ i, (after.indices.get? i).isSome = true →
    (before.indices.get? i).isSome = true ∨ (saved.indices.get? i).isSome = true
  hdfs : ∀ path, (after.hdfs path).isSome = true →
    (before.hdfs path).isSome = true ∨ (saved.hdfs path).isSome = true
  mysql : ∀ t, (after.mysql t).isSome = true →
    (before.mysql t).isSome = true ∨ (saved.mysql t).isSome = true

/-- A backup leaves nothing but the stores it found, and a restore that follows
brings back nothing else, whatever the stores hold by then. -/
structure OnlyCurrent (st : ServedScript D) : Prop where
  leaves : (st.after.artifacts 3).Exact st.before.config 3 st.before.capture
  restores : ∀ (ω : Outcomes) (stores : Stores D), BringsBackOnly st.before.stores stores
    (doRestore.run (World.answer ω) (st.after.withStores stores)).2.stores

/-- A file was in the copy at the start, or under `/hdfs` in an earlier backup. -/
def CopiedEarlier (w : World D) (earlier : List (ServedScript D)) (rel : String) : Prop :=
  ((w.artifacts 3).hdfs rel).isSome = true ∨
    ∃ st ∈ earlier, st.request.2 = .run .backup ∧ (st.before.capture.hdfs rel).isSome = true

section Steps

variable {w : World D} {qs : List (Outcomes × ScriptEvent D)} {st : ServedScript D}

theorem renewed_step (hst : st ∈ history World.serveScript qs w)
    (hbackup : st.request.2 = .run .backup) (hsucc : ScriptSucceeds st) :
    (st.after.artifacts 3).Renewed st.before 3 := by
  have hafter := after_of_mem_history hst
  unfold World.serveScript at hafter
  rw [hbackup] at hafter
  rw [hafter]
  show Artifacts.Renewed st.before 3
    ((doBackup.run (World.answer st.request.1) st.before).2.artifacts 3)
  rw [run_doBackup]
  exact ((hsucc hbackup).renewed _).2

/-- A backup adds the files under `/hdfs` to the copy. -/
theorem isSome_copy_step (hst : st ∈ history World.serveScript qs w) (hsucc : ScriptSucceeds st)
    (rel : String) :
    ((st.after.artifacts 3).hdfs rel).isSome = true ↔
      ((st.before.artifacts 3).hdfs rel).isSome = true ∨
        st.request.2 = .run .backup ∧ (st.before.capture.hdfs rel).isSome = true := by
  by_cases hbackup : st.request.2 = .run .backup
  · rw [(renewed_step hst hbackup hsucc).hdfs, Option.isSome_or, Bool.or_eq_true]
    simp only [hbackup, true_and]
    exact or_comm
  · rw [after_of_mem_history hst, artifacts_serveScript st.request.1 st.before hbackup]
    simp only [hbackup, false_and, or_false]

/-- The copy holds every file that was ever copied to it. -/
theorem isSome_copy_iff {earlier rest : List (ServedScript D)}
    (hsteps : history World.serveScript qs w = earlier ++ st :: rest)
    (hsucc : ∀ st' ∈ history World.serveScript qs w, ScriptSucceeds st') (rel : String) :
    ((st.before.artifacts 3).hdfs rel).isSome = true ↔ CopiedEarlier w earlier rel := by
  induction earlier generalizing qs w with
  | nil =>
    cases qs with
    | nil => cases hsteps
    | cons q qs =>
      obtain ⟨rfl, -⟩ := List.cons.inj hsteps
      simp [CopiedEarlier]
  | cons first earlier ih =>
    cases qs with
    | nil => cases hsteps
    | cons q qs =>
      obtain ⟨rfl, hrest⟩ := List.cons.inj hsteps
      have hfirst : ⟨w, q, (World.serveScript q w).1, (World.serveScript q w).2⟩ ∈
          history World.serveScript (q :: qs) w := List.mem_cons_self
      have hstep := isSome_copy_step hfirst (hsucc _ hfirst) rel
      rw [ih hrest fun st' hst' => hsucc st' (List.mem_cons_of_mem _ hst')]
      unfold CopiedEarlier
      rw [hstep]
      simp only [List.mem_cons, exists_eq_or_imp, or_assoc]

/-- The copy is exact if every file it held is still there. -/
theorem Artifacts.Renewed.exact_iff {a : Artifacts D} (h : a.Renewed w 3) :
    a.Exact w.config 3 w.capture ↔ ∀ rel, ((w.artifacts 3).hdfs rel).isSome = true →
      (w.capture.hdfs rel).isSome = true := by
  constructor
  · intro hexact rel hrel
    have hcopy := h.hdfs rel
    rw [hexact.hdfs] at hcopy
    rw [hcopy, Option.isSome_or, hrel, Bool.or_true]
  · intro hall
    refine ⟨h.snapshot, funext ?_, h.dump⟩
    intro rel
    rw [h.hdfs]
    cases hcapture : w.capture.hdfs rel with
    | some content => rfl
    | none =>
      cases hold : (w.artifacts 3).hdfs rel with
      | none => rfl
      | some content =>
        have hthere := hall rel (by rw [hold]; rfl)
        rw [hcapture] at hthere
        cases hthere

/-- A restore from artifacts that are a capture brings back only what was
captured. -/
theorem bringsBackOnly_doRestore {w' : World D} {config : Config}
    (h : (w.artifacts 3).Exact config 3 w'.capture) (hconfig : w.config = config) (ω : Outcomes) :
    BringsBackOnly w'.stores w.stores (doRestore.run (World.answer ω) w).2.stores := by
  have hadds := addsOnly_restoreStages (b := 3) (ω := ω) (w := w) "/scripts/mysqlbackup.cnf"
  rw [run_doRestore]
  refine ⟨fun i hi => (hadds.indices i hi).imp_right ?_,
    fun path hpath => (hadds.hdfs path hpath).imp_right ?_,
    fun t ht => (hadds.mysql t ht).imp_right ?_⟩
  · rintro ⟨name, snapshot, hname, hstored, hsome⟩
    obtain ⟨name', hname', hstored'⟩ := h.snapshot
    rw [hconfig, hname', Except.ok.injEq] at hname
    rw [← hname, hstored', Option.some.injEq] at hstored
    rw [← hstored] at hsome
    obtain ⟨content, hcontent⟩ := Option.isSome_iff_exists.1 hsome
    show (w'.cluster.indices.get? i).isSome = true
    rw [Cluster.get?_openContents.1 hcontent]
    rfl
  · rintro ⟨rel, rfl, hsome⟩
    rw [h.hdfs] at hsome
    exact hsome
  · rintro ⟨d, hdump, hsome⟩
    rw [h.dump, Option.some.injEq, FileContent.dump.injEq] at hdump
    rw [← hdump] at hsome
    exact hsome

theorem config_serveScript (q : Outcomes × ScriptEvent D) :
    (World.serveScript q w).2.config = w.config := by
  match q with
  | (ω, .run .backup) =>
    show (doBackup.run (World.answer ω) w).2.config = w.config
    rw [run_doBackup]
    exact (sameCatalogue_backupStages _ _).config
  | (ω, .run .restore) => exact (sameCatalogue_restoreStages _ _).config
  | (ω, .changeStores stores) => rfl

end Steps

/-- **Which backups hold only what existed when they were taken**, in runs whose
backups succeed: those that find under `/hdfs` every file that was copied
before. -/
theorem onlyCurrent_iff (w : World D) (qs : List (Outcomes × ScriptEvent D))
    (hsucc : ∀ st ∈ history World.serveScript qs w, ScriptSucceeds st)
    {earlier rest : List (ServedScript D)} {st : ServedScript D}
    (hsteps : history World.serveScript qs w = earlier ++ st :: rest)
    (hbackup : st.request.2 = .run .backup) :
    OnlyCurrent st ↔
      ∀ rel, CopiedEarlier w earlier rel → (st.before.capture.hdfs rel).isSome = true := by
  have hst : st ∈ history World.serveScript qs w := by
    rw [hsteps]
    exact List.mem_append_right _ List.mem_cons_self
  have hexact := (renewed_step hst hbackup (hsucc st hst)).exact_iff
  simp only [isSome_copy_iff hsteps hsucc] at hexact
  rw [← hexact]
  constructor
  · intro h
    exact h.leaves
  · intro h
    refine ⟨h, ?_⟩
    intro ω stores
    have hconfig : st.after.config = st.before.config := by
      rw [after_of_mem_history hst]
      exact config_serveScript _
    exact bringsBackOnly_doRestore (w := st.after.withStores stores) h hconfig ω

section Samples

def runs (script : Script) : Outcomes × ScriptEvent Nat := (.smoothNewYear, .run script)

/-- The only file under `/hdfs` is deleted after the first backup. -/
def deletedFile : List (Outcomes × ScriptEvent Nat) :=
  [runs .backup, (.smoothNewYear, .changeStores { World.busy.stores with hdfs := fun _ => none }),
    runs .backup, runs .restore]

def deletedFileSteps : List (ServedScript Nat) := history World.serveScript deletedFile World.busy

theorem onlyCurrent_iff_deletedFile :
    OnlyCurrent deletedFileSteps[2] ↔
      ∀ rel, CopiedEarlier World.busy [deletedFileSteps[0], deletedFileSteps[1]] rel →
        (deletedFileSteps[2].before.capture.hdfs rel).isSome = true := by
  refine onlyCurrent_iff World.busy deletedFile (fun st hst _ => ?_)
    (show deletedFileSteps = [deletedFileSteps[0], deletedFileSteps[1]] ++ deletedFileSteps[2] ::
      [deletedFileSteps[3]] from rfl) rfl
  unfold deletedFile at hst
  simp only [history_cons, history_nil, List.mem_cons, List.not_mem_nil, or_false] at hst
  rcases hst with rfl | rfl | rfl | rfl <;> exact succeeds_smooth _ rfl

/-- The deleted file is in the second backup, and the restore brings it back. -/
theorem deleted_file_comes_back :
    deletedFileSteps.map (·.answer) = [some 0, none, some 0, some 0] ∧
      ¬OnlyCurrent deletedFileSteps[2] ∧
      deletedFileSteps[2].before.hdfs "/hdfs/run.csv" = none ∧
      deletedFileSteps[3].before.hdfs "/hdfs/run.csv" = none ∧
      deletedFileSteps[3].after.hdfs "/hdfs/run.csv" = some (.data 6) := by
  refine ⟨rfl, ?_, rfl, rfl, rfl⟩
  intro h
  have hcopy := congrFun h.leaves.hdfs "run.csv"
  have hkept : (deletedFileSteps[2].after.artifacts 3).hdfs "run.csv" = some (.data 6) := rfl
  have hgone : deletedFileSteps[2].before.capture.hdfs "run.csv" = none := rfl
  rw [hkept, hgone] at hcopy
  cases hcopy

end Samples

end Edm
