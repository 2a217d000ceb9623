import Edm.Service.Esutils

/-!
# How the runs of `esutils.py` end

`SnapshotEnd` and `RestoreEnd` list the ends of the two functions with the
guards that lead to each and the cluster each leaves, so that a property of a
run is proved by cases and no proof unfolds the functions again.
-/

namespace Edm

open Effects Data

variable {D : Type}

/-! ## Reading the config -/

theorem exists_of_bind_eq_ok {α β ε : Type} {x : Except ε α} {f : α → Except ε β} {b : β}
    (h : (x >>= f) = .ok b) : ∃ a, x = .ok a ∧ f a = .ok b := by
  cases x with
  | error e => cases h
  | ok a => exact ⟨a, rfl, h⟩

/-- A missing section or option is an `Exception`, which the handlers catch. -/
theorem Config.item_error {config : Config} {sec option : String} {e : PyExc}
    (h : config.item sec option = .error e) : e.isException = true := by
  unfold Config.item at h
  split at h
  · cases h; rfl
  · split at h
    · cases h; rfl
    · cases h

theorem Config.snapshotName_error {config : Config} {backupId : Int} {e : PyExc}
    (h : config.snapshotName backupId = .error e) : e.isException = true := by
  unfold Config.snapshotName at h
  cases hitem : config.item "elasticsearch_config" "snapshot_prefix" with
  | error e' => rw [hitem] at h; cases h; exact Config.item_error hitem
  | ok snapshotPrefix => rw [hitem] at h; cases h

theorem exceptException_of {α : Type} {handler : PyExc → Py α} {e : PyExc}
    (h : e.isException = true) : exceptException handler e = handler e := if_pos h

/-! ## Single calls -/

section Calls

variable (ω : Outcomes) (w : World D)

theorem run_esCall (c : EsCall) : (esCall c).run (World.answer ω) w = w.answerEs ω c := by
  unfold esCall
  rw [Prog.run_perform]
  rfl

theorem log_esCall (c : EsCall) : (esCall c).log (World.answer ω) w =
    [⟨w, .es c, (w.answerEs ω c).1, (w.answerEs ω c).2⟩] := by
  unfold esCall
  rw [Prog.log_perform]
  rfl

/-- A refused call leaves the cluster as it was. -/
theorem answerEs_refused (c : EsCall) {e : EsError} (h : ω.es c.step = some e) :
    w.answerEs ω c = (.error (.elasticsearch e), w) := by
  rw [World.answerEs, h, Cluster.answer_some]
  rfl

/-- What is let through is answered by the cluster itself. -/
theorem answerEs_accepted (c : EsCall) (h : ω.es c.step = none) :
    w.answerEs ω c =
      ((w.cluster.accept c).1.mapError PyExc.elasticsearch,
        (w.setCluster ((w.cluster.accept c).2))) := by
  rw [World.answerEs, h, Cluster.answer_none]

variable {ω}

theorem answerEs_connect (h : ω.es .connect = none) (seeds : List String) :
    w.answerEs ω (.connect seeds) = (.ok (), w) :=
  answerEs_accepted ω w (.connect seeds) h

theorem answerEs_info (h : ω.es .info = none) : w.answerEs ω .info = (.ok (), w) :=
  answerEs_accepted ω w .info h

theorem answerEs_createRepository (h : ω.es .createRepository = none)
    (repository location : String) :
    w.answerEs ω (.createRepository repository location) =
      (.ok (), w.setCluster (w.cluster.register repository location)) :=
  answerEs_accepted ω w (.createRepository repository location) h

end Calls

/-! ## `snapshot_indices_from_src_to_fs` -/

section Snapshot

/-- What looking a snapshot up and deleting it leaves. -/
def Cluster.dropIf (getRefusal deleteRefusal : Option EsError) (location name : String)
    (c : Cluster D) : Cluster D :=
  if getRefusal = none ∧ deleteRefusal = none then c.setSnapshot location name none else c

/-- The cluster accepted a snapshot of this name in this location. -/
def CreatesSnapshot (location name : String) (ev : Event Call Reply PyExc (World D)) : Prop :=
  ∃ repository, ev.call = .es (.createSnapshot repository name) ∧
    ev.before.cluster.repositories repository = some location ∧ ev.answer.isOk = true

theorem not_createsSnapshot {location name : String} {ev : Event Call Reply PyExc (World D)}
    (h : ∀ repository name, ev.call ≠ .es (.createSnapshot repository name)) :
    ¬CreatesSnapshot location name ev := by
  rintro ⟨repository, hcall, -⟩
  exact h repository name hcall

variable (config : Config) (backupId : Int) (ω : Outcomes) (w : World D)

/-- Dropping a snapshot never raises, and deletes at most the one of this name. -/
theorem run_dropSnapshot {repository location : String} (name : String)
    (hrepo : w.cluster.repositories repository = some location) :
    (dropSnapshot repository name).run (World.answer ω) w =
      (.ok (), w.setCluster
        (w.cluster.dropIf (ω.es .getSnapshot) (ω.es .deleteSnapshot) location name)) := by
  have hlookup : w.cluster.snapshot? repository name = w.cluster.snapshots location name := by
    rw [Cluster.snapshot?, hrepo]
    rfl
  unfold dropSnapshot Cluster.dropIf
  simp only [Prog.run_tryCatch, Prog.run_bind, run_esCall]
  cases hget : ω.es .getSnapshot with
  | some e =>
    rw [answerEs_refused ω w (.getSnapshot ..) hget]
    rfl
  | none =>
  rw [answerEs_accepted ω w (.getSnapshot ..) hget]
  cases hstored : w.cluster.snapshots location name with
  | none =>
    rw [Cluster.accept_getSnapshot_missing (hlookup.trans hstored),
      Cluster.setSnapshot_none_of_none hstored, ite_self]
    rfl
  | some snapshot =>
    simp only [Cluster.accept_getSnapshot (hlookup.trans hstored), Except.mapError,
      World.setCluster_self]
    cases hdelete : ω.es .deleteSnapshot with
    | some e =>
      rw [answerEs_refused ω w (.deleteSnapshot ..) hdelete]
      rfl
    | none =>
      simp only [answerEs_accepted ω w (.deleteSnapshot ..) hdelete,
        Cluster.accept_deleteSnapshot hrepo hstored]
      rfl

/-- The dropping of a snapshot logs no creation of one. -/
theorem log_dropSnapshot {repository location name : String} (name' : String)
    {ev : Event Call Reply PyExc (World D)}
    (hev : ev ∈ (dropSnapshot repository name').log (World.answer ω) w) :
    ¬CreatesSnapshot location name ev := by
  have hcalls : (dropSnapshot repository name').Calls
      fun c => ∀ repository name, c ≠ .es (.createSnapshot repository name) := by
    refine .tryCatch (.bind (Prog.Calls.perform.2 ?_) fun _ => Prog.Calls.perform.2 ?_) ?_
    · intro _ _ h; cases h
    · intro _ _ h; cases h
    · intro e
      unfold exceptException
      split <;> simp
  exact not_createsSnapshot (hcalls.of_mem_log hev)

/-- The calls a snapshot issues before it looks for an old one are let through. -/
structure SnapshotReaches : Prop where
  connect : ω.es .connect = none
  info : ω.es .info = none
  createRepository : ω.es .createRepository = none

/-- The cluster when the snapshot is about to be created. -/
def atSnapshot (repository name : String) : Cluster D :=
  (w.cluster.register repository (str backupId)).dropIf (ω.es .getSnapshot)
    (ω.es .deleteSnapshot) (str backupId) name

/-- The cluster after the snapshot was created. -/
def afterSnapshot (repository name : String) : Cluster D :=
  (atSnapshot backupId ω w repository name).setSnapshot (str backupId) name
    (some w.cluster.openContents)

/-- The create call is accepted under the name `name`. -/
structure SnapshotAccepts (repository name : String) : Prop where
  named : config.snapshotName backupId = .ok name
  free : (atSnapshot backupId ω w repository name).snapshots (str backupId) name = none
  accepted : ω.es .createSnapshot = none

/-- No snapshot was created in a run with this log. -/
def CreatesNone (log : List (Event Call Reply PyExc (World D))) : Prop :=
  ∀ ev ∈ log, ∀ location name, ¬CreatesSnapshot location name ev

@[simp] theorem createsNone_nil : CreatesNone ([] : List (Event Call Reply PyExc (World D))) := by
  intro ev hev
  cases hev

@[simp] theorem createsNone_append {log log' : List (Event Call Reply PyExc (World D))} :
    CreatesNone (log ++ log') ↔ CreatesNone log ∧ CreatesNone log' := by
  simp only [CreatesNone, List.forall_mem_append]

@[simp] theorem createsNone_cons {ev : Event Call Reply PyExc (World D)}
    {log : List (Event Call Reply PyExc (World D))} :
    CreatesNone (ev :: log) ↔ (∀ location name, ¬CreatesSnapshot location name ev) ∧
      CreatesNone log := by
  simp only [CreatesNone, List.forall_mem_cons]

/-- The ends of a snapshot, with the log of the run. An error of the body is
swallowed, so only the settings make the function raise. -/
inductive SnapshotEnd :
    Except PyExc Unit → World D → List (Event Call Reply PyExc (World D)) → Prop where
  | noSettings {e : PyExc} (h : config.srcSettings = .error e) : SnapshotEnd (.error e) w []
  | unreached {repository : String} {seeds : List String} {cluster : Cluster D}
      {log : List (Event Call Reply PyExc (World D))}
      (hset : config.srcSettings = .ok (repository, seeds)) (h : ¬SnapshotReaches ω)
      (hcluster : cluster = w.cluster ∨
        cluster = w.cluster.register repository (str backupId))
      (hlog : CreatesNone log) : SnapshotEnd (.ok ()) (w.setCluster cluster) log
  | unnamed {repository : String} {seeds : List String} {e : PyExc}
      {log : List (Event Call Reply PyExc (World D))}
      (hset : config.srcSettings = .ok (repository, seeds)) (hreach : SnapshotReaches ω)
      (h : config.snapshotName backupId = .error e) (hlog : CreatesNone log) :
      SnapshotEnd (.ok ()) (w.setCluster (w.cluster.register repository (str backupId))) log
  | untaken {repository name : String} {seeds : List String}
      {log : List (Event Call Reply PyExc (World D))}
      (hset : config.srcSettings = .ok (repository, seeds)) (hreach : SnapshotReaches ω)
      (hname : config.snapshotName backupId = .ok name)
      (h : ¬SnapshotAccepts config backupId ω w repository name) (hlog : CreatesNone log) :
      SnapshotEnd (.ok ()) (w.setCluster (atSnapshot backupId ω w repository name)) log
  | taken {repository name : String} {seeds : List String}
      {log : List (Event Call Reply PyExc (World D))}
      (hset : config.srcSettings = .ok (repository, seeds)) (hreach : SnapshotReaches ω)
      (h : SnapshotAccepts config backupId ω w repository name)
      (hlog : ∃ ev ∈ log, CreatesSnapshot (str backupId) name ev) :
      SnapshotEnd (.ok ()) (w.setCluster (afterSnapshot backupId ω w repository name)) log

/-- Dropping the old snapshot keeps the repository that was just registered. -/
theorem atSnapshot_repositories (repository name : String) :
    (atSnapshot backupId ω w repository name).repositories repository =
      some (str backupId) := by
  unfold atSnapshot Cluster.dropIf
  split <;> simp

/-- Nothing before the create call touches an index. -/
@[simp] theorem atSnapshot_indices (repository name : String) :
    (atSnapshot backupId ω w repository name).indices = w.cluster.indices := by
  unfold atSnapshot Cluster.dropIf
  split <;> rfl

/-- The create call itself, in the state in which it is issued. -/
theorem answerEs_createSnapshot (repository : String) {name : String}
    (hname : config.snapshotName backupId = .ok name) :
    (SnapshotAccepts config backupId ω w repository name ∧
      (w.setCluster (atSnapshot backupId ω w repository name)).answerEs ω
          (.createSnapshot repository name) =
        (.ok (), w.setCluster (afterSnapshot backupId ω w repository name))) ∨
    ¬SnapshotAccepts config backupId ω w repository name ∧
      ∃ e, (w.setCluster (atSnapshot backupId ω w repository name)).answerEs ω
          (.createSnapshot repository name) =
        (.error (.elasticsearch e), w.setCluster (atSnapshot backupId ω w repository name)) := by
  cases hrefusal : ω.es .createSnapshot with
  | some e =>
    refine .inr ⟨?_, e, answerEs_refused ω _ (.createSnapshot ..) hrefusal⟩
    intro h
    rw [h.accepted] at hrefusal
    cases hrefusal
  | none =>
  rw [answerEs_accepted ω _ (.createSnapshot ..) hrefusal, World.setCluster_cluster]
  have hrepo := atSnapshot_repositories backupId ω w repository name
  cases hstored : (atSnapshot backupId ω w repository name).snapshots (str backupId) name with
  | some snapshot =>
    rw [Cluster.accept_createSnapshot_taken hrepo hstored]
    refine .inr ⟨?_, .transportError, rfl⟩
    intro h
    rw [h.free] at hstored
    cases hstored
  | none =>
    have hcontents : (atSnapshot backupId ω w repository name).openContents =
        w.cluster.openContents := by
      rw [Cluster.openContents, atSnapshot_indices]
      rfl
    rw [Cluster.accept_createSnapshot hrepo hstored, hcontents]
    exact .inl ⟨⟨hname, hstored, hrefusal⟩, rfl⟩

/-- Every run of the snapshot function ends in one of these ways. -/
theorem snapshot_end :
    SnapshotEnd config backupId ω w
      ((snapshotIndicesFromSrcToFs config backupId).run (World.answer ω) w).1
      ((snapshotIndicesFromSrcToFs config backupId).run (World.answer ω) w).2
      ((snapshotIndicesFromSrcToFs config backupId).log (World.answer ω) w) := by
  unfold snapshotIndicesFromSrcToFs takeSnapshot
  simp only [Prog.run_bind, Prog.run_tryCatch, Prog.run_ofExcept, run_esCall, Prog.log_bind,
    Prog.log_tryCatch, Prog.log_ofExcept, log_esCall]
  cases hset : config.srcSettings with
  | error e => exact .noSettings hset
  | ok settings =>
    obtain ⟨repository, seeds⟩ := settings
    simp only
    cases hconn : ω.es .connect with
    | some e =>
      simp only [answerEs_refused ω w (.connect seeds) hconn]
      refine .unreached hset (fun h => ?_) (.inl rfl) ?_
      · rw [h.connect] at hconn
        cases hconn
      · simp [CreatesSnapshot, exceptException, PyExc.isException]
    | none =>
    simp only [answerEs_connect w hconn]
    cases hinfo : ω.es .info with
    | some e =>
      simp only [answerEs_refused ω w .info hinfo]
      refine .unreached hset (fun h => ?_) (.inl rfl) ?_
      · rw [h.info] at hinfo
        cases hinfo
      · simp [CreatesSnapshot, exceptException, PyExc.isException]
    | none =>
    simp only [answerEs_info w hinfo]
    cases hrepo : ω.es .createRepository with
    | some e =>
      simp only [answerEs_refused ω w (.createRepository ..) hrepo]
      refine .unreached hset (fun h => ?_) (.inl rfl) ?_
      · rw [h.createRepository] at hrepo
        cases hrepo
      · simp [CreatesSnapshot, exceptException, PyExc.isException]
    | none =>
    have hreach : SnapshotReaches ω := ⟨hconn, hinfo, hrepo⟩
    simp only [answerEs_createRepository w hrepo]
    cases hname : config.snapshotName backupId with
    | error e =>
      simp only [exceptException_of (Config.snapshotName_error hname)]
      refine .unnamed hset hreach hname ?_
      simp [CreatesSnapshot]
    | ok name =>
      have hregistered : (w.setCluster (w.cluster.register repository
          (str backupId))).cluster.repositories repository = some (str backupId) :=
        Cluster.register_repositories_self ..
      simp only [run_dropSnapshot ω _ name hregistered]
      rcases answerEs_createSnapshot config backupId ω w repository hname with
        ⟨haccepts, hrun⟩ | ⟨hno, e, hrun⟩
      · rw [atSnapshot] at hrun
        simp only [World.setCluster_cluster, World.setCluster_setCluster, hrun]
        refine .taken hset hreach haccepts ?_
        refine ⟨⟨w.setCluster (atSnapshot backupId ω w repository name),
          .es (.createSnapshot repository name), .ok (),
          w.setCluster (afterSnapshot backupId ω w repository name)⟩, ?_, repository, rfl,
          atSnapshot_repositories backupId ω w repository name, rfl⟩
        simp [atSnapshot]
      · rw [atSnapshot] at hrun
        simp only [World.setCluster_cluster, World.setCluster_setCluster, hrun]
        refine .untaken hset hreach hname hno ?_
        have hdrop : CreatesNone ((dropSnapshot repository name).log (World.answer ω)
            (w.setCluster (w.cluster.register repository (str backupId)))) :=
          fun ev hev _ _ => log_dropSnapshot ω _ name hev
        simp [CreatesSnapshot, hdrop, exceptException, PyExc.isException, Except.isOk,
          Except.toBool]

end Snapshot

/-! ## `restore_indices_from_fs_to_dest` -/

section Restore

/-- What closing or opening `_all` leaves, refused or not. -/
def Cluster.setOpenIf (refusal : Option EsError) (isOpen : Bool) (c : Cluster D) : Cluster D :=
  if refusal = none then c.setOpen isOpen else c

def restoreFailed : PyExc := .exception "Restore FAILED !!!"

variable (config : Config) (backupId : Int) (ω : Outcomes) (w : World D)

/-- A refusal to close the indices is swallowed, so the restore goes on. -/
theorem run_closeIndices :
    closeIndices.run (World.answer ω) w =
      (.ok (), w.setCluster (w.cluster.setOpenIf (ω.es .closeIndices) false)) := by
  unfold closeIndices
  rw [Prog.run_tryCatch, run_esCall]
  cases h : ω.es .closeIndices with
  | none => rw [answerEs_accepted ω w .closeIndices h]; rfl
  | some e => rw [answerEs_refused ω w .closeIndices h]; cases e <;> rfl

/-- A refusal to open them is swallowed as well. -/
theorem run_reopenIndices :
    reopenIndices.run (World.answer ω) w =
      (.ok (), w.setCluster (w.cluster.setOpenIf (ω.es .openIndices) true)) := by
  unfold reopenIndices
  rw [Prog.run_tryCatch, run_esCall]
  cases h : ω.es .openIndices with
  | none => rw [answerEs_accepted ω w .openIndices h]; rfl
  | some e => rw [answerEs_refused ω w .openIndices h]; cases e <;> rfl

/-- The calls a restore issues before it closes the indices are let through. -/
structure RestoreReaches : Prop where
  connect : ω.es .connect = none
  createRepository : ω.es .createRepository = none
  info : ω.es .info = none

/-- The cluster when the snapshot is about to be restored. -/
def atRestore (repository : String) : Cluster D :=
  (w.cluster.register repository (str backupId)).setOpenIf (ω.es .closeIndices) false

/-- The cluster after `snapshot` was restored and the indices were re-opened. -/
def afterRestore (repository : String) (snapshot : Snapshot D) : Cluster D :=
  ((atRestore backupId ω w repository).restored snapshot).setOpenIf (ω.es .openIndices) true

/-- The restore call is accepted, on the snapshot `snapshot`. -/
structure RestoreAccepts (repository : String) (snapshot : Snapshot D) : Prop where
  stored : ∃ name, config.snapshotName backupId = .ok name ∧
    w.cluster.snapshots (str backupId) name = some snapshot
  noConflict : (atRestore backupId ω w repository).conflicts snapshot = false
  accepted : ω.es .restoreSnapshot = none

/-- The ends of a restore. -/
inductive RestoreEnd : Except PyExc Unit → World D → Prop where
  | noSettings {e : PyExc} (h : config.destSettings = .error e) : RestoreEnd (.error e) w
  | unreached {repository : String} {seeds : List String} {cluster : Cluster D}
      (hset : config.destSettings = .ok (repository, seeds)) (h : ¬RestoreReaches ω)
      (hcluster : cluster = w.cluster ∨
        cluster = w.cluster.register repository (str backupId)) :
      RestoreEnd (.error restoreFailed) (w.setCluster cluster)
  | unrestored {repository : String} {seeds : List String}
      (hset : config.destSettings = .ok (repository, seeds)) (hreach : RestoreReaches ω)
      (h : ∀ snapshot, ¬RestoreAccepts config backupId ω w repository snapshot) :
      RestoreEnd (.error restoreFailed) (w.setCluster (atRestore backupId ω w repository))
  | restored {repository : String} {seeds : List String} {snapshot : Snapshot D}
      (hset : config.destSettings = .ok (repository, seeds)) (hreach : RestoreReaches ω)
      (h : RestoreAccepts config backupId ω w repository snapshot) :
      RestoreEnd (.ok ()) (w.setCluster (afterRestore backupId ω w repository snapshot))

/-- The restore looks for its snapshot in the location it has just registered. -/
theorem snapshot?_atRestore (repository name : String) :
    (atRestore backupId ω w repository).snapshot? repository name =
      w.cluster.snapshots (str backupId) name := by
  unfold atRestore Cluster.setOpenIf
  split <;> simp

/-- The restore call itself, in the state in which it is issued. -/
theorem answerEs_restoreSnapshot (repository : String) {name : String}
    (hname : config.snapshotName backupId = .ok name) :
    (∃ snapshot, RestoreAccepts config backupId ω w repository snapshot ∧
      (w.setCluster (atRestore backupId ω w repository)).answerEs ω
          (.restoreSnapshot repository name) =
        (.ok (), w.setCluster ((atRestore backupId ω w repository).restored snapshot))) ∨
    (∀ snapshot, ¬RestoreAccepts config backupId ω w repository snapshot) ∧
      ∃ e, (w.setCluster (atRestore backupId ω w repository)).answerEs ω
          (.restoreSnapshot repository name) =
        (.error (.elasticsearch e), w.setCluster (atRestore backupId ω w repository)) := by
  cases hrefusal : ω.es .restoreSnapshot with
  | some e =>
    refine .inr ⟨?_, e, answerEs_refused ω _ (.restoreSnapshot ..) hrefusal⟩
    intro snapshot h
    rw [h.accepted] at hrefusal
    cases hrefusal
  | none =>
  rw [answerEs_accepted ω _ (.restoreSnapshot ..) hrefusal, World.setCluster_cluster]
  have hlookup := snapshot?_atRestore backupId ω w repository name
  cases hstored : w.cluster.snapshots (str backupId) name with
  | none =>
    rw [Cluster.accept_restoreSnapshot_missing (hlookup.trans hstored)]
    refine .inr ⟨?_, .notFoundError, rfl⟩
    intro snapshot h
    obtain ⟨name', hname', hstored'⟩ := h.stored
    rw [hname, Except.ok.injEq] at hname'
    rw [← hname', hstored] at hstored'
    cases hstored'
  | some snapshot =>
    cases hconf : (atRestore backupId ω w repository).conflicts snapshot with
    | true =>
      rw [Cluster.accept_restoreSnapshot_conflict (hlookup.trans hstored) hconf]
      refine .inr ⟨?_, .transportError, rfl⟩
      intro snapshot' h
      obtain ⟨name', hname', hstored'⟩ := h.stored
      rw [hname, Except.ok.injEq] at hname'
      rw [← hname', hstored, Option.some.injEq] at hstored'
      rw [hstored', h.noConflict] at hconf
      cases hconf
    | false =>
      rw [Cluster.accept_restoreSnapshot (hlookup.trans hstored) hconf]
      exact .inl ⟨snapshot, ⟨⟨name, hname, hstored⟩, hconf, hrefusal⟩, rfl⟩

/-- Every run of the restore function ends in one of these ways. -/
theorem restore_end :
    RestoreEnd config backupId ω w
      ((restoreIndicesFromFsToDest config backupId).run (World.answer ω) w).1
      ((restoreIndicesFromFsToDest config backupId).run (World.answer ω) w).2 := by
  unfold restoreIndicesFromFsToDest restoreSnapshot
  simp only [Prog.run_bind, Prog.run_tryCatch, Prog.run_ofExcept, run_esCall]
  cases hset : config.destSettings with
  | error e => exact .noSettings hset
  | ok settings =>
    obtain ⟨repository, seeds⟩ := settings
    simp only
    cases hconn : ω.es .connect with
    | some e =>
      rw [answerEs_refused ω w (.connect seeds) hconn]
      exact .unreached hset (fun h => by rw [h.connect] at hconn; cases hconn) (.inl rfl)
    | none =>
    simp only [answerEs_connect w hconn]
    cases hrepo : ω.es .createRepository with
    | some e =>
      rw [answerEs_refused ω w (.createRepository ..) hrepo]
      exact .unreached hset (fun h => by rw [h.createRepository] at hrepo; cases hrepo) (.inl rfl)
    | none =>
    simp only [answerEs_createRepository w hrepo]
    cases hinfo : ω.es .info with
    | some e =>
      rw [answerEs_refused ω _ .info hinfo]
      exact .unreached hset (fun h => by rw [h.info] at hinfo; cases hinfo) (.inr rfl)
    | none =>
    have hreach : RestoreReaches ω := ⟨hconn, hrepo, hinfo⟩
    simp only [answerEs_info _ hinfo, run_closeIndices]
    cases hname : config.snapshotName backupId with
    | error e =>
      simp only [exceptException_of (Config.snapshotName_error hname)]
      refine .unrestored hset hreach ?_
      intro snapshot h
      obtain ⟨name, hname', -⟩ := h.stored
      rw [hname] at hname'
      cases hname'
    | ok name =>
      rcases answerEs_restoreSnapshot config backupId ω w repository hname with
        ⟨snapshot, haccepts, hrun⟩ | ⟨hno, e, hrun⟩
      · rw [atRestore] at hrun
        simp only [World.setCluster_cluster, World.setCluster_setCluster, hrun,
          run_reopenIndices]
        exact .restored hset hreach haccepts
      · rw [atRestore] at hrun
        simp only [World.setCluster_cluster, World.setCluster_setCluster, hrun]
        exact .unrestored hset hreach hno

end Restore

/-! ## Calls -/

section OwnCalls

/-- One run of a function of `esutils.py`. -/
inductive Task where
  | snapshot (backupId : Int)
  | restore (backupId : Int)

def Task.backupId : Task → Int
  | .snapshot backupId => backupId
  | .restore backupId => backupId

def Task.prog (config : Config) : Task → Py Unit
  | .snapshot backupId => snapshotIndicesFromSrcToFs config backupId
  | .restore backupId => restoreIndicesFromFsToDest config backupId

/-- The calls of a run: it registers the location of its own id and asks for
the snapshot of its own id. -/
inductive Task.Issues (config : Config) : Task → Call → Prop where
  | connect (task : Task) (seeds : List String) : Issues config task (.es (.connect seeds))
  | info (task : Task) : Issues config task (.es .info)
  | createRepository (task : Task) {repository : String}
      (hrepo : config.item "elasticsearch_config" "es_repository_name" = .ok repository) :
      Issues config task (.es (.createRepository repository (str task.backupId)))
  | getSnapshot {b : Int} (repository name : String) :
      Issues config (.snapshot b) (.es (.getSnapshot repository name))
  | deleteSnapshot {b : Int} {repository name : String}
      (hrepo : config.item "elasticsearch_config" "es_repository_name" = .ok repository)
      (hname : config.snapshotName b = .ok name) :
      Issues config (.snapshot b) (.es (.deleteSnapshot repository name))
  | createSnapshot {b : Int} {repository name : String}
      (hrepo : config.item "elasticsearch_config" "es_repository_name" = .ok repository)
      (hname : config.snapshotName b = .ok name) :
      Issues config (.snapshot b) (.es (.createSnapshot repository name))
  | closeIndices {b : Int} : Issues config (.restore b) (.es .closeIndices)
  | restoreSnapshot {b : Int} {repository name : String}
      (hrepo : config.item "elasticsearch_config" "es_repository_name" = .ok repository)
      (hname : config.snapshotName b = .ok name) :
      Issues config (.restore b) (.es (.restoreSnapshot repository name))
  | openIndices {b : Int} : Issues config (.restore b) (.es .openIndices)

theorem Config.repository_of_srcSettings {config : Config} {repository : String}
    {seeds : List String} (h : config.srcSettings = .ok (repository, seeds)) :
    config.item "elasticsearch_config" "es_repository_name" = .ok repository := by
  unfold Config.srcSettings at h
  obtain ⟨seed, -, h⟩ := exists_of_bind_eq_ok h
  obtain ⟨repository', hrepo, h⟩ := exists_of_bind_eq_ok h
  obtain ⟨others, -, h⟩ := exists_of_bind_eq_ok h
  cases h
  exact hrepo

theorem Config.repository_of_destSettings {config : Config} {repository : String}
    {seeds : List String} (h : config.destSettings = .ok (repository, seeds)) :
    config.item "elasticsearch_config" "es_repository_name" = .ok repository := by
  unfold Config.destSettings at h
  obtain ⟨seed, -, h⟩ := exists_of_bind_eq_ok h
  obtain ⟨repository', hrepo, h⟩ := exists_of_bind_eq_ok h
  obtain ⟨indexNames, -, h⟩ := exists_of_bind_eq_ok h
  obtain ⟨others, -, h⟩ := exists_of_bind_eq_ok h
  cases h
  exact hrepo

variable {P : Call → Prop}

theorem calls_exceptException {α : Type} {handler : PyExc → Py α} (h : ∀ e, (handler e).Calls P)
    (e : PyExc) : (exceptException handler e).Calls P := by
  unfold exceptException
  split
  · exact h e
  · exact .raise e

theorem calls_esCall {c : EsCall} (h : P (.es c)) : (esCall c).Calls P :=
  Prog.Calls.perform.2 h

theorem calls_closeIndices (h : P (.es .closeIndices)) : closeIndices.Calls P := by
  refine .tryCatch (calls_esCall h) ?_
  intro e
  split
  · exact .pure ()
  · exact calls_exceptException (fun _ => .pure ()) _

theorem calls_reopenIndices (h : P (.es .openIndices)) : reopenIndices.Calls P := by
  refine .tryCatch (calls_esCall h) ?_
  intro e
  split
  · exact .pure ()
  · exact calls_exceptException (fun _ => .pure ()) _

/-- Neither function issues any other call. -/
theorem Task.calls_prog (config : Config) (task : Task) :
    (task.prog config).Calls (task.Issues config) := by
  cases task with
  | snapshot b =>
    unfold Task.prog snapshotIndicesFromSrcToFs
    cases hset : config.srcSettings with
    | error e => trivial
    | ok settings =>
      obtain ⟨repository, seeds⟩ := settings
      have hrepo := Config.repository_of_srcSettings hset
      refine .tryCatch ?_ (calls_exceptException fun _ => .pure ())
      unfold takeSnapshot
      refine .bind (calls_esCall (.connect _ seeds)) fun _ =>
        .bind (calls_esCall (.info _)) fun _ =>
        .bind (calls_esCall (.createRepository (.snapshot b) hrepo)) fun _ => ?_
      cases hname : config.snapshotName b with
      | error e => trivial
      | ok name =>
        show (dropSnapshot repository name >>= fun _ =>
          esCall (.createSnapshot repository name)).Calls _
        refine .bind (.tryCatch ?_ (calls_exceptException fun _ => .pure ())) fun _ =>
          calls_esCall (.createSnapshot hrepo hname)
        exact .bind (calls_esCall (.getSnapshot _ _)) fun _ =>
          calls_esCall (.deleteSnapshot hrepo hname)
  | restore b =>
    unfold Task.prog restoreIndicesFromFsToDest
    cases hset : config.destSettings with
    | error e => trivial
    | ok settings =>
      obtain ⟨repository, seeds⟩ := settings
      have hrepo := Config.repository_of_destSettings hset
      refine .tryCatch ?_ (calls_exceptException fun _ => .raise _)
      unfold restoreSnapshot
      refine .bind (calls_esCall (.connect _ seeds)) fun _ =>
        .bind (calls_esCall (.createRepository (.restore b) hrepo)) fun _ =>
          .bind (calls_esCall (.info _)) fun _ =>
          .bind (calls_closeIndices .closeIndices) fun _ => ?_
      cases hname : config.snapshotName b with
      | error e => trivial
      | ok name =>
        show (esCall (.restoreSnapshot repository name) >>= fun _ => reopenIndices).Calls _
        exact .bind (calls_esCall (.restoreSnapshot hrepo hname)) fun _ =>
          calls_reopenIndices .openIndices

end OwnCalls

/-! ## Frames -/

section Frames

variable (config : Config) (backupId : Int) (ω : Outcomes) (w : World D)

/-- The old snapshot is dropped in the location of the id only. -/
theorem atSnapshot_snapshots_of_ne {location : String} (h : location ≠ str backupId)
    (repository name : String) :
    (atSnapshot backupId ω w repository name).snapshots location =
      w.cluster.snapshots location := by
  unfold atSnapshot Cluster.dropIf
  funext name'
  split
  · rw [Cluster.setSnapshot_of_ne _ _ fun heq => h heq.1]
    rfl
  · rfl

/-- A snapshot leaves the indices alone, and the snapshots of other locations. -/
theorem exists_cluster_snapshot :
    ∃ cluster, ((snapshotIndicesFromSrcToFs config backupId).run (World.answer ω) w).2 =
        w.setCluster cluster ∧
      cluster.indices = w.cluster.indices ∧
      ∀ location ≠ str backupId, cluster.snapshots location = w.cluster.snapshots location := by
  have hend := snapshot_end config backupId ω w
  generalize ((snapshotIndicesFromSrcToFs config backupId).run (World.answer ω) w).1 = r at hend
  generalize ((snapshotIndicesFromSrcToFs config backupId).run (World.answer ω) w).2 = w'
    at hend ⊢
  generalize (snapshotIndicesFromSrcToFs config backupId).log (World.answer ω) w = log at hend
  cases hend with
  | noSettings h => exact ⟨w.cluster, rfl, rfl, fun _ _ => rfl⟩
  | unreached hset h hcluster hlog =>
    rcases hcluster with rfl | rfl
    · exact ⟨w.cluster, rfl, rfl, fun _ _ => rfl⟩
    · exact ⟨_, rfl, rfl, fun _ _ => rfl⟩
  | unnamed hset hreach h hlog => exact ⟨_, rfl, rfl, fun _ _ => rfl⟩
  | untaken hset hreach hname h hlog =>
    exact ⟨_, rfl, atSnapshot_indices .., fun _ hne => atSnapshot_snapshots_of_ne _ _ _ hne _ _⟩
  | taken hset hreach h hlog =>
    refine ⟨_, rfl, atSnapshot_indices .., ?_⟩
    intro location hne
    rw [← atSnapshot_snapshots_of_ne backupId ω w hne]
    funext name'
    exact Cluster.setSnapshot_of_ne _ _ fun heq => hne heq.1

/-- A restore leaves the snapshots alone. -/
theorem exists_cluster_restore :
    ∃ cluster, ((restoreIndicesFromFsToDest config backupId).run (World.answer ω) w).2 =
        w.setCluster cluster ∧ cluster.snapshots = w.cluster.snapshots := by
  have hat (repository : String) :
      (atRestore backupId ω w repository).snapshots = w.cluster.snapshots := by
    unfold atRestore Cluster.setOpenIf
    split <;> rfl
  have hend := restore_end config backupId ω w
  generalize ((restoreIndicesFromFsToDest config backupId).run (World.answer ω) w).1 = r at hend
  generalize ((restoreIndicesFromFsToDest config backupId).run (World.answer ω) w).2 = w'
    at hend ⊢
  cases hend with
  | noSettings h => exact ⟨w.cluster, rfl, rfl⟩
  | unreached hset h hcluster => rcases hcluster with rfl | rfl <;> exact ⟨_, rfl, rfl⟩
  | unrestored hset hreach h => exact ⟨_, rfl, hat _⟩
  | @restored repository seeds snapshot hset hreach h =>
    refine ⟨_, rfl, ?_⟩
    rw [← hat repository]
    unfold afterRestore Cluster.setOpenIf
    split <;> rfl

end Frames

end Edm
