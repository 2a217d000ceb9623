import Edm.Service.Run
import Edm.Verify.Artifacts
import Edm.Verify.Business

/-!
# What one request does

The steps of a run by what they leave alone: the artifacts of every id that is
not being created, and the keys of the table of backups.
-/

namespace Edm

open Effects Data

variable {D : Type}

@[simp] theorem answered_snd {α : Type} (returned : α → Answer)
    (x : Except PyExc α × World D) : (answered returned x).2 = x.2 := by
  obtain ⟨_ | _, _⟩ := x <;> rfl

/-- What the service made of the request of a step. -/
theorem serveRequest_of_mem_history {qs : List (Outcomes × Request D)} {w : World D}
    {st : ServedRequest D} (hst : st ∈ history World.serve qs w) {q : Request D}
    (hq : st.request.2 = q) :
    st.before.serveRequest st.request.1 q = (st.answer, st.after) := by
  rw [← hq]
  exact serve_of_mem_history hst

/-- The key the table gives to the row of a new backup. -/
def allocated (w : World D) : Request D → Option Int
  | .createEdmBackup _ => some w.backups.nextId
  | _ => none

section Artifacts

variable (ω : Outcomes) (w : World D) (b : Int)

theorem artifacts_createEdmBackup (data : TitleBody) (hne : w.backups.nextId ≠ b) :
    ((createEdmBackup data).run (World.answer ω) w).2.artifacts b = w.artifacts b := by
  rw [run_createEdmBackup]
  exact artifacts_backupStages (b := b) hne _

theorem artifacts_updateEdmBackup (backupId : Int) (data : TitleBody) :
    ((updateEdmBackup backupId data).run (World.answer ω) w).2.artifacts b = w.artifacts b := by
  rw [run_updateEdmBackup]
  split <;> rfl

theorem artifacts_deleteEdmBackup (backupId : Int) :
    ((deleteEdmBackup backupId).run (World.answer ω) w).2.artifacts b = w.artifacts b := by
  rw [run_deleteEdmBackup]
  split <;> rfl

theorem artifacts_createRestore (data : RestoreBody) :
    ((createRestore data).run (World.answer ω) w).2.artifacts b = w.artifacts b := by
  rw [run_createRestore]
  split
  · exact artifacts_restoreStages b data.backupId _
  · rfl

theorem artifacts_updateRestore (restoreId : Int) (data : TitleBody) :
    ((updateRestore restoreId data).run (World.answer ω) w).2.artifacts b = w.artifacts b := by
  rw [run_updateRestore]
  split <;> rfl

theorem artifacts_deleteRestore (restoreId : Int) :
    ((deleteRestore restoreId).run (World.answer ω) w).2.artifacts b = w.artifacts b := by
  rw [run_deleteRestore]
  split <;> rfl

/-- Only the backup that gets an id touches the artifacts of this id. -/
theorem artifacts_serveRequest (q : Request D) (h : allocated w q ≠ some b) :
    (w.serveRequest ω q).2.artifacts b = w.artifacts b := by
  cases q with
  | createEdmBackup data =>
    exact (congrArg (World.artifacts · b) (answered_snd _ _)).trans
      (artifacts_createEdmBackup ω w b data fun heq => h (congrArg some heq))
  | updateEdmBackup backupId data =>
    exact (congrArg (World.artifacts · b) (answered_snd _ _)).trans
      (artifacts_updateEdmBackup ω w b backupId data)
  | deleteEdmBackup backupId =>
    exact (congrArg (World.artifacts · b) (answered_snd _ _)).trans
      (artifacts_deleteEdmBackup ω w b backupId)
  | createRestore data =>
    exact (congrArg (World.artifacts · b) (answered_snd _ _)).trans
      (artifacts_createRestore ω w b data)
  | updateRestore restoreId data =>
    exact (congrArg (World.artifacts · b) (answered_snd _ _)).trans
      (artifacts_updateRestore ω w b restoreId data)
  | deleteRestore restoreId =>
    exact (congrArg (World.artifacts · b) (answered_snd _ _)).trans
      (artifacts_deleteRestore ω w b restoreId)
  | changeStores stores => rfl

end Artifacts

section Keys

variable (ω : Outcomes) (w : World D)

/-- No request changes the config. -/
theorem config_serveRequest (q : Request D) : (w.serveRequest ω q).2.config = w.config := by
  cases q with
  | createEdmBackup data =>
    rw [World.serveRequest, answered_snd, run_createEdmBackup]
    exact (sameCatalogue_backupStages _ _).config
  | updateEdmBackup backupId data =>
    rw [World.serveRequest, answered_snd, run_updateEdmBackup]
    split <;> rfl
  | deleteEdmBackup backupId =>
    rw [World.serveRequest, answered_snd, run_deleteEdmBackup]
    split <;> rfl
  | createRestore data =>
    rw [World.serveRequest, answered_snd, run_createRestore]
    split
    · exact (sameCatalogue_restoreStages _ _).config
    · rfl
  | updateRestore restoreId data =>
    rw [World.serveRequest, answered_snd, run_updateRestore]
    split <;> rfl
  | deleteRestore restoreId =>
    rw [World.serveRequest, answered_snd, run_deleteRestore]
    split <;> rfl
  | changeStores stores => rfl

/-- A request adds no key to the table but the one it allocates. -/
theorem mem_ids_serveRequest {q : Request D} {id : Int}
    (h : id ∈ (w.serveRequest ω q).2.backups.ids) :
    allocated w q = some id ∨ id ∈ w.backups.ids := by
  cases q with
  | createEdmBackup data =>
    rw [World.serveRequest, answered_snd, run_createEdmBackup,
      (sameCatalogue_backupStages _ _).backups, World.withBackup, Table.mem_ids_put] at h
    exact h.imp_left fun heq => congrArg some heq.symm
  | updateEdmBackup backupId data =>
    rw [World.serveRequest, answered_snd, run_updateEdmBackup] at h
    split at h
    · next row hrow =>
      rw [Table.mem_ids_put] at h
      refine .inr (h.elim ?_ (·))
      intro heq
      rw [heq, Table.mem_ids_iff, (World.oneRow_eq_ok_iff.1 hrow).2]
      rfl
    · exact .inr h
  | deleteEdmBackup backupId =>
    rw [World.serveRequest, answered_snd, run_deleteEdmBackup] at h
    split at h
    · exact .inr ((Table.mem_ids_remove _ _ _).1 h).2
    · exact .inr h
  | createRestore data =>
    rw [World.serveRequest, answered_snd, run_createRestore] at h
    split at h
    · rw [(sameCatalogue_restoreStages _ _).backups] at h
      exact .inr h
    · exact .inr h
  | updateRestore restoreId data =>
    rw [World.serveRequest, answered_snd, run_updateRestore] at h
    split at h <;> exact .inr h
  | deleteRestore restoreId =>
    rw [World.serveRequest, answered_snd, run_deleteRestore] at h
    split at h <;> exact .inr h
  | changeStores stores => exact .inr h

end Keys

end Edm
