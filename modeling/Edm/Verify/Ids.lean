import Edm.Effects.Allocation
import Edm.Verify.Reopen
import Edm.Verify.Run

/-!
# What an id denotes

The table gives a new backup one more than its greatest key, so an id comes
back when the row with the greatest one is deleted. `OneBackupPerId` is what
the service promises by calling it the unique identifier of a backup, and
`oneBackupPerId_of_lastKept` shows it for the runs in which every backup is
created while the row of the one before it is still there.
-/

namespace Edm

open Effects Data

variable {D : Type}

/-! ## Ids of a run -/

/-- The key a request gets. -/
def allocates (w : World D) (q : Outcomes × Request D) : Option Int := allocated w q.2

def HasBackup (w : World D) (b : Int) : Prop := b ∈ w.backups.ids

/-- The id a step answered with. -/
def returnedIn (st : ServedRequest D) : Option Int :=
  match st.answer with
  | .created backupId => some backupId
  | _ => none

/-- An id denotes one backup for ever. -/
structure OneBackupPerId (steps : List (ServedRequest D)) : Prop where
  /-- No two backups were answered with one id. -/
  distinct : (steps.filterMap returnedIn).Nodup
  /-- The artifacts of a backup are left as they are by all later requests. -/
  untouched : steps.Pairwise fun st later => ∀ b, st.allocated allocates = some b →
    later.after.artifacts b = later.before.artifacts b
  /-- The rows of restores keep denoting the backup they denoted. -/
  denotes : ∀ done st rest, steps = done ++ st :: rest → ∀ row ∈ st.before.restores.rows,
    ∀ made, denoted allocates row.2.backupId done = some made →
      denoted allocates row.2.backupId steps = some made

section Runs

variable {w : World D}

theorem allocated_eq_some {q : Request D} {b : Int} (h : allocated w q = some b) :
    b = w.backups.nextId := by
  cases q <;> cases h
  rfl

/-- The table of backups gives away keys above those it holds. -/
theorem backups_allocator : Allocator (World.serve (D := D)) allocates HasBackup where
  held q w _ h := mem_ids_serveRequest q.1 w h
  fresh _ _ k h j hj := by
    rw [allocated_eq_some h]
    exact Table.lt_nextId hj

theorem ok_of_created {α : Type} {returned : α → Answer} {x : Except PyExc α × World D} {b : Int}
    (h : (answered returned x).1 = .created b) : ∃ a, x.1 = .ok a ∧ returned a = .created b := by
  obtain ⟨e | a, w'⟩ := x
  · cases h
  · exact ⟨a, rfl, h⟩

/-- A backup is answered with the key the table gave it. -/
theorem allocated_of_created {ω : Outcomes} {q : Request D} {b : Int}
    (h : (w.serveRequest ω q).1 = .created b) : allocated w q = some b := by
  have hdone {α : Type} {x : Except PyExc α × World D}
      (hx : (answered (fun _ => .done) x).1 = .created b) : allocated w q = some b := by
    obtain ⟨_, _, hdone⟩ := ok_of_created hx
    cases hdone
  cases q with
  | createEdmBackup data =>
    obtain ⟨a, ha, hab⟩ := ok_of_created h
    cases hab
    rw [run_createEdmBackup] at ha
    cases hrun : ((backupStages "mysqlbackup.cnf" w.backups.nextId).run (World.answer ω)
      (w.withBackup ω data.title)).1 with
    | error e =>
      rw [hrun] at ha
      cases ha
    | ok _ =>
      rw [hrun] at ha
      cases ha
      rfl
  | updateEdmBackup backupId data => exact hdone h
  | deleteEdmBackup backupId => exact hdone h
  | createRestore data => exact hdone h
  | updateRestore restoreId data => exact hdone h
  | deleteRestore restoreId => exact hdone h
  | changeStores stores => cases h

theorem allocated_of_returnedIn {qs : List (Outcomes × Request D)} {st : ServedRequest D}
    (hst : st ∈ history World.serve qs w) {b : Int} (h : returnedIn st = some b) :
    st.allocated allocates = some b := by
  have hserve := congrArg Prod.fst (serve_of_mem_history hst)
  unfold returnedIn at h
  split at h
  · next b' hanswer =>
    cases h
    exact allocated_of_created (hserve.trans hanswer)
  · cases h

/-- Later steps leave the artifacts of an id alone when its key is not given
away again. -/
theorem artifacts_of_mem_history {qs : List (Outcomes × Request D)} {st : ServedRequest D}
    (hst : st ∈ history World.serve qs w) {b : Int} (h : st.allocated allocates ≠ some b) :
    st.after.artifacts b = st.before.artifacts b := by
  rw [after_of_mem_history hst]
  exact artifacts_serveRequest _ _ _ _ h

end Runs

/-- **In which runs an id denotes one backup for ever**: from an empty table,
when every backup is created while the row of the one created before it is
still there. -/
theorem oneBackupPerId_of_lastKept (w : World D) (hempty : w.backups = Table.empty)
    (qs : List (Outcomes × Request D))
    (hkept : LastKept allocates HasBackup none (history World.serve qs w)) :
    OneBackupPerId (history World.serve qs w) := by
  have hkeys : KeysUpTo HasBackup none w := by
    intro k hk
    rw [HasBackup, hempty, Table.ids_empty] at hk
    cases hk
  obtain ⟨-, hpairs⟩ := backups_allocator.increasing hkeys hkept
  refine ⟨?_, ?_, ?_⟩
  · refine List.pairwise_filterMap.2 (hpairs.imp_of_mem ?_)
    intro st later hst hlater hlt b hb c hc
    exact (hlt b (allocated_of_returnedIn hst hb) c (allocated_of_returnedIn hlater hc)).ne
  · refine hpairs.imp_of_mem ?_
    intro st later _ hlater hlt b hb
    apply artifacts_of_mem_history hlater
    intro heq
    exact absurd (hlt b hb b heq) (lt_irrefl b)
  · intro done st rest hsteps row _ made hmade
    rw [hsteps] at hpairs ⊢
    exact denoted_append hpairs hmade

section Samples

def nightly : Outcomes × Request Nat := (.smoothNewYear, .createEdmBackup ⟨some "nightly"⟩)

theorem oneBackupPerId_of_lastKept_nightly :
    OneBackupPerId (history World.serve
      [nightly, (.smoothNewYear, .updateEdmBackup 1 ⟨some "kept"⟩), nightly] World.logsOnly) := by
  refine oneBackupPerId_of_lastKept World.logsOnly rfl _ ⟨nofun, ?_, trivial⟩
  intro l hl
  cases hl
  exact (Table.mem_ids_iff _ _).2 rfl

/-- After the only backup is deleted, the next one gets its id. -/
theorem id_given_twice :
    World.logsOnly.backups = Table.empty ∧
      (history World.serve [nightly, (.smoothNewYear, .deleteEdmBackup 1), nightly]
        World.logsOnly).filterMap returnedIn = [1, 1] ∧
      ¬OneBackupPerId (history World.serve
        [nightly, (.smoothNewYear, .deleteEdmBackup 1), nightly] World.logsOnly) := by
  have hids : (history World.serve [nightly, (.smoothNewYear, .deleteEdmBackup 1), nightly]
      World.logsOnly).filterMap returnedIn = [1, 1] := rfl
  refine ⟨rfl, hids, ?_⟩
  intro h
  have hdistinct := h.distinct
  rw [hids] at hdistinct
  exact absurd hdistinct (by decide)

end Samples

end Edm
