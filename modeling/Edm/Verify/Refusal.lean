import Edm.Verify.Ids

/-!
# Restores of backups that are not in the catalogue

`create_restore` commits its row and goes to work without a look at the table
of backups. `RefusesUnknown` is what one would expect of a restore of a backup
without a row, and `refusesUnknown_iff` says in which runs it is met: where a
restore of such a backup already fails on its own row.
-/

namespace Edm

open Effects Data

variable {D : Type}

section Keys

variable {ρ : Type} {ω : Outcomes} {w : World D}

/-- SQLite finds no key for a row that names none: the greatest key of 64 bits is
taken, and so is the one it has drawn. -/
def NoKeyLeft (ω : Outcomes) (t : Table ρ) : Prop :=
  storable t.nextId = false ∧
    (storable ω.drawnKey = false ∨ (t.find? ω.drawnKey).isSome = true)

/-- The row of a restore cannot be committed: one of its numbers does not fit
into its column, the body names a key that is no number or is taken, or it names
none and no key is left. -/
def CannotCommit (ω : Outcomes) (restores : Table Restore) (data : RestoreBody) : Prop :=
  storable data.backupId = false ∨ data.id = .other ∨
    (∃ id, data.id.named = some id ∧
      (storable id = false ∨ (restores.find? id).isSome = true)) ∨
    data.id.named = none ∧ NoKeyLeft ω restores

theorem newKey_eq_error_iff {t : Table ρ} :
    (∃ e, World.newKey ω t = .error e) ↔ NoKeyLeft ω t := by
  unfold World.newKey NoKeyLeft
  cases storable t.nextId with
  | true => simp
  | false => cases storable ω.drawnKey <;> cases (t.find? ω.drawnKey) <;> simp

theorem freeKey_eq_error_iff {t : Table ρ} {id : Int} :
    (∃ e, World.freeKey t id = .error e) ↔ (t.find? id).isSome = true := by
  unfold World.freeKey
  cases (t.find? id).isSome <;> simp

/-- `CannotCommit` lists every way to fail on the row. -/
theorem requestedKey_eq_error_iff {data : RestoreBody} :
    (∃ e, w.requestedKey ω data = .error e) ↔ CannotCommit ω w.restores data := by
  obtain ⟨title, id, backupId⟩ := data
  unfold CannotCommit World.requestedKey World.restoreKey
  cases hbackup : storable backupId with
  | false => simp
  | true =>
    cases id with
    | absent => simp [BodyId.truthy, BodyId.named, newKey_eq_error_iff]
    | integer n =>
      by_cases hn : n = 0
      · simp [BodyId.truthy, BodyId.named, hn, newKey_eq_error_iff]
      · cases hid : storable n <;>
          simp [BodyId.truthy, BodyId.named, hn, hid, freeKey_eq_error_iff]
    | text n =>
      cases hid : storable n <;> simp [BodyId.truthy, BodyId.named, hid, freeKey_eq_error_iff]
    | other => simp [BodyId.truthy]

theorem not_cannotCommit_of_requestedKey {data : RestoreBody} {key : Int}
    (h : w.requestedKey ω data = .ok key) : ¬CannotCommit ω w.restores data := by
  rw [← requestedKey_eq_error_iff]
  rintro ⟨e, he⟩
  rw [h] at he
  cases he

end Keys

/-- A step that asks for a restore of a backup without a row is answered with an
error, and the restores and the three stores are left as they are. -/
def RefusesUnknown (st : ServedRequest D) : Prop :=
  ∀ data, st.request.2 = .createRestore data → st.before.backups.find? data.backupId = none →
    (∃ e, st.answer = .raised e) ∧ st.after.restores = st.before.restores ∧
      st.after.stores = st.before.stores

/-- A step that asks for a restore of a backup without a row cannot commit the
row of the restore. -/
def FailsToCommit (st : ServedRequest D) : Prop :=
  ∀ data, st.request.2 = .createRestore data → st.before.backups.find? data.backupId = none →
    CannotCommit st.request.1 st.before.restores data

section Steps

variable {w : World D} {qs : List (Outcomes × Request D)} {st : ServedRequest D}

/-- The row of a restore is there however the restore ends. -/
theorem restores_createRestore {ω : Outcomes} {data : RestoreBody} {key : Int}
    (h : w.requestedKey ω data = .ok key) :
    ((createRestore data).run (World.answer ω) w).2.restores.find? key =
      some ⟨data.title, data.backupId⟩ := by
  rw [run_createRestore, h]
  show (World.restores (Prod.snd _)).find? key = _
  rw [(sameCatalogue_restoreStages _ _).restores]
  exact Table.find?_put_self ..

/-- A restore whose row cannot be committed does nothing. -/
theorem createRestore_of_error {ω : Outcomes} {data : RestoreBody} {e : PyExc}
    (h : w.requestedKey ω data = .error e) :
    (createRestore data).run (World.answer ω) w = (.error e, w) := by
  rw [run_createRestore, h]

/-- One step refuses a backup without a row just if it fails on the row of the restore. -/
theorem refusesUnknown_step_iff (hst : st ∈ history World.serve qs w) :
    RefusesUnknown st ↔ FailsToCommit st := by
  refine forall_congr' fun data => forall_congr' fun hdata => forall_congr' fun _ => ?_
  have hserve : answered (fun _ => .done) ((createRestore data).run _ _) = _ :=
    serveRequest_of_mem_history hst hdata
  rw [← requestedKey_eq_error_iff]
  constructor
  · rintro ⟨-, hrestores, -⟩
    cases hkey : st.before.requestedKey st.request.1 data with
    | error e => exact ⟨e, rfl⟩
    | ok key =>
      -- the row of the restore is in the table after the step and was not before
      have hrow := restores_createRestore (ω := st.request.1) hkey
      rw [← answered_snd (fun _ => Answer.done), hserve, hrestores,
        (World.restoreKey_eq_ok hkey).2] at hrow
      cases hrow
  · rintro ⟨e, he⟩
    rw [createRestore_of_error he] at hserve
    obtain ⟨hanswer, hafter⟩ := Prod.mk.inj hserve
    rw [← hanswer, ← hafter]
    exact ⟨⟨e, rfl⟩, rfl, rfl⟩

end Steps

/-- **In which runs no backup is restored that is not in the catalogue**: those
in which every restore of one fails on its own row. -/
theorem refusesUnknown_iff (w : World D) (qs : List (Outcomes × Request D)) :
    (∀ st ∈ history World.serve qs w, RefusesUnknown st) ↔
      ∀ st ∈ history World.serve qs w, FailsToCommit st :=
  forall_congr' fun _ => forall_congr' refusesUnknown_step_iff

section Samples

def restoreOf (backupId : Int) : Outcomes × Request Nat :=
  (.smoothNewYear, .createRestore ⟨some "restore", .absent, backupId⟩)

/-- The steps of a run that deletes its only backup and restores it. -/
def deletedBackup : List (ServedRequest Nat) :=
  history World.serve [nightly, (.smoothNewYear, .deleteEdmBackup 1), restoreOf 1] World.logsOnly

/-- The only step of a run that restores a backup that was never there. -/
def neverBackedUp : List (ServedRequest Nat) :=
  history World.serve [restoreOf 7] World.logsOnly

/-- A deleted backup is restored and the answer is no error. A restore of a
backup that was never there raises, but its row stays and the index is closed. -/
theorem unknown_backups_restored :
    (deletedBackup.map (·.answer) = [.created 1, .done, .done] ∧
      ¬∀ st ∈ deletedBackup, RefusesUnknown st) ∧
    (neverBackedUp.map (·.answer) = [.raised restoreFailed] ∧
      neverBackedUp.map (fun st => st.after.restores.rows.length) = [1] ∧
      neverBackedUp.map (fun st => (st.after.cluster.indices.get? "logs").map (·.isOpen)) =
        [some false] ∧
      ¬∀ st ∈ neverBackedUp, RefusesUnknown st) := by
  refine ⟨⟨rfl, fun h => ?_⟩, rfl, rfl, rfl, fun h => ?_⟩
  · obtain ⟨⟨e, he⟩, -⟩ := h deletedBackup[2] (List.getElem_mem (by decide)) _ rfl rfl
    cases he
  · obtain ⟨-, hrestores, -⟩ := h neverBackedUp[0] (List.getElem_mem (by decide)) _ rfl rfl
    have hrows := congrArg (·.rows.length) hrestores
    cases hrows

end Samples

end Edm
