import Edm.Effects.Vault
import Edm.Verify.Capture
import Edm.Verify.Refusal

/-!
# Round trips

What the service is for: a vault of captures, in which a backup puts the
capture of its stores under its id. `vaultStep` says that each request of a run
whose backups succeed is a step of that vault, so a restore finds under an id
what the last backup of this id captured (`recovers_what_was_captured`).
-/

namespace Edm

open Effects Data

variable {D : Type}

/-! ## The vault -/

/-- A step that answers with the id of a backup puts its capture under the id. -/
def putsCapture (st : ServedRequest D) : Option (Int × Capture D) :=
  (returnedIn st).map fun b => (b, st.before.capture)

/-- The artifacts of the id hold the capture. -/
def Saves (w : World D) (b : Int) (c : Capture D) : Prop := (w.artifacts b).Holds w.config b c

/-- Every step of the backup succeeds, if the request is for one. -/
def BackupSucceeds (st : ServedRequest D) : Prop :=
  ∀ data, st.request.2 = .createEdmBackup data →
    Succeeds st.before.backups.nextId st.request.1 st.before

section Steps

variable {w : World D} {qs : List (Outcomes × Request D)} {st : ServedRequest D} {b : Int}

theorem exists_of_allocated {q : Request D} (h : allocated w q = some b) :
    ∃ data, q = .createEdmBackup data ∧ b = w.backups.nextId := by
  cases q <;> cases h
  exact ⟨_, rfl, rfl⟩

/-- A backup that succeeds answers with its id and saves what it captures. -/
theorem saves_createEdmBackup {ω : Outcomes} (data : TitleBody)
    (h : Succeeds w.backups.nextId ω w) :
    ((createEdmBackup data).run (World.answer ω) w).1 = .ok w.backups.nextId ∧
      Saves ((createEdmBackup data).run (World.answer ω) w).2 w.backups.nextId w.capture := by
  obtain ⟨hok, hrenewed⟩ := ((succeeds_withBackup data.title).2 h).renewed "mysqlbackup.cnf"
  rw [run_createEdmBackup, hok]
  refine ⟨rfl, ?_⟩
  unfold Saves
  rw [(sameCatalogue_backupStages _ _).config]
  exact hrenewed.holds

theorem serve_of_allocated (hst : st ∈ history World.serve qs w)
    (h : st.allocated allocates = some b) (hsucc : BackupSucceeds st) :
    returnedIn st = some b ∧ Saves st.after b st.before.capture := by
  obtain ⟨data, hdata, rfl⟩ := exists_of_allocated h
  have hsaves := saves_createEdmBackup data (hsucc data hdata)
  have hserve : answered .created ((createEdmBackup data).run _ _) = _ :=
    serveRequest_of_mem_history hst hdata
  rcases hrun : (createEdmBackup data).run (World.answer st.request.1) st.before with ⟨r, w'⟩
  rw [hrun] at hserve hsaves
  obtain ⟨hr, hsaves⟩ := hsaves
  simp only at hr
  subst hr
  obtain ⟨hanswer, hafter⟩ := Prod.mk.inj hserve
  unfold returnedIn
  rw [← hanswer, ← hafter]
  exact ⟨rfl, hsaves⟩

/-- **Each request is a step of the vault.** -/
theorem vaultStep (hst : st ∈ history World.serve qs w) (hsucc : BackupSucceeds st) :
    VaultStep putsCapture Saves st where
  stored b c hput := by
    unfold putsCapture at hput
    obtain ⟨b', hreturned, heq⟩ := Option.map_eq_some_iff.1 hput
    cases heq
    exact (serve_of_allocated hst (allocated_of_returnedIn hst hreturned) hsucc).2
  kept b c hput hbefore := by
    have hallocated : st.allocated allocates ≠ some b := by
      intro h
      have hreturned := (serve_of_allocated hst h hsucc).1
      exact hput st.before.capture (by rw [putsCapture, hreturned]; rfl)
    have hconfig : st.after.config = st.before.config := by
      rw [after_of_mem_history hst]
      exact config_serveRequest _ _ _
    unfold Saves
    rw [artifacts_of_mem_history hst hallocated, hconfig]
    exact hbefore

/-- A restore that is answered without an error recovers what its id saves. -/
theorem recovered_of_createRestore {data : RestoreBody} {c : Capture D}
    (hst : st ∈ history World.serve qs w) (hdata : st.request.2 = .createRestore data)
    (hdone : st.answer = .done) (hmysql : ∃ reached, st.request.1.mysql = .exited 0 reached)
    (hsaves : Saves st.before data.backupId c) : Recovered c st.after.stores := by
  have hserve : answered (fun _ => .done) ((createRestore data).run _ _) = _ :=
    serveRequest_of_mem_history hst hdata
  rw [run_createRestore] at hserve
  cases hkey : st.before.requestedKey st.request.1 data with
  | error e =>
    rw [hkey] at hserve
    obtain ⟨hanswer, -⟩ := Prod.mk.inj hserve
    rw [hdone] at hanswer
    cases hanswer
  | ok key =>
    rw [hkey] at hserve
    simp only at hserve
    rcases hrun : (restoreStages "mysqlbackup.cnf" data.backupId).run (World.answer st.request.1)
      (st.before.withRestore key data) with ⟨e | _, w'⟩
    · rw [hrun] at hserve
      obtain ⟨hanswer, -⟩ := Prod.mk.inj hserve
      rw [hdone] at hanswer
      cases hanswer
    · rw [hrun] at hserve
      obtain ⟨-, hafter⟩ := Prod.mk.inj hserve
      rw [← hafter]
      exact Artifacts.Holds.recovered (w := st.before.withRestore key data) hsaves hmysql hrun

end Steps

/-- **A restore brings back what the backup of its id captured**, in every run
whose backups succeed, if no other backup was answered with that id, whatever
else ran in between. -/
theorem recovers_what_was_captured (w : World D) (qs : List (Outcomes × Request D))
    (hsucc : ∀ st ∈ history World.serve qs w, BackupSucceeds st)
    {done since rest : List (ServedRequest D)} {made st : ServedRequest D}
    (hsteps : history World.serve qs w = done ++ made :: since ++ st :: rest) {data : RestoreBody}
    (hmade : returnedIn made = some data.backupId)
    (honce : ∀ other ∈ done ++ since ++ st :: rest, returnedIn other ≠ some data.backupId)
    (hdata : st.request.2 = .createRestore data) (hdone : st.answer = .done)
    (hmysql : ∃ reached, st.request.1.mysql = .exited 0 reached) :
    Recovered made.before.capture st.after.stores := by
  have hmem {st' : ServedRequest D} (h : st' ∈ done ++ made :: since ++ st :: rest) :
      st' ∈ history World.serve qs w := hsteps ▸ h
  have hsaves : Saves st.before data.backupId made.before.capture := by
    have hput : putsCapture made = some (data.backupId, made.before.capture) := by
      rw [putsCapture, hmade]
      rfl
    obtain ⟨other, hother, c, hput', hsaves⟩ := exists_held hsteps
      (fun st' hst' => vaultStep (hmem (List.mem_append_left _ hst'))
        (hsucc st' (hmem (List.mem_append_left _ hst'))))
      ⟨made, List.mem_append_right _ List.mem_cons_self, _, hput⟩
    have hreturned : returnedIn other = some data.backupId ∧ other.before.capture = c := by
      obtain ⟨b, hreturned, heq⟩ := Option.map_eq_some_iff.1 hput'
      cases heq
      exact ⟨hreturned, rfl⟩
    rcases List.mem_append.1 hother with hdone | hsince
    · exact absurd hreturned.1 (honce other (by simp [hdone]))
    · rcases List.mem_cons.1 hsince with rfl | hsince
      · exact hreturned.2 ▸ hsaves
      · exact absurd hreturned.1 (honce other (by simp [hsince]))
  exact recovered_of_createRestore (hmem (List.mem_append_right _ List.mem_cons_self)) hdata hdone
    hmysql hsaves

section Samples

/-- A backup, a change of all stores, another backup and a restore of the first. -/
def thereAndBack : List (Outcomes × Request Nat) :=
  [nightly,
    (.smoothNewYear, .changeStores ⟨.single "logs" ⟨8, false⟩, fun _ => none, fun _ => some 9⟩),
    nightly, restoreOf 1]

def thereAndBackSteps : List (ServedRequest Nat) := history World.serve thereAndBack World.busy

theorem recovers_what_was_captured_thereAndBack :
    Recovered World.busy.capture thereAndBackSteps[3].after.stores := by
  refine recovers_what_was_captured World.busy thereAndBack (fun st hst data _ => ?_)
    (show thereAndBackSteps = [] ++ thereAndBackSteps[0] ::
      [thereAndBackSteps[1], thereAndBackSteps[2]] ++ thereAndBackSteps[3] :: [] from rfl)
    rfl (by decide) rfl rfl ⟨_, rfl⟩
  unfold thereAndBack at hst
  simp only [history_cons, history_nil, List.mem_cons, List.not_mem_nil, or_false] at hst
  rcases hst with rfl | rfl | rfl | rfl <;> exact succeeds_smooth _ rfl

end Samples

end Edm
