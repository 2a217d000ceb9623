import Edm.Effects.Vault
import Edm.Service.Controllers
import Edm.Verify.Leftovers

/-!
# What the answers of the Java service say

The controllers answer `OK` whenever they find their script. `TrueAnswer` is
what the answer says, and `trueAnswers_of_allGoWell` shows it for the runs in
which every script does its work, the restores name the one id there is, and
the last backup before a restore captured all that the earlier ones did.
-/

namespace Edm

open Effects Data

variable {D : Type}

/-! ## Restores that go well -/

section Restore

/-- The calls of a restore of `snapshot` are let through, or the close is
refused where it is not needed, and its processes exit zero. -/
structure RestoreSmooth (ω : Outcomes) (w : World D) (snapshot : Snapshot D) : Prop where
  settings : ∃ settings, w.config.destSettings = .ok settings
  reaches : RestoreReaches ω
  closed : ω.es .closeIndices = none ∨
    ∀ i content, snapshot.get? i = some content → ¬w.cluster.IsOpen i
  restored : ω.es .restoreSnapshot = none
  copied : ∃ reached, ω.copyFromLocal = .exited 0 reached
  sourced : ∃ reached, ω.mysql = .exited 0 reached

variable {b : Int} {ω : Outcomes} {w w' : World D} {c c' : Capture D}

theorem RestoreSmooth.noConflict {snapshot : Snapshot D} (hω : RestoreSmooth ω w snapshot)
    (repository : String) : (atRestore b ω w repository).conflicts snapshot = false := by
  rcases hω.closed with hclose | hclosed
  · rw [atRestore_of_closes hclose]
    exact (Cluster.allClosed_setOpen_false _).conflicts _
  · unfold atRestore Cluster.setOpenIf
    split
    · exact (Cluster.allClosed_setOpen_false _).conflicts _
    · exact Cluster.conflicts_eq_false hclosed

/-- From artifacts that hold a capture a smooth restore returns. -/
theorem RestoreSmooth.returns (hω : RestoreSmooth ω w c.indices)
    (h : (w.artifacts b).Holds w.config b c) (cnf : String) :
    ((restoreStages cnf b).run (World.answer ω) w).1 = .ok () := by
  have hindices : ∃ w₁, (restoreIndicesFromFsToDest w.config b).run (World.answer ω) w =
      (.ok (), w₁) ∧ w₁.artifacts b = w.artifacts b := by
    have hartifacts := artifacts_restoreIndices (ω := ω) (w := w) w.config b b
    have hend := restore_end w.config b ω w
    rcases hrun : (restoreIndicesFromFsToDest w.config b).run (World.answer ω) w with ⟨r, w₁⟩
    rw [hrun] at hend hartifacts
    cases hend with
    | noSettings hset' =>
      obtain ⟨settings, hset⟩ := hω.settings
      rw [hset] at hset'
      cases hset'
    | unreached _ hreach => exact absurd hω.reaches hreach
    | @unrestored repository _ _ _ hno =>
      have haccepts : RestoreAccepts w.config b ω w repository c.indices :=
        ⟨h.snapshot, hω.noConflict repository, hω.restored⟩
      exact absurd haccepts (hno _)
    | restored => exact ⟨_, rfl, hartifacts⟩
  obtain ⟨w₁, hrun, hartifacts⟩ := hindices
  rw [← hartifacts] at h
  obtain ⟨reached, hcopied⟩ := hω.copied
  obtain ⟨reached', hsourced⟩ := hω.sourced
  have hcopy : w₁.runCopyFromLocal (hdfsDir b) "/hdfs" ω.copyFromLocal =
      (.ok 0, w₁.copiedIn (hdfsDir b) "/hdfs" fun _ => true) :=
    World.runCopyFromLocal_eq_ok_zero_iff.2 ⟨⟨reached, hcopied⟩, h.hasHdfs, rfl⟩
  have hsource := World.runMysqlSource_zero
    (w := w₁.copiedIn (hdfsDir b) "/hdfs" fun _ => true) reached' h.dump
  have hend := restoreStages_end b ω w cnf
  generalize ((restoreStages cnf b).run (World.answer ω) w).1 = r at hend ⊢
  generalize ((restoreStages cnf b).run (World.answer ω) w).2 = w' at hend
  cases hend with
  | unrestored h' =>
    rw [hrun] at h'
    cases h'
  | uncopied h' hcopy' =>
    rw [hrun] at h'
    cases h'
    rw [hcopy] at hcopy'
    cases hcopy'
  | copied h' hcopy' =>
    rw [hrun] at h'
    cases h'
    rw [hcopy] at hcopy'
    cases hcopy'
    rw [hsourced, hsource]
    rfl

/-- What is in `c` is in `c'`. -/
structure Capture.Within (c c' : Capture D) : Prop where
  indices : ∀ i content, c.indices.get? i = some content → c'.indices.get? i = some content
  hdfs : ∀ rel content, c.hdfs rel = some content → c'.hdfs rel = some content
  mysql : ∀ t content, c.mysql t = some content → c'.mysql t = some content

theorem Recovered.of_within {stores : Stores D} (h : c.Within c') (hc' : Recovered c' stores) :
    Recovered c stores where
  indices i content hi := hc'.indices i content (h.indices i content hi)
  hdfs rel content hrel := hc'.hdfs rel content (h.hdfs rel content hrel)
  mysql t content ht := hc'.mysql t content (h.mysql t content ht)

end Restore

/-! ## Answers -/

/-- The answer is `HttpStatus.OK`. -/
def JavaAnswer.isOk : JavaAnswer → Bool
  | .response entity => entity.statusCode = .ok
  | _ => false

/-- The step answered that it made a backup, and its id is `backupId`. -/
structure Makes (backupId : String) (st : ServedJava D) : Prop where
  request : st.request.2 = .createBackup
  answer : st.answer.isOk = true
  named : ∃ b, (doBackup.run (World.answer st.request.1.script) st.before).1 = .ok b ∧
    backupId = str b

/-- What the answer of a step says, given the steps before it: the backup was
made, or the script exited zero and restored the backup of this id. -/
structure TrueAnswer (earlier : List (ServedJava D)) (st : ServedJava D) : Prop where
  backup : st.request.2 = .createBackup → st.answer.isOk = true →
    (doBackup.run (World.answer st.request.1.script) st.before).1 = .ok 3 ∧
      Backed 3 st.before st.after (doBackup.log (World.answer st.request.1.script) st.before)
  restore : ∀ backupId, st.request.2 = .restoreBackup backupId → st.answer.isOk = true →
    (RestoreApiController.runScript st.request.1 st.before).1 = 0 ∧
      (∃ made ∈ earlier, Makes backupId made) ∧
      ∀ made ∈ earlier, Makes backupId made → Recovered made.before.capture st.after.stores

/-- A backup was asked for, and its script ran. -/
def RanBackup (st : ServedJava D) : Prop :=
  st.request.2 = .createBackup ∧ st.request.1.hasScript = true ∧ st.request.1.execRaises = false

instance (q : JavaRequest D) : Decidable (q = .createBackup) :=
  match q with
  | .createBackup => .isTrue rfl
  | .restoreBackup _ => .isFalse nofun
  | .changeStores _ => .isFalse nofun

instance (st : ServedJava D) : Decidable (RanBackup st) := inferInstanceAs (Decidable (_ ∧ _ ∧ _))

/-- A backup whose script ran puts its capture under the id of the scripts. -/
def putsScriptCapture (st : ServedJava D) : Option (Int × Capture D) :=
  if RanBackup st then some (3, st.before.capture) else none

/-- What the last backup captured. -/
def lastCapture (steps : List (ServedJava D)) : Option (Capture D) :=
  vaultAfter putsScriptCapture steps (fun _ => none) 3

/-- Everything goes well in a step, given the steps before it. -/
structure GoesWell (earlier : List (ServedJava D)) (st : ServedJava D) : Prop where
  /-- Every step of the backup succeeds. -/
  backup : RanBackup st → Succeeds 3 st.request.1.script st.before
  /-- The restore runs, for the id of the scripts. A backup was made before, of
  all that the backups before it captured, and to restore it is smooth. -/
  restore : ∀ backupId, st.request.2 = .restoreBackup backupId → st.request.1.hasScript = true →
    st.request.1.execRaises = false ∧ backupId = "3" ∧
      ∃ c, lastCapture earlier = some c ∧ RestoreSmooth st.request.1.script st.before c.indices ∧
        ∀ made ∈ earlier, RanBackup made → made.before.capture.Within c

/-! ## Requests -/

section Requests

variable (p : Platform) (w : World D)

theorem serveJava_createBackup :
    World.serveJava (p, .createBackup) w =
      if p.hasScript then
        if p.execRaises then (.raised .ioException, w)
        else (.response ⟨some "Backup Completed", .ok⟩,
          (doBackup.run (World.answer p.script) w).2)
      else (.response ⟨some "Cannot create backup", .expectationFailed⟩, w) := by
  simp only [World.serveJava, BackupApiController.createBackup, BackupApiController.runScript]
  cases p.hasScript <;> cases p.execRaises <;> rfl

theorem serveJava_restoreBackup (backupId : String) :
    World.serveJava (p, .restoreBackup backupId) w =
      if p.hasScript then (.response ⟨some "Restore Completed", .ok⟩,
        if p.execRaises then w else (doRestore.run (World.answer p.script) w).2)
      else (.response ⟨none, .expectationFailed⟩, w) := by
  simp only [World.serveJava, RestoreApiController.restoreBackup, RestoreApiController.runScript]
  cases p.hasScript <;> cases p.execRaises <;> rfl

end Requests

section Steps

variable {w : World D} {qs : List (Platform × JavaRequest D)} {st : ServedJava D}

theorem serveJava_of_mem_history (hst : st ∈ history World.serveJava qs w) {q : JavaRequest D}
    (hq : st.request.2 = q) :
    World.serveJava (st.request.1, q) st.before = (st.answer, st.after) := by
  rw [← hq]
  exact serve_of_mem_history hst

/-- A backup is answered with `OK` exactly when its script ran. -/
theorem ranBackup_iff (hst : st ∈ history World.serveJava qs w) :
    RanBackup st ↔ st.request.2 = .createBackup ∧ st.answer.isOk = true := by
  apply and_congr_right
  intro hrequest
  have hserve := serveJava_of_mem_history hst hrequest
  rw [serveJava_createBackup] at hserve
  have hanswer := congrArg Prod.fst hserve
  simp only at hanswer
  rw [← hanswer]
  cases st.request.1.hasScript <;> cases st.request.1.execRaises <;> simp [JavaAnswer.isOk]

/-- What a step may leave behind. -/
inductive StepLeaves (st : ServedJava D) : Prop where
  | ranBackup (h : RanBackup st)
      (hafter : st.after = (doBackup.run (World.answer st.request.1.script) st.before).2)
  | ranRestore (h : ¬RanBackup st)
      (hafter : st.after = (doRestore.run (World.answer st.request.1.script) st.before).2)
  | changedStores (h : ¬RanBackup st) {stores : Stores D}
      (hafter : st.after = st.before.withStores stores)
  | ranNothing (h : ¬RanBackup st) (hafter : st.after = st.before)

theorem stepLeaves (hst : st ∈ history World.serveJava qs w) : StepLeaves st := by
  obtain ⟨before, ⟨p, q⟩, answer, after⟩ := st
  have hserve := serveJava_of_mem_history hst rfl
  have hafter := (congrArg Prod.snd hserve).symm
  cases q with
  | createBackup =>
    rw [serveJava_createBackup] at hafter
    cases hscript : p.hasScript with
    | false =>
      rw [hscript] at hafter
      refine .ranNothing ?_ hafter
      rintro ⟨-, hran, -⟩
      cases hscript.symm.trans hran
    | true =>
      rw [hscript] at hafter
      cases hexec : p.execRaises with
      | true =>
        rw [hexec] at hafter
        refine .ranNothing ?_ hafter
        rintro ⟨-, -, hran⟩
        cases hexec.symm.trans hran
      | false =>
        rw [hexec] at hafter
        exact .ranBackup ⟨rfl, hscript, hexec⟩ hafter
  | restoreBackup backupId =>
    have hno : ¬RanBackup ⟨before, (p, JavaRequest.restoreBackup backupId), answer, after⟩ :=
      fun h => nomatch h.1
    rw [serveJava_restoreBackup] at hafter
    cases hscript : p.hasScript with
    | false =>
      rw [hscript] at hafter
      exact .ranNothing hno hafter
    | true =>
      rw [hscript] at hafter
      cases hexec : p.execRaises with
      | true =>
        rw [hexec] at hafter
        exact .ranNothing hno hafter
      | false =>
        rw [hexec] at hafter
        exact .ranRestore hno hafter
  | changeStores stores => exact .changedStores (fun h => nomatch h.1) hafter

theorem after_of_ranBackup (hst : st ∈ history World.serveJava qs w) (h : RanBackup st) :
    st.after = (doBackup.run (World.answer st.request.1.script) st.before).2 := by
  cases stepLeaves hst with
  | ranBackup _ hafter => exact hafter
  | ranRestore hno | changedStores hno | ranNothing hno => exact absurd h hno

/-- Only a backup whose script ran changes the artifacts. -/
theorem artifacts_of_not_ranBackup (hst : st ∈ history World.serveJava qs w)
    (h : ¬RanBackup st) : st.after.artifacts 3 = st.before.artifacts 3 := by
  cases stepLeaves hst with
  | ranBackup hran => exact absurd hran h
  | ranRestore _ hafter =>
    rw [hafter]
    exact artifacts_restoreStages 3 3 _
  | changedStores _ hafter =>
    rw [hafter]
    rfl
  | ranNothing _ hafter => rw [hafter]

theorem config_of_step (hst : st ∈ history World.serveJava qs w) :
    st.after.config = st.before.config := by
  cases stepLeaves hst with
  | ranBackup _ hafter =>
    rw [hafter, run_doBackup]
    exact (sameCatalogue_backupStages _ _).config
  | ranRestore _ hafter =>
    rw [hafter]
    exact (sameCatalogue_restoreStages _ _).config
  | changedStores _ hafter =>
    rw [hafter]
    rfl
  | ranNothing _ hafter => rw [hafter]

end Steps

/-! ## The vault of the one id -/

section Vault

variable {w : World D} {qs : List (Platform × JavaRequest D)} {st : ServedJava D}

theorem log_doBackup (ω : Outcomes) :
    doBackup.log (World.answer ω) w =
      (backupStages "/scripts/mysqlbackup.cnf" 3).log (World.answer ω) w := by
  unfold doBackup
  rw [Prog.log_bind]
  split <;> exact List.append_nil _

theorem vaultStep_java (hst : st ∈ history World.serveJava qs w) {earlier : List (ServedJava D)}
    (hgood : GoesWell earlier st) :
    VaultStep putsScriptCapture (fun w b c => b = 3 ∧ (w.artifacts 3).Holds w.config 3 c) st where
  stored b c hput := by
    unfold putsScriptCapture at hput
    split at hput
    · next hran =>
      cases hput
      refine ⟨rfl, ?_⟩
      rw [config_of_step hst, after_of_ranBackup hst hran, run_doBackup]
      exact ((hgood.backup hran).renewed _).2.holds
    · cases hput
  kept b c hput hbefore := by
    obtain ⟨rfl, hholds⟩ := hbefore
    have hran : ¬RanBackup st := fun h => hput st.before.capture (if_pos h)
    refine ⟨rfl, ?_⟩
    rw [config_of_step hst, artifacts_of_not_ranBackup hst hran]
    exact hholds

end Vault

/-! ## The answers of a run -/

section Answers

variable {w : World D} {qs : List (Platform × JavaRequest D)} {st : ServedJava D}
  {earlier rest : List (ServedJava D)}

theorem backed_of_ranBackup (hst : st ∈ history World.serveJava qs w) (hran : RanBackup st)
    (hgood : GoesWell earlier st) :
    (doBackup.run (World.answer st.request.1.script) st.before).1 = .ok 3 ∧
      Backed 3 st.before st.after (doBackup.log (World.answer st.request.1.script) st.before) := by
  have hbacked := (backed_iff "/scripts/mysqlbackup.cnf").2 (hgood.backup hran)
  rw [after_of_ranBackup hst hran, log_doBackup, run_doBackup]
  refine ⟨?_, hbacked.2⟩
  rw [hbacked.1]
  rfl

/-- Every step goes well, given the steps before it. -/
def AllGoWell (steps : List (ServedJava D)) : Prop :=
  ∀ earlier st rest, steps = earlier ++ st :: rest → GoesWell earlier st

theorem goesWell_of_mem (hgood : AllGoWell (history World.serveJava qs w))
    (hsteps : history World.serveJava qs w = earlier ++ st :: rest) {st' : ServedJava D}
    (hst' : st' ∈ earlier) :
    st' ∈ history World.serveJava qs w ∧ ∃ before, GoesWell before st' := by
  obtain ⟨before, after, rfl⟩ := List.append_of_mem hst'
  rw [List.append_assoc, List.cons_append] at hsteps
  refine ⟨?_, before, hgood _ _ _ hsteps⟩
  rw [hsteps]
  exact List.mem_append_right _ List.mem_cons_self

/-- The last backup before a step of such a run left what it captured. -/
theorem holds_of_allGoWell
    (hgood : AllGoWell (history World.serveJava qs w))
    (hsteps : history World.serveJava qs w = earlier ++ st :: rest) {c : Capture D}
    (hlast : lastCapture earlier = some c) :
    (st.before.artifacts 3).Holds st.before.config 3 c := by
  have hvault : ∀ st' ∈ earlier, VaultStep putsScriptCapture
      (fun w b c => b = 3 ∧ (w.artifacts 3).Holds w.config 3 c) st' := by
    intro st' hst'
    obtain ⟨hmem, before, hwell⟩ := goesWell_of_mem hgood hsteps hst'
    exact vaultStep_java hmem hwell
  exact (implements_before hsteps hvault (implements_empty w) 3 c hlast).2

theorem exists_ranBackup {c : Capture D} (h : lastCapture earlier = some c) :
    ∃ made ∈ earlier, RanBackup made := by
  obtain ⟨made, hmade, c', hput⟩ := put_of_vaultAfter h rfl
  unfold putsScriptCapture at hput
  split at hput
  · next hran => exact ⟨made, hmade, hran⟩
  · cases hput

theorem hasScript_of_isOk {backupId : String} (hst : st ∈ history World.serveJava qs w)
    (hrequest : st.request.2 = .restoreBackup backupId) (hok : st.answer.isOk = true) :
    st.request.1.hasScript = true := by
  have hserve := serveJava_of_mem_history hst hrequest
  rw [serveJava_restoreBackup] at hserve
  have hanswer := congrArg Prod.fst hserve
  simp only at hanswer
  rw [← hanswer] at hok
  cases hscript : st.request.1.hasScript with
  | true => rfl
  | false =>
    rw [hscript] at hok
    cases hok

theorem after_of_restoreBackup {backupId : String} (hst : st ∈ history World.serveJava qs w)
    (hrequest : st.request.2 = .restoreBackup backupId)
    (hscript : st.request.1.hasScript = true) (hexec : st.request.1.execRaises = false) :
    st.after = (doRestore.run (World.answer st.request.1.script) st.before).2 := by
  have hserve := serveJava_of_mem_history hst hrequest
  rw [serveJava_restoreBackup, hscript, hexec] at hserve
  exact (congrArg Prod.snd hserve).symm

theorem makes_of_ranBackup (hst : st ∈ history World.serveJava qs w) (hran : RanBackup st)
    (hwell : GoesWell earlier st) : Makes "3" st where
  request := hran.1
  answer := ((ranBackup_iff hst).1 hran).2
  named := ⟨3, (backed_of_ranBackup hst hran hwell).1, rfl⟩

/-- **In which runs the answers of the Java service are true**: where every
script does its work, every restore names the one id there is, and the last
backup before it captured all that the earlier ones did. -/
theorem trueAnswers_of_allGoWell (w : World D) (qs : List (Platform × JavaRequest D))
    (hgood : AllGoWell (history World.serveJava qs w)) :
    ∀ earlier st rest, history World.serveJava qs w = earlier ++ st :: rest →
      TrueAnswer earlier st := by
  intro earlier st rest hsteps
  have hst : st ∈ history World.serveJava qs w := by
    rw [hsteps]
    exact List.mem_append_right _ List.mem_cons_self
  have hwell := hgood earlier st rest hsteps
  constructor
  · intro hrequest hok
    exact backed_of_ranBackup hst ((ranBackup_iff hst).2 ⟨hrequest, hok⟩) hwell
  · intro backupId hrequest hok
    have hscript := hasScript_of_isOk hst hrequest hok
    obtain ⟨hexec, rfl, c, hlast, hsmooth, hwithin⟩ := hwell.restore backupId hrequest hscript
    have hholds := holds_of_allGoWell hgood hsteps hlast
    have hreturns := hsmooth.returns hholds "/scripts/mysqlbackup.cnf"
    have hrecovered : Recovered c st.after.stores := by
      rw [after_of_restoreBackup hst hrequest hscript hexec]
      exact hholds.recovered hsmooth.sourced (Prod.ext hreturns rfl)
    refine ⟨?_, ?_, ?_⟩
    · unfold RestoreApiController.runScript
      rw [hexec]
      show exitStatus (doRestore.run (World.answer st.request.1.script) st.before).1 = 0
      rw [run_doRestore, hreturns]
      rfl
    · obtain ⟨made, hmade, hran⟩ := exists_ranBackup hlast
      obtain ⟨hmem, before, hmadeWell⟩ := goesWell_of_mem hgood hsteps hmade
      exact ⟨made, hmade, makes_of_ranBackup hmem hran hmadeWell⟩
    · intro made hmade hmakes
      have hmem := (goesWell_of_mem hgood hsteps hmade).1
      have hran := (ranBackup_iff hmem).2 ⟨hmakes.request, hmakes.answer⟩
      exact .of_within (hwithin made hmade hran) hrecovered

end Answers

section Samples

def requests (ω : Outcomes) (q : JavaRequest Nat) : Platform × JavaRequest Nat :=
  (⟨true, false, false, ω⟩, q)

def backedUpOnce : List (Platform × JavaRequest Nat) :=
  [requests .smoothNewYear .createBackup, requests .smoothNewYear (.restoreBackup "3")]

def backedUpOnceSteps : List (ServedJava Nat) := history World.serveJava backedUpOnce World.busy

theorem trueAnswers_of_allGoWell_backedUpOnce :
    TrueAnswer [backedUpOnceSteps[0]] backedUpOnceSteps[1] := by
  refine trueAnswers_of_allGoWell World.busy backedUpOnce (fun earlier st rest hsteps => ?_)
    [backedUpOnceSteps[0]] backedUpOnceSteps[1] [] rfl
  rcases earlier with _ | ⟨first, _ | ⟨second, earlier⟩⟩
  · obtain ⟨rfl, -⟩ := List.cons.inj hsteps
    exact ⟨fun _ => succeeds_smooth 3 rfl, nofun⟩
  · obtain ⟨rfl, hrest⟩ := List.cons.inj hsteps
    obtain ⟨rfl, -⟩ := List.cons.inj hrest
    refine ⟨fun hran => (nomatch hran.1), ?_⟩
    intro _ hrequest _
    cases hrequest
    refine ⟨rfl, rfl, World.busy.capture, rfl, ⟨⟨_, rfl⟩, ⟨rfl, rfl, rfl⟩, .inl rfl, rfl, ⟨_, rfl⟩,
      ⟨_, rfl⟩⟩, fun made hmade _ => ?_⟩
    rw [List.mem_singleton.1 hmade]
    exact ⟨fun _ _ h => h, fun _ _ h => h, fun _ _ h => h⟩
  · have hlength := congrArg List.length hsteps
    simp [backedUpOnce] at hlength

/-- A backup without a dump. -/
def dumpless : List (ServedJava Nat) :=
  history World.serveJava [requests .dumpFails .createBackup] World.busy

/-- A restore before any backup. -/
def unbacked : List (ServedJava Nat) :=
  history World.serveJava [requests .smoothNewYear (.restoreBackup "3")] World.busy

/-- A restore of another id than that of the backup. -/
def otherId : List (ServedJava Nat) :=
  history World.serveJava
    [requests .smoothNewYear .createBackup, requests .smoothNewYear (.restoreBackup "7")] World.busy

/-- Two backups of different stores and a restore. -/
def backedUpTwice : List (ServedJava Nat) :=
  history World.serveJava
    [requests .smoothNewYear .createBackup,
      requests .smoothNewYear (.changeStores { World.busy.stores with mysql := fun _ => some 9 }),
      requests .smoothNewYear .createBackup, requests .smoothNewYear (.restoreBackup "3")]
      World.busy

/-- The services answer `OK` for a backup without a dump, for a restore whose
script exits with `1`, for a restore of an id that no backup has, and for one
that restores the second backup in place of the first. -/
theorem answers_untrue :
    (dumpless[0].answer.isOk = true ∧ ¬TrueAnswer [] dumpless[0]) ∧
    (unbacked[0].answer.isOk = true ∧ ¬TrueAnswer [] unbacked[0]) ∧
    (otherId[1].answer.isOk = true ∧ ¬TrueAnswer [otherId[0]] otherId[1]) ∧
    (backedUpTwice[3].answer.isOk = true ∧
      ¬TrueAnswer [backedUpTwice[0], backedUpTwice[1], backedUpTwice[2]] backedUpTwice[3]) := by
  refine ⟨⟨rfl, fun h => ?_⟩, ⟨rfl, fun h => ?_⟩, ⟨rfl, fun h => ?_⟩, rfl, fun h => ?_⟩
  · have hdump := (h.backup rfl rfl).2.dump
    have hbroken : dumpless[0].after.files (dumpfilepath 3) =
        some (.dump ⟨fun _ => none, false⟩) := rfl
    rw [hbroken, Option.some.injEq, FileContent.dump.injEq] at hdump
    have hcompleted := congrArg Dump.completed hdump
    cases hcompleted
  · have hstatus := (h.restore "3" rfl rfl).1
    have hone :
        (RestoreApiController.runScript unbacked[0].request.1 unbacked[0].before).1 = 1 := rfl
    rw [hone] at hstatus
    cases hstatus
  · obtain ⟨made, hmade, hmakes⟩ := (h.restore "7" rfl rfl).2.1
    rw [List.mem_singleton.1 hmade] at hmakes
    obtain ⟨b, hb, hid⟩ := hmakes.named
    cases hb
    exact absurd hid (by decide)
  · have hfirst : Makes "3" backedUpTwice[0] := ⟨rfl, rfl, 3, rfl, rfl⟩
    have hsuites := ((h.restore "3" rfl rfl).2.2 _ List.mem_cons_self hfirst).mysql "suites" 7 rfl
    have hnine : backedUpTwice[3].after.stores.mysql "suites" = some 9 := rfl
    rw [hnine] at hsuites
    cases hsuites

end Samples

end Edm
