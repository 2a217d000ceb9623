import Edm.Effects.Simulation
import Edm.Service.Sites
import Edm.Verify.Survival

/-!
# From one cluster to another

A job works on one of the clusters, the one its nodes belong to, and there it
does what it does where that cluster is the only one (`takeTurn_view`). So what
holds of one cluster holds of several, and a backup of the source comes back on
the destination (`restored_elsewhere`).
-/

namespace Edm

open Effects Data

variable {ι D : Type}

/-! ## Views -/

section Views

variable [DecidableEq ι] (s : Sites ι D) (i : ι) (w : World D)

@[simp] theorem Sites.cluster_put : (s.put i w).cluster i = w.cluster := by
  unfold Sites.cluster Sites.put
  simp only [Function.update_self]

@[simp] theorem Sites.view_put : (s.put i w).view i = w := by
  unfold Sites.view
  rw [Sites.cluster_put]
  rfl

variable {i} in
theorem Sites.site_put_of_ne {j : ι} (h : j ≠ i) : (s.put i w).site j = s.site j :=
  Function.update_of_ne h _ _

end Views

/-! ## One job -/

/-- A process that works on the cluster `i` sees this world, and has left the other
clusters as they were. -/
structure Watches (i : ι) (before : ι → Site D) (config : Config) (s : Sites ι D) (w : World D) :
    Prop where
  view : s.view i = w
  others : ∀ j, j ≠ i → s.site j = before j
  config : w.config = config

/-- It is connected. -/
structure Connected (i : ι) (before : ι → Site D) (config : Config) (s : Sites ι D)
    (w : World D) : Prop extends Watches i before config s w where
  client : s.client = some i

section Answers

variable [DecidableEq ι] (nodes : List String → ι) (ω : Outcomes) {i : ι} {before : ι → Site D}
  {config : Config} {s : Sites ι D} {w : World D}

theorem watches_answer {c : Call} (hc : ∀ e, c ≠ .es e) (h : Watches i before config s w) :
    (Sites.answer nodes ω c s).1 = (World.answer ω c w).1 ∧
      Watches i before config (Sites.answer nodes ω c s).2 (World.answer ω c w).2 := by
  obtain ⟨rfl, hothers, hconfig⟩ := h
  have hconfig' := (config_answer ω c (s.view i)).trans hconfig
  cases c with
  | es e => exact absurd rfl (hc e)
  | readConfig => exact ⟨rfl, rfl, hothers, hconfig'⟩
  | host c =>
    have hanswer := World.answerHost_setCluster s.world (s.cluster i) ω c
    exact ⟨(congrArg Prod.fst hanswer).symm, (congrArg Prod.snd hanswer).symm, hothers, hconfig'⟩
  | db c =>
    have hanswer := World.answerDb_setCluster s.world (s.cluster i) ω c
    exact ⟨(congrArg Prod.fst hanswer).symm, (congrArg Prod.snd hanswer).symm, hothers, hconfig'⟩

/-- A call of the client goes to the cluster it is connected to. -/
theorem connected_answerEs (c : EsCall) (h : Connected i before config s w) :
    (s.answerEs ω c).1 = (w.answerEs ω c).1 ∧
      Connected i before config (s.answerEs ω c).2 (w.answerEs ω c).2 := by
  obtain ⟨⟨rfl, hothers, hconfig⟩, hclient⟩ := h
  unfold Sites.answerEs
  rw [hclient]
  refine ⟨rfl, ⟨Sites.view_put .., ?_, hconfig⟩, hclient⟩
  intro j hj
  exact (Sites.site_put_of_ne s _ hj).trans (hothers j hj)

theorem connected_answer {c : Call} (hc : ∀ seeds, c ≠ .es (.connect seeds))
    (h : Connected i before config s w) :
    (Sites.answer nodes ω c s).1 = (World.answer ω c w).1 ∧
      Connected i before config (Sites.answer nodes ω c s).2 (World.answer ω c w).2 := by
  cases c with
  | es c =>
    cases c with
    | connect seeds => exact absurd rfl (hc seeds)
    | info | createRepository | getSnapshot | deleteSnapshot | createSnapshot | closeIndices
      | restoreSnapshot | openIndices => exact connected_answerEs ω _ h
  | host c =>
    obtain ⟨hanswer, hwatches⟩ := watches_answer nodes ω (c := .host c) nofun h.toWatches
    exact ⟨hanswer, hwatches, h.client⟩
  | db c =>
    obtain ⟨hanswer, hwatches⟩ := watches_answer nodes ω (c := .db c) nofun h.toWatches
    exact ⟨hanswer, hwatches, h.client⟩
  | readConfig =>
    obtain ⟨hanswer, hwatches⟩ := watches_answer nodes ω (c := .readConfig) nofun h.toWatches
    exact ⟨hanswer, hwatches, h.client⟩

theorem connected_connect {seeds : List String} (hnodes : nodes seeds = i)
    (h : Watches i before config s w) :
    (Sites.answer nodes ω (.es (.connect seeds)) s).1 =
        (World.answer ω (.es (.connect seeds)) w).1 ∧
      Connected i before config (Sites.answer nodes ω (.es (.connect seeds)) s).2
        (World.answer ω (.es (.connect seeds)) w).2 := by
  subst hnodes
  exact connected_answerEs ω (.connect seeds) ⟨⟨h.view, h.others, h.config⟩, rfl⟩

end Answers

/-! ## Programs -/

section Programs

variable [DecidableEq ι] {nodes : List String → ι} {ω : Outcomes} {i : ι} {before : ι → Site D}
  {config : Config}

/-- A program that does not talk to a cluster. -/
theorem alike_calls {α : Type} {p : Py α} (h : p.Calls fun c => ∀ e, c ≠ .es e) :
    p.Alike (Sites.answer nodes ω) (World.answer ω) (Watches i before config)
      (Watches i before config) :=
  .of_calls (fun _ _ _ hc => watches_answer nodes ω hc) h

/-- A program that goes on with the connection it has. -/
theorem alike_connected {α : Type} {p : Py α}
    (h : p.Calls fun c => ∀ seeds, c ≠ .es (.connect seeds)) :
    p.Alike (Sites.answer nodes ω) (World.answer ω) (Connected i before config)
      (Connected i before config) :=
  .of_calls (fun _ _ _ hc => connected_answer nodes ω hc) h

theorem alike_connect {seeds : List String} (hnodes : nodes seeds = i) :
    (esCall (.connect seeds)).Alike (Sites.answer nodes ω) (World.answer ω)
      (Watches i before config) (Connected i before config) :=
  .perform fun _ _ => connected_connect nodes ω hnodes

/-- A program that connects and goes on, and swallows or replaces what is raised. -/
theorem alike_connecting {seeds : List String} {p : Unit → Py Unit} {handler : PyExc → Py Unit}
    (hnodes : nodes seeds = i)
    (hp : (p ()).Calls fun c => ∀ seeds, c ≠ .es (.connect seeds))
    (hh : ∀ e, (handler e).Calls fun c => ∀ seeds, c ≠ .es (.connect seeds)) :
    (Prog.tryCatch (esCall (.connect seeds) >>= p) handler).Alike (Sites.answer nodes ω)
      (World.answer ω) (Watches i before config) (Watches i before config) := by
  refine .tryCatch (Q := Connected i before config) ?_ ?_ fun _ _ => Connected.toWatches
  · refine .bind (alike_connect hnodes) ?_ fun _ _ => id
    intro _ _
    exact alike_connected hp
  · intro e
    exact (alike_connected (hh e)).weaken fun _ _ => Connected.toWatches

theorem alike_snapshotIndices {config' : Config} (backupId : Int)
    (hnodes : ∀ esFsRepo seeds, config'.srcSettings = .ok (esFsRepo, seeds) → nodes seeds = i) :
    (snapshotIndicesFromSrcToFs config' backupId).Alike (Sites.answer nodes ω) (World.answer ω)
      (Watches i before config) (Watches i before config) := by
  refine .bind (.ofExcept _) ?_ fun _ _ => id
  rintro ⟨esFsRepo, seeds⟩ ⟨s, t, -, hset⟩
  rw [Prog.run_ofExcept] at hset
  refine alike_connecting (hnodes _ _ hset) ?_ ?_
  · refine .bind (calls_esCall nofun) fun _ => .bind (calls_esCall nofun) fun _ => ?_
    refine .bind (.ofExcept _) fun snapshotName => .bind ?_ fun _ => calls_esCall nofun
    refine .tryCatch (.bind (calls_esCall nofun) fun _ => calls_esCall nofun) ?_
    exact calls_exceptException fun _ => .pure ()
  · exact calls_exceptException fun _ => .pure ()

theorem alike_restoreIndices {config' : Config} (backupId : Int)
    (hnodes : ∀ esFsRepo seeds, config'.destSettings = .ok (esFsRepo, seeds) → nodes seeds = i) :
    (restoreIndicesFromFsToDest config' backupId).Alike (Sites.answer nodes ω) (World.answer ω)
      (Watches i before config) (Watches i before config) := by
  refine .bind (.ofExcept _) ?_ fun _ _ => id
  rintro ⟨esFsRepo, seeds⟩ ⟨s, t, -, hset⟩
  rw [Prog.run_ofExcept] at hset
  refine alike_connecting (hnodes _ _ hset) ?_ ?_
  · refine .bind (calls_esCall nofun) fun _ => .bind (calls_esCall nofun) fun _ => ?_
    refine .bind (calls_closeIndices nofun) fun _ => .bind (.ofExcept _) fun snapshotName => ?_
    exact .bind (calls_esCall nofun) fun _ => calls_reopenIndices nofun
  · exact calls_exceptException fun _ => .raise _

/-- What goes on with the config. -/
theorem alike_withConfig {p : Config → Py Unit}
    (h : (p config).Alike (Sites.answer nodes ω) (World.answer ω) (Watches i before config)
      (Watches i before config)) :
    (readConfig >>= p).Alike (Sites.answer nodes ω) (World.answer ω) (Watches i before config)
      (Watches i before config) := by
  refine .bind (alike_calls (calls_readConfig nofun)) ?_ fun _ _ => id
  rintro config' ⟨s, w, hw, hread⟩
  rw [run_readConfig, hw.config] at hread
  cases hread
  exact h

theorem alike_backupStages (cnf : String) (backupId : Int)
    (hnodes : ∀ esFsRepo seeds, config.srcSettings = .ok (esFsRepo, seeds) → nodes seeds = i) :
    (backupStages cnf backupId).Alike (Sites.answer nodes ω) (World.answer ω)
      (Watches i before config) (Watches i before config) := by
  refine alike_withConfig (.bind (alike_snapshotIndices backupId hnodes) ?_ fun _ _ => id)
  intro _ _
  refine alike_calls (.bind (calls_checkOutput (calls_hostCall (fun _ => nofun) _)) ?_)
  exact fun _ => calls_dumpMysql (fun _ => nofun) cnf backupId

theorem alike_restoreStages (cnf : String) (backupId : Int)
    (hnodes : ∀ esFsRepo seeds, config.destSettings = .ok (esFsRepo, seeds) → nodes seeds = i) :
    (restoreStages cnf backupId).Alike (Sites.answer nodes ω) (World.answer ω)
      (Watches i before config) (Watches i before config) := by
  refine alike_withConfig (.bind (alike_restoreIndices backupId hnodes) ?_ fun _ _ => id)
  intro _ _
  refine alike_calls (.bind (calls_checkOutput (calls_hostCall (fun _ => nofun) _)) fun _ => ?_)
  refine .bind (calls_hostCall (fun _ => nofun) _) fun returncode => ?_
  split
  · exact .raise _
  · exact .pure ()

end Programs

/-! ## Jobs -/

section Jobs

variable (nodes : List String → ι)

def Config.source (config : Config) : Option ι :=
  match config.srcSettings with
  | .ok (_, seeds) => some (nodes seeds)
  | .error _ => none

def Config.destination (config : Config) : Option ι :=
  match config.destSettings with
  | .ok (_, seeds) => some (nodes seeds)
  | .error _ => none

/-- The cluster that a job works on, if it works on any. -/
def SiteTurn.cluster? (config : Config) (turn : SiteTurn ι D) : Option ι :=
  match turn.job with
  | .request (.createEdmBackup _) => config.source nodes
  | .request (.createRestore _) => config.destination nodes
  | .request (.changeStores _) => some turn.users
  | .script .backup => config.source nodes
  | .script .restore => config.destination nodes
  | .esutils .backup => config.source nodes
  | .esutils .restore => config.destination nodes
  | _ => none

variable {nodes} {i : ι} {config : Config}

theorem nodes_of_source (h : ∀ j, config.source nodes = some j → j = i) {esFsRepo : String}
    {seeds : List String} (hset : config.srcSettings = .ok (esFsRepo, seeds)) :
    nodes seeds = i := by
  refine h _ ?_
  rw [Config.source, hset]

theorem nodes_of_destination (h : ∀ j, config.destination nodes = some j → j = i)
    {esFsRepo : String} {seeds : List String}
    (hset : config.destSettings = .ok (esFsRepo, seeds)) : nodes seeds = i := by
  refine h _ ?_
  rw [Config.destination, hset]

variable [DecidableEq ι] {ω : Outcomes} {before : ι → Site D}

theorem alike_esutilsMain (mode : Mode)
    (hsource : mode = .backup → ∀ esFsRepo seeds,
      config.srcSettings = .ok (esFsRepo, seeds) → nodes seeds = i)
    (hdestination : mode = .restore → ∀ esFsRepo seeds,
      config.destSettings = .ok (esFsRepo, seeds) → nodes seeds = i) :
    (esutilsMain mode).Alike (Sites.answer nodes ω) (World.answer ω) (Watches i before config)
      (Watches i before config) := by
  refine alike_withConfig (.bind (.ofExcept _) ?_ fun _ _ => id)
  rintro config' ⟨s, w, -, hdefaults⟩
  rw [Prog.run_ofExcept] at hdefaults
  obtain ⟨hsrc, hdest⟩ := settings_withDefaults hdefaults
  cases mode with
  | backup => exact alike_snapshotIndices 1 (by rw [hsrc]; exact hsource rfl)
  | restore => exact alike_restoreIndices 1 (by rw [hdest]; exact hdestination rfl)

/-- A program of the database and no other calls. -/
theorem alike_db {α : Type} {p : Py α} (h : p.Calls fun c => ∃ d, c = .db d) :
    p.Alike (Sites.answer nodes ω) (World.answer ω) (Watches i before config)
      (Watches i before config) := by
  refine alike_calls (h.mono ?_)
  rintro _ ⟨d, rfl⟩
  exact nofun

/-- A job runs on its cluster as it runs where there is no other. -/
theorem alike_prog {turn : SiteTurn ι D}
    (h : ∀ j, turn.cluster? nodes config = some j → j = i) :
    turn.job.prog.Alike (Sites.answer nodes ω) (World.answer ω) (Watches i before config)
      (Watches i before config) := by
  obtain ⟨_, users, job⟩ := turn
  cases job with
  | script script =>
    cases script with
    | backup =>
      refine .bind (.bind (alike_backupStages _ _ fun _ _ => nodes_of_source h)
        (fun _ _ => .pure _) fun _ _ => id) (fun _ _ => .pure _) fun _ _ => id
    | restore => exact alike_restoreStages _ _ fun _ _ => nodes_of_destination h
  | esutils mode =>
    cases mode with
    | backup =>
      refine alike_esutilsMain .backup (fun _ _ _ => nodes_of_source h) ?_
      intro hmode
      cases hmode
    | restore =>
      refine alike_esutilsMain .restore ?_ fun _ _ _ => nodes_of_destination h
      intro hmode
      cases hmode
  | request q =>
    cases q with
    | createEdmBackup data =>
      refine .bind (.bind (alike_db (calls_dbCall ⟨_, rfl⟩)) ?_ fun _ _ => id)
        (fun _ _ => .pure _) fun _ _ => id
      intro backupId _
      exact .bind (alike_backupStages _ _ fun _ _ => nodes_of_source h) (fun _ _ => .pure _)
        fun _ _ => id
    | createRestore data =>
      refine .bind (alike_db (calls_dbCall ⟨_, rfl⟩)) ?_ fun _ _ => id
      intro _ _
      exact alike_restoreStages _ _ fun _ _ => nodes_of_destination h
    | changeStores stores => exact .pure ()
    | updateEdmBackup backupId data =>
      exact alike_db (.bind (calls_dbCall ⟨_, rfl⟩) fun _ => calls_dbCall ⟨_, rfl⟩)
    | deleteEdmBackup backupId =>
      exact alike_db (.bind (calls_dbCall ⟨_, rfl⟩) fun _ => calls_dbCall ⟨_, rfl⟩)
    | updateRestore restoreId data =>
      exact alike_db (.bind (calls_dbCall ⟨_, rfl⟩) fun _ => calls_dbCall ⟨_, rfl⟩)
    | deleteRestore restoreId =>
      exact alike_db (.bind (calls_dbCall ⟨_, rfl⟩) fun _ => calls_dbCall ⟨_, rfl⟩)

theorem runJob_prog {w : World D} {job : Job D}
    (h : ∀ stores, job ≠ .request (.changeStores stores)) :
    (w.runJob ω job).2 = (job.prog.run (World.answer ω) w).2 := by
  cases job with
  | script script =>
    cases script with
    | backup =>
      rw [Job.prog, Prog.run_bind_pure]
      rfl
    | restore => rfl
  | esutils mode => rfl
  | request q =>
    cases q with
    | createEdmBackup data =>
      rw [Job.prog, Prog.run_bind_pure]
      exact answered_snd _ _
    | changeStores stores => exact absurd rfl (h stores)
    | _ => exact answered_snd _ _

variable {s : Sites ι D} {turn : SiteTurn ι D}

/-- What a job does is seen on its cluster. -/
theorem watches_takeTurn (h : ∀ j, turn.cluster? nodes s.world.config = some j → j = i) :
    (s.takeTurn nodes turn).1 =
        (turn.job.prog.run (World.answer turn.outcomes) (s.view i)).1 ∧
      Watches i s.site s.world.config (s.takeTurn nodes turn).2
        ((s.view i).runJob turn.outcomes turn.job).2 := by
  by_cases hchange : ∃ stores, turn.job = .request (.changeStores stores)
  · obtain ⟨ω, users, job⟩ := turn
    obtain ⟨stores, rfl⟩ := hchange
    obtain rfl : users = i := h users rfl
    exact ⟨rfl, Sites.view_put .., fun j hj => Sites.site_put_of_ne s _ hj, rfl⟩
  · have hjob : ∀ stores, turn.job ≠ .request (.changeStores stores) :=
      fun stores heq => hchange ⟨stores, heq⟩
    have hturn : s.takeTurn nodes turn =
        turn.job.prog.run (Sites.answer nodes turn.outcomes) { s with client := none } := by
      unfold Sites.takeTurn
      split
      · next stores heq => exact absurd heq (hjob stores)
      · rfl
    rw [hturn, runJob_prog hjob]
    exact alike_prog h _ _ ⟨rfl, fun _ _ => rfl, rfl⟩

/-- **A job works on one cluster only**, and there as if it were the only one. -/
theorem takeTurn_view (s : Sites ι D) (turn : SiteTurn ι D)
    (h : ∀ j, turn.cluster? nodes s.world.config = some j → j = i) :
    (s.takeTurn nodes turn).1 =
        (turn.job.prog.run (World.answer turn.outcomes) (s.view i)).1 ∧
      (s.takeTurn nodes turn).2.view i = ((s.view i).runJob turn.outcomes turn.job).2 ∧
      ∀ j, j ≠ i → (s.takeTurn nodes turn).2.site j = s.site j := by
  obtain ⟨hresult, hwatches⟩ := watches_takeTurn h
  exact ⟨hresult, hwatches.view, hwatches.others⟩

end Jobs

/-! ## Runs -/

section Runs

variable {nodes : List String → ι} {i : ι}

/-- What is kept of a backup is where all clusters find it. -/
theorem Keeps.view {s : Sites ι D} {b : Int} {c : Capture D} (h : Keeps b c (s.view i))
    (j : ι) : Keeps b c (s.view j) := ⟨h.row, h.saves⟩

theorem run_restoreStages_of_noSettings {ω : Outcomes} {w : World D} {e : PyExc}
    (h : w.config.destSettings = .error e) (cnf : String) (b : Int) :
    ((restoreStages cnf b).run (World.answer ω) w).2 = w := by
  unfold restoreStages restoreIndicesFromFsToDest
  simp only [Prog.run_bind, run_readConfig, Prog.run_ofExcept, h]

/-- A restore that reads no nodes to restore to changes no index. -/
theorem indices_runJob_of_noSettings {ω : Outcomes} {w : World D} {job : Job D} {e : PyExc}
    (hjob : job.Restores) (h : w.config.destSettings = .error e) :
    (w.runJob ω job).2.cluster.indices = w.cluster.indices := by
  cases job with
  | request q =>
    cases q with
    | createRestore data =>
      simp only [World.runJob, World.serveRequest, answered_snd, run_createRestore]
      cases w.requestedKey ω data with
      | error e => rfl
      | ok key =>
        have hrow : (w.withRestore key data).config.destSettings = .error e := h
        exact congrArg (fun w' => w'.cluster.indices) (run_restoreStages_of_noSettings hrow _ _)
    | _ => exact hjob.elim
  | script script =>
    cases script with
    | backup => exact hjob.elim
    | restore =>
      exact congrArg (fun w' => w'.cluster.indices) (run_restoreStages_of_noSettings h _ _)
  | esutils mode =>
    cases mode with
    | backup => exact hjob.elim
    | restore =>
      simp only [World.runJob, esutilsMain, Prog.run_bind, run_readConfig, Prog.run_ofExcept]
      cases hdefaults : w.config.withDefaults with
      | error e => rfl
      | ok config =>
        unfold restoreIndicesFromFsToDest
        simp only [Prog.run_bind, Prog.run_ofExcept, (settings_withDefaults hdefaults).2, h]

theorem exists_view (nodes : List String → ι) (config : Config) (turn : SiteTurn ι D) :
    ∃ i, ∀ j, turn.cluster? nodes config = some j → j = i := by
  cases turn.cluster? nodes config with
  | none => exact ⟨turn.users, nofun⟩
  | some i => exact ⟨i, fun j hj => (Option.some.inj hj).symm⟩

theorem cluster?_of_restores {config : Config} {turn : SiteTurn ι D} (h : turn.job.Restores) :
    turn.cluster? nodes config = config.destination nodes := by
  obtain ⟨_, _, job⟩ := turn
  cases job with
  | request q =>
    cases q with
    | createRestore data => rfl
    | _ => exact h.elim
  | script script =>
    cases script with
    | backup => exact h.elim
    | restore => rfl
  | esutils mode =>
    cases mode with
    | backup => exact h.elim
    | restore => rfl

variable [DecidableEq ι] {s : Sites ι D} {turn : SiteTurn ι D}

theorem config_takeTurn (s : Sites ι D) (turn : SiteTurn ι D) :
    (s.takeTurn nodes turn).2.world.config = s.world.config := by
  obtain ⟨i, hi⟩ := exists_view nodes s.world.config turn
  obtain ⟨-, hwatches⟩ := watches_takeTurn hi
  exact (congrArg World.config hwatches.view).trans hwatches.config

theorem takeTurn_changeStores {stores : Stores D} (h : turn.job = .request (.changeStores stores)) :
    ((s.takeTurn nodes turn).2.site turn.users).indices = stores.indices := by
  unfold Sites.takeTurn
  rw [h]
  simp only [Sites.put, Function.update_self]
  rfl

/-- Nothing but a restore to a cluster or a change by its users changes its indices. -/
theorem indices_takeTurn (hi : s.world.config.destination nodes ≠ some i)
    (hchange : ∀ stores, turn.job = .request (.changeStores stores) → turn.users ≠ i) :
    ((s.takeTurn nodes turn).2.site i).indices = (s.site i).indices := by
  by_cases hcluster : ∀ j, turn.cluster? nodes s.world.config = some j → j = i
  · obtain ⟨-, hwatches⟩ := watches_takeTurn hcluster
    refine (congrArg (fun w => w.cluster.indices) hwatches.view).trans ?_
    by_cases hrestore : turn.job.Restores
    · rw [cluster?_of_restores hrestore] at hcluster
      cases hset : s.world.config.destSettings with
      | error e => exact indices_runJob_of_noSettings hrestore hset
      | ok settings =>
        have hdest : s.world.config.destination nodes = some (nodes settings.2) := by
          rw [Config.destination, hset]
        exact absurd (hcluster _ hdest ▸ hdest) hi
    · have hnot : ∀ stores, turn.job ≠ .request (.changeStores stores) := by
        intro stores hjob
        refine hchange stores hjob (hcluster _ ?_)
        rw [SiteTurn.cluster?, hjob]
      exact congrArg Stores.indices (stores_runJob hrestore hnot)
  · obtain ⟨j, hj⟩ := not_forall.1 hcluster
    obtain ⟨hj, hne⟩ := Classical.not_imp.1 hj
    obtain ⟨-, hwatches⟩ := watches_takeTurn fun k hk => Option.some.inj (hk.symm.trans hj)
    rw [hwatches.others i (Ne.symm hne)]

/-- The indices of a cluster after a turn that only its users can change. -/
def changedIndices (i : ι) (indices : Store String (Index D)) (st : ServedSiteTurn ι D) :
    Store String (Index D) :=
  match st.request.job with
  | .request (.changeStores changed) => if st.request.users = i then changed.indices else indices
  | _ => indices

/-- The indices of a cluster as its users left them last. -/
def usersIndices (i : ι) (steps : List (ServedSiteTurn ι D)) (indices : Store String (Index D)) :
    Store String (Index D) :=
  steps.foldl (changedIndices i) indices

variable {turns : List (SiteTurn ι D)} {done since rest : List (ServedSiteTurn ι D)}
  {made st : ServedSiteTurn ι D}

theorem config_of_mem (h : st ∈ history (Sites.takeTurn nodes) turns s) :
    st.before.world.config = s.world.config := by
  obtain ⟨done, rest, hsteps⟩ := List.append_of_mem h
  refine holds_before (I := fun s' => s'.world.config = s.world.config) hsteps rfl ?_
  intro t ht hbefore
  rw [after_of_mem_history (hsteps ▸ List.mem_append_left _ ht), config_takeTurn]
  exact hbefore

/-- **The cluster backed up is left alone**: in every run each cluster that is not
the one to restore to has the indices its users left there, whatever is backed
up and restored. -/
theorem indices_of_not_destination (s : Sites ι D) (turns : List (SiteTurn ι D))
    (hsteps : history (Sites.takeTurn nodes) turns s = done ++ st :: rest)
    (hi : s.world.config.destination nodes ≠ some i) :
    (st.before.site i).indices = usersIndices i done (s.site i).indices := by
  refine eq_foldl_before (fun s' => (s'.site i).indices) hsteps ?_
  intro t ht
  have hmem : t ∈ history (Sites.takeTurn nodes) turns s := hsteps ▸ List.mem_append_left _ ht
  rw [← config_of_mem hmem] at hi
  rw [after_of_mem_history hmem, changedIndices]
  split
  · next changed hjob =>
    split
    · next husers =>
      subst husers
      rw [takeTurn_changeStores hjob]
    · next husers => exact indices_takeTurn hi fun _ _ => husers
  · next hnot => exact indices_takeTurn hi fun stores hjob => absurd hjob (hnot stores)

/-! ## From the source to the destination -/

/-- A step of a run, seen on its cluster. -/
theorem takeTurn_of_mem (h : st ∈ history (Sites.takeTurn nodes) turns s)
    (hi : st.request.cluster? nodes s.world.config = some i) :
    st.answer =
        (st.request.job.prog.run (World.answer st.request.outcomes) (st.before.view i)).1 ∧
      st.after.view i = ((st.before.view i).runJob st.request.outcomes st.request.job).2 ∧
      ∀ j, j ≠ i → st.after.site j = st.before.site j := by
  have hserve := serve_of_mem_history h
  rw [← config_of_mem h] at hi
  obtain ⟨hresult, hwatches⟩ := watches_takeTurn fun j hj => Option.some.inj (hj.symm.trans hi)
  rw [hserve] at hresult hwatches
  exact ⟨hresult, hwatches.view, hwatches.others⟩

variable {b : Int} {c : Capture D} {j : ι} {data : TitleBody} {data' : RestoreBody}

theorem keeps_siteTurn (h : Keeps b c (s.view i)) (hjob : ¬turn.job.Threatens b) :
    Keeps b c ((s.takeTurn nodes turn).2.view i) := by
  obtain ⟨j, hj⟩ := exists_view nodes s.world.config turn
  obtain ⟨-, hwatches⟩ := watches_takeTurn hj
  have hkeeps : Keeps b c ((s.takeTurn nodes turn).2.view j) := by
    rw [hwatches.view]
    exact keeps_runJob (h.view j) hjob
  exact hkeeps.view i

theorem keeps_view_before (hsteps : history (Sites.takeTurn nodes) turns s = done ++ st :: rest)
    (h : Keeps b c (s.view i)) (hkept : ∀ t ∈ done, ¬t.request.job.Threatens b) :
    Keeps b c (st.before.view i) := by
  refine holds_before (I := fun s' => Keeps b c (s'.view i)) hsteps h ?_
  intro t ht hbefore
  rw [after_of_mem_history (hsteps ▸ List.mem_append_left _ ht)]
  exact keeps_siteTurn hbefore (hkept t ht)

/-- A backup of the source that succeeds is kept. -/
theorem keeps_view_made (h : made ∈ history (Sites.takeTurn nodes) turns s)
    (hsource : s.world.config.source nodes = some i)
    (hmade : made.request.job = .request (.createEdmBackup data))
    (hsucc : Succeeds made.before.world.backups.nextId made.request.outcomes
      (made.before.view i)) :
    made.answer = .ok () ∧ Keeps made.before.world.backups.nextId (made.before.view i).capture
      (made.after.view i) := by
  have hcluster : made.request.cluster? nodes s.world.config = some i := by
    rw [SiteTurn.cluster?, hmade, hsource]
  obtain ⟨hanswer, hview, -⟩ := takeTurn_of_mem h hcluster
  obtain ⟨hok, hkeeps⟩ := keeps_of_succeeds (w := made.before.view i) data hsucc
  rw [hmade] at hanswer hview
  rw [hanswer, hview, Job.prog, Prog.run_bind_pure, hok]
  simp only [World.runJob, World.serveRequest, answered_snd]
  exact ⟨rfl, hkeeps⟩

/-- **A backup of the source comes back on the destination**: whatever ran since
on any of the clusters, if it did not threaten the backup. The other clusters
are left as they were. -/
theorem restored_elsewhere (s : Sites ι D) (turns : List (SiteTurn ι D))
    (hsteps : history (Sites.takeTurn nodes) turns s = done ++ made :: since ++ st :: rest)
    (hsource : s.world.config.source nodes = some i)
    (hdestination : s.world.config.destination nodes = some j)
    (hmade : made.request.job = .request (.createEdmBackup data))
    (hsucc : Succeeds made.before.world.backups.nextId made.request.outcomes (made.before.view i))
    (hkept : ∀ t ∈ since, ¬t.request.job.Threatens made.before.world.backups.nextId)
    (hst : st.request.job = .request (.createRestore data'))
    (hid : data'.backupId = made.before.world.backups.nextId)
    (hkey : (st.before.world.requestedKey st.request.outcomes data').isOk = true)
    (hsmooth : RestoreSmooth st.request.outcomes (st.before.view j)
      (made.before.view i).capture.indices) :
    made.answer = .ok () ∧ st.answer = .ok () ∧
      Recovered (made.before.view i).capture (st.after.view j).stores ∧
      ∀ k, k ≠ j → st.after.site k = st.before.site k := by
  rw [List.append_assoc, List.cons_append] at hsteps
  have hmem : made ∈ history (Sites.takeTurn nodes) turns s := by
    simp [hsteps]
  have hmem' : st ∈ history (Sites.takeTurn nodes) turns s := by
    simp [hsteps]
  have hcluster : st.request.cluster? nodes s.world.config = some j := by
    rw [SiteTurn.cluster?, hst, hdestination]
  obtain ⟨hmadeOk, hkeeps⟩ := keeps_view_made hmem hsource hmade hsucc
  obtain ⟨later, hlater⟩ := exists_history_after hsteps
  have hbefore := (keeps_view_before hlater.symm hkeeps hkept).view j
  rw [← hid] at hbefore
  obtain ⟨hok, hrecovered⟩ := recovered_of_keeps hbefore hkey hsmooth
  obtain ⟨hanswer, hview, hothers⟩ := takeTurn_of_mem hmem' hcluster
  rw [hst] at hanswer hview
  refine ⟨hmadeOk, hanswer.trans hok, ?_, hothers⟩
  rw [hview]
  simp only [World.runJob, World.serveRequest, answered_snd]
  exact hrecovered

section Samples

/-- Indices are restored to a cluster of their own. -/
def Config.standby : Config :=
  [("elasticsearch_config",
    [("es_repository_name", "elastest-snapshot"), ("es_src_seed1", "elasticsearch:9200"),
      ("es_dest_seed1", "standby:9200"), ("index_names", ""),
      ("snapshot_prefix", "elastest_snapshot")])]

/-- Whether the nodes are those of the other cluster. -/
def standbyNodes (seeds : List String) : Bool := seeds.contains "standby:9200"

/-- The indices are on the one cluster, and the other is empty. -/
def Sites.pair : Sites Bool Nat where
  site standby := ⟨if standby then .empty else .single "logs" ⟨5, true⟩, fun _ => none⟩
  snapshots _ _ := none
  world := { World.busy with config := .standby }
  client := none

def usersDrop : Job Nat := .request (.changeStores ⟨.empty, fun _ => none, fun _ => none⟩)

/-- The stores are backed up, deleted by their users and restored. -/
def movedOver : List (SiteTurn Bool Nat) :=
  [⟨.smoothNewYear, false, .request (.createEdmBackup ⟨some "nightly"⟩)⟩,
    ⟨.smoothNewYear, false, usersDrop⟩, ⟨.smoothNewYear, false, .request restoreNightly⟩]

def movedSteps : List (ServedSiteTurn Bool Nat) :=
  history (Sites.takeTurn standbyNodes) movedOver Sites.pair

theorem takeTurn_view_restoreNightly :
    (Sites.pair.takeTurn standbyNodes movedOver[2]).2.site false = Sites.pair.site false :=
  (takeTurn_view (i := true) Sites.pair movedOver[2] fun _ hj => (Option.some.inj hj).symm).2.2
    false (by simp)

theorem indices_of_not_destination_movedOver :
    (movedSteps[2].before.site false).indices =
      usersIndices false [movedSteps[0], movedSteps[1]] (Sites.pair.site false).indices :=
  indices_of_not_destination Sites.pair movedOver
    (show movedSteps = [movedSteps[0], movedSteps[1]] ++ movedSteps[2] :: [] from rfl)
    (show some true ≠ some false by simp)

theorem restored_elsewhere_movedOver :
    Recovered (movedSteps[0].before.view false).capture (movedSteps[2].after.view true).stores :=
  (restored_elsewhere Sites.pair movedOver
    (show movedSteps = [] ++ movedSteps[0] :: [movedSteps[1]] ++ movedSteps[2] :: [] from rfl)
    rfl rfl rfl
    ⟨⟨⟨_, rfl⟩, ⟨rfl, rfl, rfl⟩, ⟨_, rfl, .inl rfl⟩, rfl⟩, ⟨_, rfl⟩, .inr rfl, rfl, ⟨_, rfl⟩⟩
    (List.forall_mem_singleton.2 (show ¬Job.Threatens 1 usersDrop from id)) rfl rfl rfl
    ⟨⟨_, rfl⟩, ⟨rfl, rfl, rfl⟩, .inl rfl, rfl, ⟨_, rfl⟩, ⟨_, rfl⟩⟩).2.2.1

end Samples

end Runs

end Edm
