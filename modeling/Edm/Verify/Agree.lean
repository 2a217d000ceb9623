import Edm.Verify.Concurrent

/-!
# What a job of an id looks at

Two worlds `Agree` on an id when the stores and all that is kept under the id
are the same. What jobs of other ids call keeps to that, as long as it leaves
the stores alone (`agree_answer`), and the calls of a job that goes by the id are
answered alike (`own_answer`), provided that the repository points to the
location of the id.
-/

namespace Edm

open Effects Data

variable {D : Type}

/-! ## Paths of an id -/

section Paths

variable {b b' : Int} {path : String}

/-- A directory named after the id, or what is below it. -/
def Within (b : Int) (path : String) : Prop := path = str b ∨ ∃ rel, path = joinPath (str b) rel

theorem within_inj (h : Within b path) (h' : Within b' path) : b = b' := by
  have hslash (n k : Int) (rel : String) : str n ≠ joinPath (str k) rel := by
    intro heq
    refine slash_notMem_str n ?_
    rw [heq, joinPath]
    simp [String.toList_append]
  obtain rfl | ⟨rel, rfl⟩ := h
  · obtain h' | ⟨rel', h'⟩ := h'
    · exact str_inj h'
    · exact absurd h' (hslash _ _ _)
  · obtain h' | ⟨rel', h'⟩ := h'
    · exact absurd h'.symm (hslash _ _ _)
    · have hsame : joinPath ("" ++ str b) rel = joinPath ("" ++ str b') rel' := by simpa using h'
      exact str_inj (joinPath_append_inj (slash_notMem_str b) (slash_notMem_str b') hsame).1

/-- A path that only the backup `b` writes to. -/
def Owns (b : Int) (path : String) : Prop :=
  ∃ rest, Within b rest ∧ (path = "/backup/hdfs/" ++ rest ∨ path = "/backup/mysql/" ++ rest)

theorem owns_inj (h : Owns b path) (h' : Owns b' path) : b = b' := by
  obtain ⟨rest, hrest, hpath⟩ := h
  obtain ⟨rest', hrest', hpath'⟩ := h'
  rcases hpath with rfl | rfl <;> rcases hpath' with heq | heq
  · exact within_inj hrest (String.append_right_inj _ |>.1 heq ▸ hrest')
  · exact absurd heq (hdfs_ne_mysql _ _)
  · exact absurd heq.symm (hdfs_ne_mysql _ _)
  · exact within_inj hrest (String.append_right_inj _ |>.1 heq ▸ hrest')

theorem owns_hdfsDir (b : Int) : Owns b (hdfsDir b) := ⟨_, .inl rfl, .inl rfl⟩

theorem owns_joinPath_hdfsDir (b : Int) (rel : String) : Owns b (joinPath (hdfsDir b) rel) :=
  ⟨_, .inr ⟨rel, rfl⟩, .inl (joinPath_append ..)⟩

theorem owns_dumpdir (b : Int) : Owns b (dumpdir b) := ⟨_, .inl rfl, .inr rfl⟩

theorem owns_dumpfilepath (b : Int) : Owns b (dumpfilepath b) :=
  ⟨_, .inr ⟨bfile, rfl⟩, .inr (joinPath_append ..)⟩

end Paths

/-! ## What a job of the id looks at -/

/-- The two worlds agree on what a job that goes by `b` reads and writes, and the
first has the row of `b` if the second has. -/
structure Agree (b : Int) (w' w : World D) : Prop where
  config : w'.config = w.config
  stores : w'.stores = w.stores
  snapshot : ∀ name, w.config.snapshotName b = .ok name →
    w'.cluster.snapshots (str b) name = w.cluster.snapshots (str b) name
  files : ∀ path, Owns b path → w'.files path = w.files path
  dirs : ∀ path, Owns b path → w'.dirs path = w.dirs path
  row : b ∈ w.backups.ids → b ∈ w'.backups.ids

section Agree

variable {b : Int} {w w' w'' : World D}

theorem Agree.refl (b : Int) (w : World D) : Agree b w w :=
  ⟨rfl, rfl, fun _ _ => rfl, fun _ _ => rfl, fun _ _ => rfl, id⟩

theorem Agree.trans (h : Agree b w'' w') (h' : Agree b w' w) :
    Agree b w'' w where
  config := h.config.trans h'.config
  stores := h.stores.trans h'.stores
  snapshot name hname :=
    (h.snapshot name (by rw [h'.config, hname])).trans (h'.snapshot name hname)
  files path hpath := (h.files path hpath).trans (h'.files path hpath)
  dirs path hpath := (h.dirs path hpath).trans (h'.dirs path hpath)
  row hrow := h.row (h'.row hrow)

theorem Agree.keeps {c : Capture D} (h : Agree b w' w) (hw : Keeps b c w) : Keeps b c w' where
  row := h.row hw.row
  saves := by
    obtain ⟨⟨name, hname, hsnapshot⟩, hhdfs, hhasHdfs, hdump⟩ := hw.saves
    refine ⟨⟨name, by rw [h.config, hname], ?_⟩, ?_, ?_, ?_⟩
    · exact (h.snapshot name hname).trans hsnapshot
    · intro rel content hcontent
      exact (h.files _ (owns_joinPath_hdfsDir b rel)).trans (hhdfs rel content hcontent)
    · exact (h.dirs _ (owns_hdfsDir b)).trans hhasHdfs
    · exact (h.files _ (owns_dumpfilepath b)).trans hdump

/-- A backup that would succeed in one world would in the other. -/
theorem Agree.succeeds {ω : Outcomes} (h : Agree b w' w) (hw : Succeeds b ω w) :
    Succeeds b ω w' where
  snapshot := by
    obtain ⟨hsettings, hreaches, ⟨name, hname, hold⟩, hcreated⟩ := hw.snapshot
    rw [← h.snapshot name hname] at hold
    rw [← h.config] at hsettings hname
    exact ⟨hsettings, hreaches, ⟨name, hname, hold⟩, hcreated⟩
  copied := hw.copied
  dumpdir := by
    have hthere : w'.isThere (dumpdir b) = w.isThere (dumpdir b) := by
      unfold World.isThere
      rw [h.dirs _ (owns_dumpdir b), h.files _ (owns_dumpdir b)]
    unfold DumpdirReady
    rw [hthere]
    exact hw.dumpdir
  opened := hw.opened
  dumped := hw.dumped

theorem Agree.capture (h : Agree b w' w) : w'.capture = w.capture := by
  have hindices : w'.cluster.indices = w.cluster.indices := congrArg Stores.indices h.stores
  have hhdfs : w'.hdfs = w.hdfs := congrArg Stores.hdfs h.stores
  have hmysql : w'.mysql = w.mysql := congrArg Stores.mysql h.stores
  unfold World.capture Cluster.openContents
  rw [hindices, hhdfs, hmysql]

end Agree

/-! ## The calls of others -/

section Others

variable {ω : Outcomes} {b : Int} {w : World D}

theorem agree_answerEs {call : EsCall} (hspares : (Call.es call).Spares w.config b)
    (hquiet : (Call.es call).Quiet) : Agree b (w.answerEs ω call).2 w where
  config := rfl
  stores := by
    have hindices : (w.cluster.answer (ω.es call.step) call).2.indices = w.cluster.indices := by
      cases ω.es call.step with
      | some e => rfl
      | none =>
        refine Cluster.accept_indices ?_ ?_ ?_
        · rintro rfl
          exact hquiet
        · rintro rfl
          exact hquiet
        · rintro repository name rfl
          exact hquiet
    unfold World.stores World.answerEs
    simp only [World.setCluster_cluster, hindices]
    rfl
  snapshot name hname := by
    refine Cluster.snapshots_answer ?_ ?_ (str b)
    · rintro repository rfl
      exact hspares hname
    · rintro repository rfl
      exact hspares hname
  files _ _ := rfl
  dirs _ _ := rfl
  row := id

theorem agree_of_paths {w' : World D} {b' : Int} (hne : b' ≠ b) (hsame : SameCatalogue w w')
    (hstores : w'.stores = w.stores) (hsnapshots : w'.cluster.snapshots = w.cluster.snapshots)
    (hfiles : ∀ path, ¬Owns b' path → w'.files path = w.files path)
    (hdirs : ∀ path, ¬Owns b' path → w'.dirs path = w.dirs path) : Agree b w' w where
  config := hsame.config
  stores := hstores
  snapshot name _ := by rw [hsnapshots]
  files path hpath := hfiles path fun hother => hne (owns_inj hother hpath)
  dirs path hpath := hdirs path fun hother => hne (owns_inj hother hpath)
  row hrow := hsame.backups ▸ hrow

theorem update_of_not_owns {X : Type} {b' : Int} {path other : String} (f : String → X) (x : X)
    (hpath : Owns b' path) (hother : ¬Owns b' other) :
    Function.update f path x other = f other := by
  refine Function.update_of_ne ?_ x f
  rintro rfl
  exact hother hpath

theorem agree_writeDump {b' : Int} (hne : b' ≠ b) (d : Dump D) :
    Agree b (w.writeDump (dumpfilepath b') d) w :=
  agree_of_paths hne ⟨rfl, rfl, rfl⟩ rfl rfl
    (fun _ => update_of_not_owns _ _ (owns_dumpfilepath b')) fun _ _ => rfl

theorem agree_answerHost {call : HostCall} (hspares : (Call.host call).Spares w.config b)
    (hquiet : (Call.host call).Quiet) : Agree b (w.answerHost ω call).2 w := by
  cases call with
  | copyToLocal source target =>
    obtain ⟨rfl, b', hne, rfl⟩ := hspares
    simp only [World.answerHost]
    cases ω.copyToLocal with
    | notStarted => exact .refl b w
    | exited returncode reached =>
      refine agree_of_paths hne ⟨rfl, rfl, rfl⟩ rfl rfl ?_ fun _ =>
        update_of_not_owns _ _ (owns_hdfsDir b')
      intro path hpath
      refine copyTree_of_not_below ?_
      rintro rel rfl
      exact hpath (owns_joinPath_hdfsDir b' rel)
  | copyFromLocal source target => exact hquiet.elim
  | pathExists path => exact .refl b w
  | makedirs path =>
    obtain ⟨b', hne, rfl⟩ := hspares
    simp only [World.answerHost]
    split
    · exact .refl b w
    · exact agree_of_paths hne ⟨rfl, rfl, rfl⟩ rfl rfl (fun _ _ => rfl) fun _ =>
        update_of_not_owns _ _ (owns_dumpdir b')
  | openForWriting path =>
    obtain ⟨b', hne, rfl⟩ := hspares
    simp only [World.answerHost]
    split
    · exact .refl b w
    · exact agree_writeDump hne _
  | mysqldump cnf target =>
    obtain ⟨b', hne, rfl⟩ := hspares
    simp only [World.answerHost]
    cases ω.mysqldump with
    | notStarted => exact .refl b w
    | exited returncode reached => exact agree_writeDump hne _
  | mysqlSource cnf script => exact hquiet.elim

theorem agree_of_rows {backups : Table Backup} (restores : Table Restore)
    (hrow : b ∈ w.backups.ids → b ∈ backups.ids) : Agree b { w with backups, restores } w :=
  ⟨rfl, rfl, fun _ _ => rfl, fun _ _ => rfl, fun _ _ => rfl, hrow⟩

theorem agree_answerDb {call : DbCall} (hspares : (Call.db call).Spares w.config b) :
    Agree b (w.answerDb ω call).2 w := by
  cases call with
  | insertBackup title status =>
    exact agree_of_rows w.restores fun hrow => (Table.mem_ids_put ..).2 (.inr hrow)
  | commitBackup id loaded row => exact agree_of_rows w.restores World.mem_ids_flushRow
  | deleteBackup id =>
    refine agree_of_rows w.restores fun hrow => (Table.mem_ids_remove ..).2 ⟨?_, hrow⟩
    exact fun heq => hspares heq.symm
  | insertRestore id row =>
    simp only [World.answerDb]
    split
    · exact agree_of_rows _ fun hrow => hrow
    · exact .refl b w
  | commitRestore id loaded row => exact agree_of_rows _ fun hrow => hrow
  | deleteRestore id => exact agree_of_rows _ fun hrow => hrow
  | oneBackup | oneRestore | pageOfBackups | countBackups => exact .refl b w

/-- What others call leaves alone what the backup looks at. -/
theorem agree_answer {call : Call} (hspares : call.Spares w.config b) (hquiet : call.Quiet) :
    Agree b (World.answer ω call w).2 w := by
  cases call with
  | es call => exact agree_answerEs hspares hquiet
  | host call => exact agree_answerHost hspares hquiet
  | db call => exact agree_answerDb hspares
  | readConfig => exact .refl b w

end Others

/-! ## Its own calls -/

/-- The repository and the name of the snapshot of `b`. -/
structure Config.Names (config : Config) (b : Int) (repository name : String) : Prop where
  repository : config.item "elasticsearch_config" "es_repository_name" = .ok repository
  name : config.snapshotName b = .ok name

/-- The calls of a backup or a restore that goes by the id `b`. -/
def Call.GoesBy (config : Config) (b : Int) : Call → Prop
  | .es (.createRepository repository location) =>
    config.item "elasticsearch_config" "es_repository_name" = .ok repository ∧ location = str b
  | .es (.getSnapshot repository name) => config.Names b repository name
  | .es (.deleteSnapshot repository name) => config.Names b repository name
  | .es (.createSnapshot repository name) => config.Names b repository name
  | .es (.restoreSnapshot repository name) => config.Names b repository name
  | .es _ => True
  | .host (.copyToLocal _ target) => target = hdfsDir b
  | .host (.copyFromLocal source _) => source = hdfsDir b
  | .host (.pathExists path) => path = dumpdir b
  | .host (.makedirs path) => path = dumpdir b
  | .host (.openForWriting path) => path = dumpfilepath b
  | .host (.mysqldump _ target) => target = dumpfilepath b
  | .host (.mysqlSource _ script) => script = dumpfilepath b
  | .readConfig => True
  | .db _ => False

/-- The calls that go to the location of the repository. -/
def Call.usesRepository : Call → Bool
  | .es (.getSnapshot ..) => true
  | .es (.deleteSnapshot ..) => true
  | .es (.createSnapshot ..) => true
  | .es (.restoreSnapshot ..) => true
  | _ => false

/-- The repository name points to the location of `b`. -/
def Placed (b : Int) (w : World D) : Prop :=
  ∀ repository, w.config.item "elasticsearch_config" "es_repository_name" = .ok repository →
    w.cluster.repositories repository = some (str b)

section Own

variable {ω : Outcomes} {b : Int} {w w' : World D}

theorem Agree.writeDump (h : Agree b w' w) (path : String) (d : Dump D) :
    Agree b (w'.writeDump path d) (w.writeDump path d) := by
  refine ⟨h.config, h.stores, h.snapshot, ?_, h.dirs, h.row⟩
  intro other hother
  simp only [World.writeDump, Function.update_apply, h.files other hother]

theorem Agree.makeDir (h : Agree b w' w) (path : String) :
    Agree b (w'.makeDir path) (w.makeDir path) := by
  refine ⟨h.config, h.stores, h.snapshot, h.files, ?_, h.row⟩
  intro other hother
  simp only [World.makeDir, Function.update_apply, h.dirs other hother]

theorem Agree.copiedOut (h : Agree b w' w) (source target : String) (reached : String → Bool) :
    Agree b (w'.copiedOut source target reached) (w.copiedOut source target reached) := by
  have hdir := h.makeDir target
  refine ⟨hdir.config, hdir.stores, hdir.snapshot, ?_, hdir.dirs, hdir.row⟩
  intro other hother
  have hhdfs : w'.hdfs = w.hdfs := congrArg Stores.hdfs h.stores
  simp only [World.copiedOut, copyTree, hhdfs, h.files other hother]

theorem Agree.copiedIn (h : Agree b w' w) (target : String) (reached : String → Bool) :
    Agree b (w'.copiedIn (hdfsDir b) target reached) (w.copiedIn (hdfsDir b) target reached) := by
  refine ⟨h.config, ?_, h.snapshot, h.files, h.dirs, h.row⟩
  have hindices : w'.cluster.indices = w.cluster.indices := congrArg Stores.indices h.stores
  have hhdfs : w'.hdfs = w.hdfs := congrArg Stores.hdfs h.stores
  have hmysql : w'.mysql = w.mysql := congrArg Stores.mysql h.stores
  have hfiles (rel : String) := h.files _ (owns_joinPath_hdfsDir b rel)
  unfold World.stores World.copiedIn copyTree
  simp only [hindices, hhdfs, hmysql, hfiles]

theorem Agree.sourced (h : Agree b w' w) (d : Dump D) (reached : String → Bool) :
    Agree b (w'.sourced d reached) (w.sourced d reached) := by
  refine ⟨h.config, ?_, h.snapshot, h.files, h.dirs, h.row⟩
  have hindices : w'.cluster.indices = w.cluster.indices := congrArg Stores.indices h.stores
  have hhdfs : w'.hdfs = w.hdfs := congrArg Stores.hdfs h.stores
  have hmysql : w'.mysql = w.mysql := congrArg Stores.mysql h.stores
  simp only [World.stores, World.sourced, hindices, hhdfs, hmysql]

theorem own_answerHost {call : HostCall} (hown : (Call.host call).GoesBy w.config b)
    (h : Agree b w' w) : (w'.answerHost ω call).1 = (w.answerHost ω call).1 ∧
      Agree b (w'.answerHost ω call).2 (w.answerHost ω call).2 := by
  cases call with
  | copyToLocal source target =>
    simp only [World.answerHost]
    cases ω.copyToLocal with
    | notStarted => exact ⟨rfl, h⟩
    | exited returncode reached => exact ⟨rfl, h.copiedOut source target _⟩
  | pathExists path =>
    obtain rfl : path = dumpdir b := hown
    refine ⟨?_, h⟩
    simp only [World.answerHost, World.isThere, h.dirs _ (owns_dumpdir b),
      h.files _ (owns_dumpdir b)]
  | makedirs path =>
    simp only [World.answerHost]
    split
    · exact ⟨rfl, h⟩
    · exact ⟨rfl, h.makeDir path⟩
  | openForWriting path =>
    simp only [World.answerHost]
    split
    · exact ⟨rfl, h⟩
    · exact ⟨rfl, h.writeDump path _⟩
  | mysqldump cnf target =>
    have hmysql : w'.mysql = w.mysql := congrArg Stores.mysql h.stores
    simp only [World.answerHost]
    cases ω.mysqldump with
    | notStarted => exact ⟨rfl, h⟩
    | exited returncode reached =>
      simp only [World.runMysqldump, World.dumped, hmysql]
      exact ⟨trivial, h.writeDump target _⟩
  | copyFromLocal source target =>
    obtain rfl : source = hdfsDir b := hown
    simp only [World.answerHost, World.runCopyFromLocal]
    cases ω.copyFromLocal with
    | notStarted => exact ⟨rfl, h⟩
    | exited returncode reached =>
      simp only [h.dirs _ (owns_hdfsDir b)]
      split
      · exact ⟨rfl, h.copiedIn target _⟩
      · exact ⟨rfl, h⟩
  | mysqlSource cnf script =>
    obtain rfl : script = dumpfilepath b := hown
    simp only [World.answerHost, World.runMysqlSource]
    cases ω.mysql with
    | notStarted => exact ⟨rfl, h⟩
    | exited returncode reached =>
      simp only [h.files _ (owns_dumpfilepath b)]
      split
      · exact ⟨rfl, h.sourced _ _⟩
      · exact ⟨rfl, h⟩

theorem Agree.setCluster {cluster' cluster : Cluster D} (h : Agree b w' w)
    (hindices : cluster'.indices = cluster.indices)
    (hsnapshot : ∀ name, w.config.snapshotName b = .ok name →
      cluster'.snapshots (str b) name = cluster.snapshots (str b) name) :
    Agree b (w'.setCluster cluster') (w.setCluster cluster) := by
  refine ⟨h.config, ?_, hsnapshot, h.files, h.dirs, h.row⟩
  have hhdfs : w'.hdfs = w.hdfs := congrArg Stores.hdfs h.stores
  have hmysql : w'.mysql = w.mysql := congrArg Stores.mysql h.stores
  simp only [World.stores, World.setCluster, hindices, hhdfs, hmysql]

/-- A new snapshot, or none, in the place of the one of the backup. -/
theorem Agree.setSnapshot {name : String} (h : Agree b w' w)
    (hname : w.config.snapshotName b = .ok name) (snapshot : Option (Snapshot D)) :
    Agree b (w'.setCluster (w'.cluster.setSnapshot (str b) name snapshot))
      (w.setCluster (w.cluster.setSnapshot (str b) name snapshot)) := by
  refine h.setCluster (congrArg Stores.indices h.stores) ?_
  intro name' hname'
  obtain rfl : name = name' := Except.ok.inj (hname.symm.trans hname')
  rw [Cluster.setSnapshot_self, Cluster.setSnapshot_self]

theorem own_answerEs {call : EsCall} (hown : (Call.es call).GoesBy w.config b)
    (hplaced : (Call.es call).usesRepository = true → Placed b w' ∧ Placed b w)
    (h : Agree b w' w) : (w'.answerEs ω call).1 = (w.answerEs ω call).1 ∧
      Agree b (w'.answerEs ω call).2 (w.answerEs ω call).2 := by
  have hindices : w'.cluster.indices = w.cluster.indices := congrArg Stores.indices h.stores
  have hplace (huse : (Call.es call).usesRepository = true) {repository : String}
      (hrepo : w.config.item "elasticsearch_config" "es_repository_name" = .ok repository) :
      w'.cluster.repositories repository = some (str b) ∧
        w.cluster.repositories repository = some (str b) :=
    ⟨(hplaced huse).1 _ (by rw [h.config, hrepo]), (hplaced huse).2 _ hrepo⟩
  unfold World.answerEs
  cases ω.es call.step with
  | some e => exact ⟨rfl, h.setCluster hindices h.snapshot⟩
  | none =>
    simp only [Cluster.answer_none]
    cases call with
    | connect seeds => exact ⟨rfl, h.setCluster hindices h.snapshot⟩
    | info => exact ⟨rfl, h.setCluster hindices h.snapshot⟩
    | createRepository repository location => exact ⟨rfl, h.setCluster hindices h.snapshot⟩
    | getSnapshot repository name =>
      obtain ⟨hrepo, hname⟩ := hown
      obtain ⟨hplace', hplace⟩ := hplace rfl hrepo
      have hstored := h.snapshot name hname
      simp only [Cluster.accept, Cluster.snapshot?, hplace', hplace, Option.bind_some, hstored]
      cases w.cluster.snapshots (str b) name with
      | none => exact ⟨rfl, h.setCluster hindices h.snapshot⟩
      | some snapshot => exact ⟨rfl, h.setCluster hindices h.snapshot⟩
    | deleteSnapshot repository name =>
      obtain ⟨hrepo, hname⟩ := hown
      obtain ⟨hplace', hplace⟩ := hplace rfl hrepo
      have hstored := h.snapshot name hname
      simp only [Cluster.accept, hplace', hplace, hstored]
      cases w.cluster.snapshots (str b) name with
      | none => exact ⟨rfl, h.setCluster hindices h.snapshot⟩
      | some snapshot => exact ⟨rfl, h.setSnapshot hname none⟩
    | createSnapshot repository name =>
      obtain ⟨hrepo, hname⟩ := hown
      obtain ⟨hplace', hplace⟩ := hplace rfl hrepo
      have hstored := h.snapshot name hname
      simp only [Cluster.accept, hplace', hplace, hstored]
      cases w.cluster.snapshots (str b) name with
      | some snapshot => exact ⟨rfl, h.setCluster hindices h.snapshot⟩
      | none =>
        simp only [Cluster.openContents, hindices]
        exact ⟨trivial, h.setSnapshot hname _⟩
    | closeIndices =>
      refine ⟨rfl, h.setCluster ?_ h.snapshot⟩
      simp only [Cluster.accept, Cluster.setOpen, hindices]
    | openIndices =>
      refine ⟨rfl, h.setCluster ?_ h.snapshot⟩
      simp only [Cluster.accept, Cluster.setOpen, hindices]
    | restoreSnapshot repository name =>
      obtain ⟨hrepo, hname⟩ := hown
      obtain ⟨hplace', hplace⟩ := hplace rfl hrepo
      have hstored := h.snapshot name hname
      simp only [Cluster.accept, Cluster.snapshot?, hplace', hplace, Option.bind_some, hstored]
      cases w.cluster.snapshots (str b) name with
      | none => exact ⟨rfl, h.setCluster hindices h.snapshot⟩
      | some snapshot =>
        have hconflicts : w'.cluster.conflicts snapshot = w.cluster.conflicts snapshot := by
          unfold Cluster.conflicts
          rw [hindices]
        simp only [hconflicts]
        cases w.cluster.conflicts snapshot with
        | true => exact ⟨rfl, h.setCluster hindices h.snapshot⟩
        | false =>
          refine ⟨rfl, h.setCluster ?_ h.snapshot⟩
          simp only [Cluster.restored, hindices, Bool.false_eq_true, if_false]

theorem own_answer {call : Call} (hown : call.GoesBy w.config b)
    (hplaced : call.usesRepository = true → Placed b w' ∧ Placed b w) (h : Agree b w' w) :
    (World.answer ω call w').1 = (World.answer ω call w).1 ∧
      Agree b (World.answer ω call w').2 (World.answer ω call w).2 := by
  cases call with
  | es call => exact own_answerEs hown hplaced h
  | host call => exact own_answerHost hown h
  | db call => cases hown
  | readConfig => exact ⟨congrArg Except.ok h.config, h⟩

theorem Placed.of_cluster {w' : World D} (h : Placed b w) (hconfig : w'.config = w.config)
    (hcluster : w'.cluster.repositories = w.cluster.repositories) : Placed b w' := by
  intro repository hrepo
  rw [hcluster]
  exact h repository (by rw [← hconfig, hrepo])

/-- A call that registers no other location leaves the repository in its place. -/
theorem placed_answer {call : Call}
    (hcall : ∀ repository location, call = .es (.createRepository repository location) →
      (World.answer ω call w).1.isOk = true → location = str b) (h : Placed b w) :
    Placed b (World.answer ω call w).2 := by
  have hconfig := config_answer ω call w
  cases call with
  | host call => exact h.of_cluster hconfig (by rw [World.answer, World.cluster_answerHost])
  | db call => exact h.of_cluster hconfig (by rw [World.answer, World.cluster_answerDb])
  | readConfig => exact h
  | es call =>
    by_cases hregisters : ∃ repository location, call = .createRepository repository location
    · obtain ⟨repository, location, rfl⟩ := hregisters
      cases hω : ω.es .createRepository with
      | some e =>
        refine h.of_cluster hconfig ?_
        simp only [World.answer, World.answerEs, EsCall.step, hω, Cluster.answer_some]
        rfl
      | none =>
        have hlocation : location = str b := by
          refine hcall repository location rfl ?_
          simp only [World.answer, World.answerEs, EsCall.step, hω]
          rfl
        intro repository' hrepo
        simp only [World.answer, World.answerEs, EsCall.step, hω, Cluster.answer_none]
        show Function.update w.cluster.repositories repository (some location) repository' = _
        by_cases hsame : repository' = repository
        · rw [hsame, Function.update_self, hlocation]
        · rw [Function.update_of_ne hsame]
          exact h repository' hrepo
    · refine h.of_cluster hconfig ?_
      show (w.cluster.answer (ω.es call.step) call).2.repositories = _
      cases ω.es call.step with
      | some e => rfl
      | none => exact Cluster.accept_repositories fun repository location heq =>
          hregisters ⟨repository, location, heq⟩

/-- A call of the job that registers a location puts the repository in its place. -/
theorem placed_of_registers {call : Call} (hown : call.GoesBy w.config b)
    (hregisters : Registers call (World.answer ω call w).1) :
    Placed b (World.answer ω call w).2 := by
  obtain ⟨hcall, hok⟩ := hregisters
  cases call with
  | es call =>
    cases call with
    | createRepository repository location =>
      obtain ⟨hrepo, rfl⟩ := hown
      cases hω : ω.es .createRepository with
      | some e =>
        simp only [World.answer, World.answerEs, EsCall.step, hω, Cluster.answer_some] at hok
        cases hok
      | none =>
        intro repository' hrepo'
        obtain rfl : repository = repository' := Except.ok.inj (hrepo.symm.trans hrepo')
        simp only [World.answer, World.answerEs, EsCall.step, hω, Cluster.answer_none]
        exact Cluster.register_repositories_self ..
    | _ => cases hcall
  | _ => cases hcall

end Own

end Edm
