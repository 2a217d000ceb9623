import Edm.Effects.Interleave
import Edm.Verify.Reopen

/-!
# Overlapping runs

Nothing keeps two runs of `esutils.py` apart. Each points the one repository
name to its own location and relies on that in a later call, so a run that
registers another location in between makes it store its snapshot there, or
read one from there. `noCrossOver_of_undisturbed` says which orders of the
calls do no harm, for any number of runs.
-/

namespace Edm

open Effects Data

variable {D : Type}

/-! ## Guards -/

section Guards

def Call.registers : Call → Bool
  | .es (.createRepository ..) => true
  | _ => false

/-- A call registers a location. -/
def Registers (c : Call) (r : Except PyExc (Reply c)) : Prop := c.registers = true ∧ r.isOk = true

instance (c : Call) (r : Except PyExc (Reply c)) : Decidable (Registers c r) :=
  inferInstanceAs (Decidable (_ ∧ _))

/-- The calls that create or restore a snapshot. -/
def Call.usesSnapshot : Call → Bool
  | .es (.createSnapshot ..) => true
  | .es (.restoreSnapshot ..) => true
  | _ => false

def Call.restores : Call → Bool
  | .es (.restoreSnapshot ..) => true
  | _ => false

def Call.closes : Call → Bool
  | .es .closeIndices => true
  | _ => false

/-- The calls after which indices may be open. -/
def Call.opens : Call → Bool
  | .es (.restoreSnapshot ..) => true
  | .es .openIndices => true
  | _ => false

variable (config : Config)

theorem guarded_esCall_bind {α : Type} {Opens : (c : Call) → Except PyExc (Reply c) → Prop}
    {Use : Call → Prop} {c : EsCall} {f : Unit → Py α} (hc : ¬Use (.es c))
    (hf : Opens (.es c) (.ok ()) ∨ (f ()).Guarded Opens Use) :
    (esCall c >>= f).Guarded Opens Use :=
  Prog.Guarded.perform_bind hc fun _ => hf

theorem guarded_exceptException {α : Type}
    {Opens : (c : Call) → Except PyExc (Reply c) → Prop} {Use : Call → Prop}
    {handler : PyExc → Py α} (h : ∀ e, (handler e).Guarded Opens Use) (e : PyExc) :
    (exceptException handler e).Guarded Opens Use := by
  unfold exceptException
  split
  · exact h e
  · trivial

/-- A run registers its location before it creates or restores a snapshot. -/
theorem Task.guarded_registers (task : Task) :
    (task.prog config).Guarded Registers (·.usesSnapshot = true) := by
  cases task with
  | snapshot b =>
    refine .bind (.of_calls (.ofExcept _)) fun settings =>
      .tryCatch ?_ (guarded_exceptException fun _ => trivial)
    unfold takeSnapshot
    refine guarded_esCall_bind nofun (.inr (guarded_esCall_bind nofun (.inr ?_)))
    exact guarded_esCall_bind nofun (.inl ⟨rfl, rfl⟩)
  | restore b =>
    refine .bind (.of_calls (.ofExcept _)) fun settings =>
      .tryCatch ?_ (guarded_exceptException fun _ => trivial)
    unfold restoreSnapshot
    exact guarded_esCall_bind nofun (.inr (guarded_esCall_bind nofun (.inl ⟨rfl, rfl⟩)))

/-- A restore asks for the indices to be closed before it restores. -/
theorem Task.guarded_closes (b : Int) :
    ((Task.restore b).prog config).Guarded (fun c _ => c.closes = true)
      fun c => c.restores = true := by
  refine .bind (.of_calls (.ofExcept _)) fun settings =>
    .tryCatch ?_ (guarded_exceptException fun _ => trivial)
  unfold restoreSnapshot
  refine guarded_esCall_bind nofun (.inr (guarded_esCall_bind nofun (.inr ?_)))
  refine guarded_esCall_bind nofun (.inr ?_)
  exact ⟨nofun, fun _ => .inl rfl⟩

/-- With all settings in the config, a restore whose calls all succeed returns. -/
theorem Task.returns_restore {b : Int} {settings : String × List String} {name : String}
    (hset : config.destSettings = .ok settings) (hname : config.snapshotName b = .ok name) :
    ((Task.restore b).prog config).Returns := by
  obtain ⟨repository, seeds⟩ := settings
  unfold Task.prog restoreIndicesFromFsToDest
  rw [hset]
  refine .tryCatch ?_ _
  unfold restoreSnapshot
  rw [hname]
  refine .bind (.perform _) fun _ => .bind (.perform _) fun _ => .bind (.perform _) ?_
  intro _
  refine .bind (.tryCatch (.perform _) _) ?_
  intro _
  show (esCall (.restoreSnapshot repository name) >>= fun _ => reopenIndices).Returns
  exact .bind (.perform _) fun _ => .tryCatch (.perform _) _

end Guards

namespace Task.Issues

variable {config : Config} {task : Task} {call : Call}

theorem exists_es (h : task.Issues config call) : ∃ c, call = .es c := by
  cases h <;> exact ⟨_, rfl⟩

theorem eq_createRepository (h : task.Issues config call) (hreg : call.registers = true) :
    ∃ repository, config.item "elasticsearch_config" "es_repository_name" = .ok repository ∧
      call = .es (.createRepository repository (str task.backupId)) := by
  cases h with
  | createRepository task hrepo => exact ⟨_, hrepo, rfl⟩
  | _ => cases hreg

/-- A run creates and restores the snapshot of its own id only. -/
theorem names (h : task.Issues config call) (huse : call.usesSnapshot = true) :
    ∃ repository name, config.item "elasticsearch_config" "es_repository_name" = .ok repository ∧
      config.snapshotName task.backupId = .ok name ∧
      (call = .es (.createSnapshot repository name) ∨
        call = .es (.restoreSnapshot repository name)) := by
  cases h with
  | createSnapshot hrepo hname => exact ⟨_, _, hrepo, hname, .inl rfl⟩
  | restoreSnapshot hrepo hname => exact ⟨_, _, hrepo, hname, .inr rfl⟩
  | _ => cases huse

end Task.Issues

/-! ## Events -/

section Events

variable {ι : Type} [DecidableEq ι] (config : Config) (tasks : ι → Task) (ω : ι → Outcomes)

/-- An answered call of one of several runs. -/
abbrev RunEvent (ι D : Type) := Issued ι Call Reply PyExc (World D)

/-- The runs `tasks` issue the calls of `tr` in `w` and are left with `ps'` in
`w'`. -/
abbrev Overlap (w : World D) (tr : List (RunEvent ι D)) (ps' : ι → Py Unit) (w' : World D) : Prop :=
  Interleaved (fun i => World.answer (ω i)) (fun i => (tasks i).prog config) w tr ps' w'

variable {config tasks ω} {w w' : World D} {tr : List (RunEvent ι D)} {ps' : ι → Py Unit}

theorem Overlap.issues (h : Overlap config tasks ω w tr ps' w') {e : RunEvent ι D} (he : e ∈ tr) :
    (tasks e.who).Issues config e.call :=
  h.calls (Task.calls_prog config (tasks e.who)) e he rfl

/-- What an event does to the cluster. -/
theorem Overlap.exists_es (h : Overlap config tasks ω w tr ps' w') {e : RunEvent ι D}
    (he : e ∈ tr) : ∃ c, e.call = .es c ∧
      e.answer.isOk = (e.before.cluster.answer ((ω e.who).es c.step) c).1.isOk ∧
      e.after.cluster = (e.before.cluster.answer ((ω e.who).es c.step) c).2 := by
  have hes := (h.issues he).exists_es
  have hans := h.answered he
  obtain ⟨⟨before, call, answer, after⟩, who⟩ := e
  obtain ⟨c, rfl⟩ := hes
  have hanswer : (before.answerEs (ω who) c).1 = answer := congrArg Prod.fst hans
  have hafter : (before.answerEs (ω who) c).2 = after := congrArg Prod.snd hans
  refine ⟨c, rfl, ?_, ?_⟩
  · rw [← hanswer]
    show (Except.mapError _ _).isOk = _
    cases (before.cluster.answer ((ω who).es c.step) c).1 <;> rfl
  · rw [← hafter]
    rfl

/-- An event whose call was not answered with a reply leaves the cluster as it
is, any other one does to it what the cluster does on accepting the call. -/
theorem Overlap.accepted_or_same (h : Overlap config tasks ω w tr ps' w') {e : RunEvent ι D}
    (he : e ∈ tr) : ∃ c, e.call = .es c ∧
      ((e.answer.isOk = true ∧ (e.before.cluster.accept c).1.isOk = true ∧
        e.after.cluster = (e.before.cluster.accept c).2) ∨
      (e.answer.isOk = false ∧ e.after.cluster = e.before.cluster)) := by
  obtain ⟨c, hcall, hok, hafter⟩ := h.exists_es he
  refine ⟨c, hcall, ?_⟩
  cases hans : (e.before.cluster.answer ((ω e.who).es c.step) c).1.isOk with
  | true =>
    have haccept := Cluster.answer_of_isOk hans
    rw [haccept] at hans hafter
    exact .inl ⟨hok.trans (by rw [haccept, hans]), hans, hafter⟩
  | false => exact .inr ⟨hok.trans hans, hafter.trans (Cluster.answer_of_not_isOk hans)⟩

end Events

/-! ## The location of a run -/

section Location

variable {ι : Type} [DecidableEq ι] {config : Config} {tasks : ι → Task} {ω : ι → Outcomes}
  {w w' : World D} {tr : List (RunEvent ι D)} {ps' : ι → Py Unit} {i : ι}

/-- From the time run `i` registers its location, no run of another id
registers one before run `i` creates or restores its snapshot, unless the
location of run `i` is registered once more. -/
def KeepsLocation (tasks : ι → Task) (i : ι) (tr : List (RunEvent ι D)) : Prop :=
  Interleaved.Undisturbed i Registers (·.usesSnapshot = true)
    (fun e => (tasks e.who).backupId ≠ (tasks i).backupId ∧ Registers e.call e.answer)
    (fun e => (tasks e.who).backupId = (tasks i).backupId ∧ Registers e.call e.answer) False tr

theorem Overlap.registered (h : Overlap config tasks ω w tr ps' w') {e : RunEvent ι D}
    (he : e ∈ tr) {repository : String}
    (hrepo : config.item "elasticsearch_config" "es_repository_name" = .ok repository)
    (hregisters : Registers e.call e.answer) :
    e.after.cluster.repositories repository = some (str (tasks e.who).backupId) := by
  obtain ⟨repository', hrepo', hcall'⟩ := (h.issues he).eq_createRepository hregisters.1
  rw [hrepo, Except.ok.injEq] at hrepo'
  subst hrepo'
  obtain ⟨c, hcall, ⟨-, -, hafter⟩ | ⟨hno, -⟩⟩ := h.accepted_or_same he
  · rw [hcall'] at hcall
    cases hcall
    rw [hafter]
    exact Cluster.register_repositories_self ..
  · rw [hregisters.2] at hno
    cases hno

/-- When a run comes to create or restore a snapshot, the repository name still
points to its location. -/
theorem Overlap.location (h : Overlap config tasks ω w tr ps' w') {repository : String}
    (hrepo : config.item "elasticsearch_config" "es_repository_name" = .ok repository)
    (hclean : KeepsLocation tasks i tr) :
    ∀ u ∈ tr, u.who = i → u.call.usesSnapshot = true →
      u.before.cluster.repositories repository = some (str (tasks i).backupId) := by
  refine h.holds_at_use (.inl (Task.guarded_registers config (tasks i)))
    (I := fun w => w.cluster.repositories repository = some (str (tasks i).backupId))
    ?_ ?_ ?_ hclean
  · intro e he hwho hopens
    subst hwho
    exact h.registered he hrepo hopens
  · intro e he hmends
    rw [h.registered he hrepo hmends.2, hmends.1]
  · intro e he hbreaks hbefore
    by_cases hregisters : Registers e.call e.answer
    · rw [h.registered he hrepo hregisters]
      exact congrArg (some <| str ·) (not_not.1 fun hid => hbreaks ⟨hid, hregisters⟩)
    · obtain ⟨c, hcall, ⟨hok, -, hafter⟩ | ⟨-, hafter⟩⟩ := h.accepted_or_same he
      · rw [hafter, Cluster.accept_repositories fun r l heq => ?_, hbefore]
        refine hregisters ⟨?_, hok⟩
        rw [hcall, heq]
        rfl
      · rw [hafter, hbefore]

instance (tasks : ι → Task) (i : ι) (tr : List (RunEvent ι D)) :
    Decidable (KeepsLocation tasks i tr) := inferInstanceAs (Decidable (Interleaved.Undisturbed ..))

/-- A run that got through `snapshot.create` stored its snapshot in its own
location, one that got through `snapshot.restore` read it from there. -/
structure StaysInLocation (config : Config) (b : Int) (u : RunEvent ι D) : Prop where
  created : ∀ repository name, u.call = .es (.createSnapshot repository name) →
    config.snapshotName b = .ok name ∧
      u.after.cluster.snapshots (str b) name = some u.before.cluster.openContents
  restored : ∀ repository name, u.call = .es (.restoreSnapshot repository name) →
    config.snapshotName b = .ok name ∧ ∃ snapshot,
      u.before.cluster.snapshots (str b) name = some snapshot ∧
        u.after.cluster = u.before.cluster.restored snapshot

theorem Overlap.staysInLocation (h : Overlap config tasks ω w tr ps' w')
    (hclean : KeepsLocation tasks i tr) :
    ∀ u ∈ tr, u.who = i → u.answer.isOk = true → StaysInLocation config (tasks i).backupId u := by
  intro u hu hwho hok
  have hissues := h.issues hu
  rw [hwho] at hissues
  obtain ⟨c, hcall, ⟨-, haccept, hafter⟩ | ⟨hno, -⟩⟩ := h.accepted_or_same hu
  · constructor
    · intro repository name heq
      have huse : u.call.usesSnapshot = true := by rw [heq]; rfl
      obtain ⟨repository', name', hrepo, hname, hcall' | hcall'⟩ := hissues.names huse
      · rw [heq] at hcall hcall'
        cases hcall
        cases hcall'
        have hlocation := h.location hrepo hclean u hu hwho huse
        refine ⟨hname, ?_⟩
        cases hstored : u.before.cluster.snapshots (str (tasks i).backupId) name with
        | some snapshot =>
          rw [Cluster.accept_createSnapshot_taken hlocation hstored] at haccept
          cases haccept
        | none =>
          rw [hafter, Cluster.accept_createSnapshot hlocation hstored]
          exact Cluster.setSnapshot_self ..
      · rw [heq] at hcall'
        cases hcall'
    · intro repository name heq
      have huse : u.call.usesSnapshot = true := by rw [heq]; rfl
      obtain ⟨repository', name', hrepo, hname, hcall' | hcall'⟩ := hissues.names huse
      · rw [heq] at hcall'
        cases hcall'
      · rw [heq] at hcall hcall'
        cases hcall
        cases hcall'
        have hlocation := h.location hrepo hclean u hu hwho huse
        have hlookup : u.before.cluster.snapshot? repository name =
            u.before.cluster.snapshots (str (tasks i).backupId) name := by
          rw [Cluster.snapshot?, hlocation]
          rfl
        refine ⟨hname, ?_⟩
        cases hstored : u.before.cluster.snapshots (str (tasks i).backupId) name with
        | none =>
          rw [Cluster.accept_restoreSnapshot_missing (hlookup.trans hstored)] at haccept
          cases haccept
        | some snapshot =>
          cases hconf : u.before.cluster.conflicts snapshot with
          | true =>
            rw [Cluster.accept_restoreSnapshot_conflict (hlookup.trans hstored) hconf] at haccept
            cases haccept
          | false =>
            rw [hafter, Cluster.accept_restoreSnapshot (hlookup.trans hstored) hconf]
            exact ⟨snapshot, rfl, rfl⟩
  · rw [hok] at hno
    cases hno

end Location

/-! ## The outcome of a restore -/

section Outcome

variable {ι : Type} [DecidableEq ι] {config : Config} {tasks : ι → Task} {ω : ι → Outcomes}
  {w w' : World D} {tr : List (RunEvent ι D)} {ps' : ι → Py Unit} {i : ι}

/-- From the time run `i` closes the indices, none are opened or restored before
it restores its snapshot, unless they are closed once more. -/
def KeepsClosed (i : ι) (tr : List (RunEvent ι D)) : Prop :=
  Interleaved.Undisturbed i (fun c _ => c.closes = true) (·.restores = true)
    (fun e => e.call.opens = true ∧ e.answer.isOk = true)
    (fun e => e.call.closes = true ∧ e.answer.isOk = true) False tr

instance (i : ι) (tr : List (RunEvent ι D)) : Decidable (KeepsClosed i tr) :=
  inferInstanceAs (Decidable (Interleaved.Undisturbed ..))

/-- The cluster deleted a snapshot of this name from this location. -/
def DeletesSnapshot (location name : String) (ev : Event Call Reply PyExc (World D)) : Prop :=
  ∃ repository, ev.call = .es (.deleteSnapshot repository name) ∧
    ev.before.cluster.repositories repository = some location ∧ ev.answer.isOk = true

/-- Whenever the snapshot is deleted, it is created again before run `i` restores
it. -/
def KeepsSnapshot (location name : String) (i : ι) (tr : List (RunEvent ι D)) : Prop :=
  Interleaved.Undisturbed i (fun _ _ => False) (·.restores = true)
    (fun e => DeletesSnapshot location name e.toEvent)
    (fun e => CreatesSnapshot location name e.toEvent) True tr

theorem Overlap.closed (h : Overlap config tasks ω w tr ps' w') {e : RunEvent ι D} (he : e ∈ tr)
    (hcloses : e.call.closes = true) (hok : e.answer.isOk = true) : e.after.cluster.AllClosed := by
  obtain ⟨c, hcall, ⟨-, -, hafter⟩ | ⟨hno, -⟩⟩ := h.accepted_or_same he
  · rw [hcall] at hcloses
    cases c with
    | closeIndices =>
      rw [hafter]
      exact Cluster.allClosed_setOpen_false _
    | _ => cases hcloses
  · rw [hok] at hno
    cases hno

/-- When a restore comes to restore its snapshot, no index is open. -/
theorem Overlap.allClosed {b : Int} (h : Overlap config tasks ω w tr ps' w')
    (htask : tasks i = .restore b) (hsmooth : ∀ step, (ω i).es step = none)
    (hclean : KeepsClosed i tr) :
    ∀ u ∈ tr, u.who = i → u.call.restores = true → u.before.cluster.AllClosed := by
  refine h.holds_at_use (.inl (htask ▸ Task.guarded_closes config b))
    (I := fun w => w.cluster.AllClosed) ?_ ?_ ?_ hclean
  · intro e he hwho hcloses
    apply h.closed he hcloses
    obtain ⟨c, hcall, hok, -⟩ := h.exists_es he
    rw [hok, hwho, hsmooth, Cluster.answer_none]
    rw [hcall] at hcloses
    cases c with
    | closeIndices => rfl
    | _ => cases hcloses
  · intro e he hmends
    exact h.closed he hmends.1 hmends.2
  · intro e he hbreaks hbefore
    obtain ⟨c, hcall, ⟨hok, -, hafter⟩ | ⟨-, hafter⟩⟩ := h.accepted_or_same he
    · by_cases hclose : c = .closeIndices
      · exact h.closed he (by rw [hcall, hclose]; rfl) hok
      · have hindices : e.after.cluster.indices = e.before.cluster.indices := by
          rw [hafter]
          apply Cluster.accept_indices hclose
          · intro heq
            exact hbreaks ⟨by rw [hcall, heq]; rfl, hok⟩
          · intro r n heq
            exact hbreaks ⟨by rw [hcall, heq]; rfl, hok⟩
        unfold Cluster.AllClosed
        rw [hindices]
        exact hbefore
    · rw [hafter]
      exact hbefore

/-- When a restore comes to restore its snapshot, the snapshot is still there. -/
theorem Overlap.hasSnapshot {location name : String} (h : Overlap config tasks ω w tr ps' w')
    (hstart : (w.cluster.snapshots location name).isSome = true)
    (hclean : KeepsSnapshot location name i tr) :
    ∀ u ∈ tr, u.who = i → u.call.restores = true →
      (u.before.cluster.snapshots location name).isSome = true := by
  refine h.holds_at_use (.inr ⟨trivial, hstart⟩)
    (I := fun w => (w.cluster.snapshots location name).isSome = true) ?_ ?_ ?_ hclean
  · intro e he hwho hopens
    exact hopens.elim
  · intro e he hmends
    obtain ⟨repository, hcall', hlocation, hok'⟩ := hmends
    obtain ⟨c, hcall, ⟨-, haccept, hafter⟩ | ⟨hno, -⟩⟩ := h.accepted_or_same he
    · rw [hcall'] at hcall
      cases hcall
      cases hstored : e.before.cluster.snapshots location name with
      | some snapshot =>
        rw [Cluster.accept_createSnapshot_taken hlocation hstored] at haccept
        cases haccept
      | none =>
        rw [hafter, Cluster.accept_createSnapshot hlocation hstored, Cluster.setSnapshot_self]
        rfl
    · rw [show e.answer.isOk = true from hok'] at hno
      cases hno
  · intro e he hbreaks hbefore
    obtain ⟨c, hcall, ⟨hok, -, hafter⟩ | ⟨-, hafter⟩⟩ := h.accepted_or_same he
    · obtain ⟨snapshot, hsnapshot⟩ := Option.isSome_iff_exists.1 hbefore
      rw [hafter]
      apply Cluster.accept_keeps_snapshot hsnapshot
      intro repository heq hlocation
      exact hbreaks ⟨repository, by rw [hcall, heq], hlocation, hok⟩
    · rw [hafter]
      exact hbefore

/-- Nothing stands in the way of restore `i`: its snapshot is in its location at
the start, and its calls are let through. -/
structure Unhindered (config : Config) (ω : ι → Outcomes) (w : World D) (i : ι) (b : Int) :
    Prop where
  settings : ∃ settings, config.destSettings = .ok settings
  stored : ∃ name, config.snapshotName b = .ok name ∧
    (w.cluster.snapshots (str b) name).isSome = true
  smooth : ∀ step, (ω i).es step = none

/-- Every call of an unhindered restore is answered with a reply. -/
theorem Overlap.isOk_of_restore {b : Int} {name : String} (h : Overlap config tasks ω w tr ps' w')
    (htask : tasks i = .restore b) (hfree : Unhindered config ω w i b)
    (hname : config.snapshotName b = .ok name) (hlocation : KeepsLocation tasks i tr)
    (hclosed : KeepsClosed i tr) (hkept : KeepsSnapshot (str b) name i tr) :
    ∀ e ∈ tr, e.who = i → e.answer.isOk = true := by
  intro e he hwho
  have hissues := h.issues he
  obtain ⟨name', hname', hstored⟩ := hfree.stored
  rw [hname, Except.ok.injEq] at hname'
  subst hname'
  obtain ⟨c, hcall, hok, -⟩ := h.exists_es he
  rw [hwho, htask] at hissues
  rw [hok, hwho, hfree.smooth, Cluster.answer_none]
  rw [hcall] at hissues
  cases hissues with
  | restoreSnapshot hrepo hname' =>
    rw [hname, Except.ok.injEq] at hname'
    subst hname'
    have hrestores : e.call.restores = true := by rw [hcall]; rfl
    have hrepository := h.location hrepo hlocation e he hwho (by rw [hcall]; rfl)
    obtain ⟨snapshot, hsnapshot⟩ := Option.isSome_iff_exists.1
      (h.hasSnapshot hstored hkept e he hwho hrestores)
    have hlookup := congrArg (·.bind fun location => e.before.cluster.snapshots location name)
      hrepository
    rw [htask] at hlookup
    have hallClosed := h.allClosed htask hfree.smooth hclosed e he hwho hrestores
    rw [Cluster.accept_restoreSnapshot (hlookup.trans hsnapshot) (hallClosed.conflicts snapshot)]
    rfl
  | connect | info | createRepository | closeIndices | openIndices => rfl

theorem Overlap.not_raise_of_restore {b : Int} {name : String}
    (h : Overlap config tasks ω w tr ps' w') (htask : tasks i = .restore b)
    (hfree : Unhindered config ω w i b) (hname : config.snapshotName b = .ok name)
    (hlocation : KeepsLocation tasks i tr) (hclosed : KeepsClosed i tr)
    (hkept : KeepsSnapshot (str b) name i tr) (e : PyExc) : ps' i ≠ .raise e := by
  obtain ⟨settings, hset⟩ := hfree.settings
  intro hraise
  have hreturns := Interleaved.returns (i := i) h
    (htask ▸ Task.returns_restore config hset hname)
    (h.isOk_of_restore htask hfree hname hlocation hclosed hkept)
  rw [hraise] at hreturns
  exact hreturns

end Outcome

theorem Config.snapshotName_inj {config : Config} {b c : Int} {name : String}
    (hb : config.snapshotName b = .ok name) (hc : config.snapshotName c = .ok name) : b = c := by
  unfold Config.snapshotName at hb hc
  obtain ⟨snapshotPrefix, hitem, hb⟩ := exists_of_bind_eq_ok hb
  rw [hitem] at hc
  exact str_inj (String.append_right_inj _ |>.1 (Except.ok.inj (hb.trans hc.symm)))

/-- Only a backup of the same id deletes a snapshot. -/
theorem Overlap.keepsSnapshot {ι : Type} [DecidableEq ι] {config : Config} {tasks : ι → Task}
    {ω : ι → Outcomes} {w w' : World D} {tr : List (RunEvent ι D)} {ps' : ι → Py Unit} {i : ι}
    {b : Int} {name : String} (h : Overlap config tasks ω w tr ps' w')
    (hname : config.snapshotName b = .ok name) (hnone : ∀ j, tasks j ≠ .snapshot b) :
    KeepsSnapshot (str b) name i tr := by
  refine .of_forall_not ?_
  rintro e he ⟨repository, hcall, _⟩
  have hissues := h.issues he
  rw [hcall] at hissues
  generalize htask : tasks e.who = task at hissues
  cases hissues with
  | deleteSnapshot hrepo hname' =>
    exact hnone e.who (htask.trans (congrArg _ (Config.snapshotName_inj hname' hname)))

/-- **Which overlapping runs do not cross over**: those whose location is not
registered away between their own registration and the call that relies on it.
A restore of a snapshot that is there, with its calls let through, does not fail
if moreover the indices stay closed and the snapshot stays there until it
restores it. -/
theorem noCrossOver_of_undisturbed {ι : Type} [DecidableEq ι] (config : Config)
    (tasks : ι → Task) (ω : ι → Outcomes) (w w' : World D) (tr : List (RunEvent ι D))
    (ps' : ι → Py Unit) (h : Overlap config tasks ω w tr ps' w') :
    (∀ i, KeepsLocation tasks i tr → ∀ u ∈ tr, u.who = i → u.answer.isOk = true →
      StaysInLocation config (tasks i).backupId u) ∧
    ∀ i b name, tasks i = .restore b → config.snapshotName b = .ok name →
      Unhindered config ω w i b → KeepsLocation tasks i tr → KeepsClosed i tr →
        KeepsSnapshot (str b) name i tr → ∀ e, ps' i ≠ .raise e :=
  ⟨fun _ hclean => h.staysInLocation hclean,
    fun _ _ _ htask hname hfree hlocation hclosed hkept =>
      h.not_raise_of_restore htask hfree hname hlocation hclosed hkept⟩

section Samples

inductive Side where
  | left
  | right
  deriving DecidableEq

open Side

def Side.task (l r : Task) : Side → Task
  | left => l
  | right => r

/-- Two runs take turns, and every call is let through. -/
def turns (l r : Task) (w : World Nat) (schedule : List Side) :
    List (RunEvent Side Nat) × (Side → Py Unit) × World Nat :=
  interleave (fun _ => World.answer .smoothNewYear) schedule
    (fun i => (i.task l r).prog Config.shipped) w

/-- An open index and the snapshots of two backups of it; the snapshot of the
first one is in the location of the second one too. -/
def World.twoBackups : World Nat :=
  World.logsOnly.setCluster
    { World.logsOnly.cluster with
      snapshots := fun location name =>
        if name = "elastest_snapshot_1" then
          if location = "1" then some (.single "logs" 1)
          else if location = "2" then some (.single "logs" 2) else none
        else if name = "elastest_snapshot_2" ∧ location = "2" then some (.single "logs" 2)
        else none }

theorem overlap_turns (l r : Task) (w : World Nat) (schedule : List Side) :
    Overlap Config.shipped (Side.task l r) (fun _ => .smoothNewYear) w (turns l r w schedule).1
      (turns l r w schedule).2.1 (turns l r w schedule).2.2 :=
  interleaved_interleave _ schedule _ w

/-- A backup comes between the first two calls of a restore. -/
def backupFirst : List Side :=
  [left, right, right, right, right, right, right, left, left, left, left, left]

theorem noCrossOver_of_undisturbed_backupFirst :
    StaysInLocation Config.shipped 1
        (turns (.restore 1) (.snapshot 2) World.twoBackups backupFirst).1[10] ∧
      (turns (.restore 1) (.snapshot 2) World.twoBackups backupFirst).2.1 left ≠
        .raise restoreFailed := by
  obtain ⟨hstays, hrestores⟩ := noCrossOver_of_undisturbed Config.shipped _ _ _ _ _ _
    (overlap_turns (.restore 1) (.snapshot 2) World.twoBackups backupFirst)
  have hlocation : KeepsLocation (Side.task (.restore 1) (.snapshot 2)) left
    (turns (.restore 1) (.snapshot 2) World.twoBackups backupFirst).1 := by decide
  constructor
  · exact hstays left hlocation _ (List.getElem_mem _) rfl rfl
  · refine hrestores left 1 "elastest_snapshot_1" rfl rfl ⟨⟨_, rfl⟩, ⟨_, rfl, rfl⟩, fun _ => rfl⟩
      hlocation (by decide) ?_ _
    exact (overlap_turns ..).keepsSnapshot rfl fun j => by cases j <;> simp [Side.task]

/-- The other run registers its location after the first one has. -/
def registeredAway : List Side :=
  [left, left, left, right, right, right, left, left, left]

/-- Runs that cross over: a snapshot of id 1 is stored in location 2, a restore
of id 1 reads from location 2, and a restore whose snapshot is there fails since
another run registered its location, opened the indices or deleted the snapshot. -/
theorem overlapping_runs_cross :
    (∃ u ∈ (turns (.snapshot 1) (.snapshot 2) World.logsOnly registeredAway).1,
      u.who = left ∧ u.answer.isOk = true ∧ ¬StaysInLocation Config.shipped 1 u) ∧
    (∃ u ∈ (turns (.restore 1) (.restore 2) World.twoBackups registeredAway).1,
      u.who = left ∧ u.answer.isOk = true ∧ ¬StaysInLocation Config.shipped 1 u) ∧
    (World.twoBackups.cluster.snapshots (str 1) "elastest_snapshot_1").isSome = true ∧
    (turns (.restore 1) (.restore 3) World.twoBackups registeredAway).2.1 left =
      .raise restoreFailed ∧
    (turns (.restore 1) (.restore 1) World.twoBackups
      [left, left, left, left, right, right, right, right, right, right, left]).2.1 left =
      .raise restoreFailed ∧
    (turns (.restore 1) (.snapshot 1) World.twoBackups
      [right, right, right, right, right, left, left, left, left, left]).2.1 left =
      .raise restoreFailed := by
  refine ⟨?_, ?_, rfl, rfl, rfl, rfl⟩
  · refine ⟨(turns (.snapshot 1) (.snapshot 2) World.logsOnly registeredAway).1[7],
      List.getElem_mem (by decide), rfl, rfl, fun h => ?_⟩
    have hstored := (h.created "elastest-snapshot" "elastest_snapshot_1" rfl).2
    have hnone : (turns (.snapshot 1) (.snapshot 2) World.logsOnly
        registeredAway).1[7].after.cluster.snapshots (str 1) "elastest_snapshot_1" = none := rfl
    rw [hnone] at hstored
    cases hstored
  · refine ⟨(turns (.restore 1) (.restore 2) World.twoBackups registeredAway).1[7],
      List.getElem_mem (by decide), rfl, rfl, fun h => ?_⟩
    obtain ⟨-, snapshot, hstored, hrestored⟩ :=
      h.restored "elastest-snapshot" "elastest_snapshot_1" rfl
    cases hstored
    have hread := congrArg
      (fun c : Cluster Nat => (c.indices.get? "logs").map (·.content)) hrestored
    have htwo : ((turns (.restore 1) (.restore 2) World.twoBackups
        registeredAway).1[7].after.cluster.indices.get? "logs").map (·.content) = some 2 := rfl
    rw [htwo] at hread
    exact absurd hread (by decide)

end Samples

end Edm
