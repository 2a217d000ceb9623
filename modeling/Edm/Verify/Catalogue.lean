import Edm.Data.FiniteMap
import Edm.Verify.Refusal

/-!
# The catalogue as two finite maps

`Catalogue` is what the tables of backups and restores are there for: two
independent maps from ids to rows. `Catalogue.Allows` says what each request may
do to them and how it may be answered, over any notion of which integers fit
into a key; `catalogueRun_history` shows that every run of the service is a run
of this specification. Python refuses to pass an integer of more than 64 bits to
SQLite, so such an id is neither found nor used. A backup gets the id after the
greatest one, which no longer fits when the greatest of all is taken.
-/

namespace Edm

open Effects Data

variable {D : Type}

/-- The two maps of the service. -/
structure Catalogue where
  backups : KeyMap Backup
  restores : KeyMap Restore

/-- The maps the tables of a world stand for. -/
def World.catalogue (w : World D) : Catalogue := ⟨w.backups.toMap, w.restores.toMap⟩

/-! ## The specification -/

section Specification

variable {ρ : Type} (fits : Int → Bool)

/-- The id after each one of the map fits. -/
def KeysLeft (m : KeyMap ρ) : Prop := ∀ id ∈ m, fits (id + 1) = true

/-- A create adds one binding under a new id, whether it returns or raises later
on; refused, it adds none. -/
inductive Creates (Fits : Int → Prop) (Holds : Int → ρ → Prop) (Refused MayRefuse : Prop)
    (returned : Int → Answer) (m : KeyMap ρ) : Answer → KeyMap ρ → Prop where
  | added {id : Int} {row : ρ} (haccepted : ¬Refused) (hfits : Fits id) (hnew : id ∉ m)
      (hrow : Holds id row) :
      Creates Fits Holds Refused MayRefuse returned m (returned id) (m.insert id row)
  | raisedLater {id : Int} {row : ρ} {e : PyExc} (haccepted : ¬Refused) (hfits : Fits id)
      (hnew : id ∉ m) (hrow : Holds id row) :
      Creates Fits Holds Refused MayRefuse returned m (.raised e) (m.insert id row)
  | refused {e : PyExc} (h : Refused ∨ MayRefuse) :
      Creates Fits Holds Refused MayRefuse returned m (.raised e) m

/-- An update or a delete changes the map by the row it finds. -/
inductive Changes (change : ρ → KeyMap ρ → KeyMap ρ) (id : Int) (m : KeyMap ρ) :
    Answer → KeyMap ρ → Prop where
  | found {row : ρ} (hfits : fits id = true) (hrow : m.lookup id = some row) :
      Changes change id m .done (change row m)
  | absent (hfits : fits id = true) (hrow : id ∉ m) : Changes change id m (.raised .noResultFound) m
  | unfit (hfits : fits id = false) : Changes change id m (.raised .overflowError) m

variable {fits}

/-- A create that raises and leaves its map alone was refused. -/
theorem Creates.refused_of_same {Fits : Int → Prop} {Holds : Int → ρ → Prop}
    {Refused MayRefuse : Prop} {returned : Int → Answer} {m m' : KeyMap ρ} {a : Answer} {e : PyExc}
    (h : Creates Fits Holds Refused MayRefuse returned m a m') (ha : a = .raised e)
    (hreturned : ∀ id, returned id ≠ .raised e) (hsame : m' = m) : Refused ∨ MayRefuse := by
  cases h with
  | added => exact absurd ha (hreturned _)
  | @raisedLater id row _ haccepted hfits hnew hrow =>
    have hmem : id ∈ m.insert id row := Finmap.mem_insert.2 (.inl rfl)
    rw [hsame] at hmem
    exact absurd hmem hnew
  | refused h => exact h

/-- Only an id that does not fit overflows. -/
theorem Changes.unfit_of_overflow {change : ρ → KeyMap ρ → KeyMap ρ} {id : Int}
    {m m' : KeyMap ρ} {a : Answer} (h : Changes fits change id m a m')
    (ha : a = .raised .overflowError) : fits id = false := by
  cases h with
  | found => cases ha
  | absent => cases ha
  | unfit hfits => exact hfits

variable (fits)

/-- No row can be made of this body. -/
def RefusedBody (m : KeyMap Restore) (data : RestoreBody) : Prop :=
  fits data.backupId = false ∨ data.id = .other ∨
    ∃ id, data.id.named = some id ∧ (fits id = false ∨ id ∈ m)

/-- No id may be found for this body. -/
def MayRunOut (m : KeyMap Restore) (data : RestoreBody) : Prop :=
  data.id.named = none ∧ ¬KeysLeft fits m

/-- The row of a restore, under the id its body names if it names one. -/
def RestoreRow (data : RestoreBody) (id : Int) (row : Restore) : Prop :=
  row = ⟨data.title, data.backupId⟩ ∧ ∀ n, data.id.named = some n → id = n

/-- The answers and the maps a request may lead to. -/
def Catalogue.Allows (c : Catalogue) (q : Request D) (a : Answer) (c' : Catalogue) : Prop :=
  match q with
  | .createEdmBackup data => c'.restores = c.restores ∧
      Creates (fun id => KeysLeft fits c.backups → fits id = true)
        (fun _ row => row.title = data.title ∧ row.status = "INITIATED") False False .created
        c.backups a c'.backups
  | .updateEdmBackup backupId data => c'.restores = c.restores ∧
      Changes fits
        (fun row m => m.insert backupId { row with title := data.title, status := "UPDATED" })
        backupId c.backups a c'.backups
  | .deleteEdmBackup backupId => c'.restores = c.restores ∧
      Changes fits (fun _ m => m.erase backupId) backupId c.backups a c'.backups
  | .createRestore data => c'.backups = c.backups ∧
      Creates (fun id => fits id = true) (RestoreRow data) (RefusedBody fits c.restores data)
        (MayRunOut fits c.restores data) (fun _ => .done) c.restores a c'.restores
  | .updateRestore restoreId data => c'.backups = c.backups ∧
      Changes fits (fun row m => m.insert restoreId { row with title := data.title })
        restoreId c.restores a c'.restores
  | .deleteRestore restoreId => c'.backups = c.backups ∧
      Changes fits (fun _ m => m.erase restoreId) restoreId c.restores a c'.restores
  | .changeStores _ => c' = c ∧ a = .done

end Specification

/-! ## The tables -/

section Tables

variable {ρ : Type} {t : Table ρ} {id : Int}

/-- A row that is found is there under an id that fits. -/
theorem changes_of_ok (change : ρ → KeyMap ρ → KeyMap ρ) {row : ρ}
    (h : World.oneRow t id = .ok row) :
    Changes storable change id t.toMap .done (change row t.toMap) := by
  obtain ⟨hfits, hrow⟩ := World.oneRow_eq_ok_iff.1 h
  exact .found hfits (by rw [Table.lookup_toMap, hrow])

/-- A row that was found is written back. -/
theorem changes_put (f : ρ → ρ) {row : ρ} (h : World.oneRow t id = .ok row) :
    Changes storable (fun row m => m.insert id (f row)) id t.toMap .done
      (t.put id (f row)).toMap := by
  rw [Table.toMap_put]
  exact changes_of_ok (fun row m => m.insert id (f row)) h

/-- A row that was found is deleted. -/
theorem changes_remove {row : ρ} (h : World.oneRow t id = .ok row) :
    Changes storable (fun _ m => m.erase id) id t.toMap .done (t.remove id).toMap := by
  rw [Table.toMap_remove]
  exact changes_of_ok (fun _ m => m.erase id) h

/-- A row that is not found leaves the table as it was. -/
theorem changes_of_error (change : ρ → KeyMap ρ → KeyMap ρ) {e : PyExc}
    (h : World.oneRow t id = .error e) :
    Changes storable change id t.toMap (.raised e) t.toMap := by
  unfold World.oneRow at h
  split at h
  · next hfits =>
    split at h
    · cases h
    · next hnone =>
      cases h
      exact .absent hfits ((t.notMem_toMap_iff id).2 hnone)
  · next hfits =>
    cases h
    exact .unfit (Bool.eq_false_iff.2 hfits)

end Tables

section Keys

variable {ω : Outcomes} {w : World D} {data : RestoreBody} {key : Int}

/-- The key after the greatest one fits if keys are left. -/
theorem storable_nextId {ρ : Type} {t : Table ρ} (h : KeysLeft storable t.toMap) :
    storable t.nextId = true := by
  unfold Table.nextId
  cases hmax : t.ids.max? with
  | none => rfl
  | some greatest =>
    have hmem : greatest ∈ t.ids := (List.max?_eq_some_iff.1 hmax).1
    refine h greatest ?_
    rw [← Finmap.lookup_isSome, Table.lookup_toMap]
    exact (t.mem_ids_iff greatest).1 hmem

/-- What a row cannot be committed for, said over the map. -/
theorem cannotCommit_iff : CannotCommit ω w.restores data ↔
    RefusedBody storable w.restores.toMap data ∨
      data.id.named = none ∧ NoKeyLeft ω w.restores := by
  unfold RefusedBody CannotCommit
  simp only [← Finmap.lookup_isSome, Table.lookup_toMap, or_assoc]

/-- SQLite finds no key only where none is left after the greatest one. -/
theorem mayRunOut_of_noKeyLeft (hnamed : data.id.named = none) (h : NoKeyLeft ω w.restores) :
    MayRunOut storable w.restores.toMap data := by
  refine ⟨hnamed, ?_⟩
  intro hleft
  have hfits := storable_nextId hleft
  rw [h.1] at hfits
  cases hfits

/-- The key that a body names is the one it gets. -/
theorem restoreRow_of_requestedKey (h : w.requestedKey ω data = .ok key) :
    RestoreRow data key ⟨data.title, data.backupId⟩ := by
  refine ⟨rfl, ?_⟩
  intro n hn
  unfold World.requestedKey World.restoreKey at h
  split at h
  · cases hid : data.id with
    | absent | other =>
      rw [hid] at hn
      cases hn
    | integer m =>
      by_cases hzero : m = 0
      · simp [hid, BodyId.named, hzero] at hn
      · simp only [hid, BodyId.named, if_neg hzero, Option.some.injEq] at hn
        subst hn
        simp only [hid, BodyId.truthy, bne_iff_ne.2 hzero, if_true] at h
        split at h
        · exact (World.freeKey_eq_ok_iff.1 h).1
        · cases h
    | text m =>
      simp only [hid, BodyId.named, Option.some.injEq] at hn
      subst hn
      simp only [hid, BodyId.truthy, if_true] at h
      split at h
      · exact (World.freeKey_eq_ok_iff.1 h).1
      · cases h
  · cases h

end Keys

/-! ## Steps -/

section Steps

variable (ω : Outcomes) (w : World D)

/-- The row of a backup is added, whatever becomes of its steps. -/
theorem allows_createEdmBackup (data : TitleBody) :
    w.catalogue.Allows storable (.createEdmBackup data : Request D)
      (w.serveRequest ω (.createEdmBackup data)).1
      (w.serveRequest ω (.createEdmBackup data)).2.catalogue := by
  have hsame := sameCatalogue_backupStages (ω := ω) (w := w.withBackup ω data.title)
    "mysqlbackup.cnf" w.backups.nextId
  rw [World.serveRequest, run_createEdmBackup]
  rcases hrun : (backupStages "mysqlbackup.cnf" w.backups.nextId).run (World.answer ω)
    (w.withBackup ω data.title) with ⟨r, w'⟩
  rw [hrun] at hsame
  have hmap : w'.backups.toMap = w.catalogue.backups.insert w.backups.nextId
      ⟨data.title, ω.utcnow, "INITIATED"⟩ := by
    rw [hsame.backups]
    exact Table.toMap_put ..
  refine ⟨?_, ?_⟩
  · rw [answered_snd]
    exact congrArg Table.toMap hsame.restores
  · rw [answered_snd]
    show Creates _ _ _ _ _ _ _ w'.backups.toMap
    rw [hmap]
    cases r with
    | ok _ => exact .added id storable_nextId w.backups.nextId_notMem_toMap ⟨rfl, rfl⟩
    | error e => exact .raisedLater id storable_nextId w.backups.nextId_notMem_toMap ⟨rfl, rfl⟩

/-- The row of a restore is added before its steps, or the restore is refused. -/
theorem allows_createRestore (data : RestoreBody) :
    w.catalogue.Allows storable (.createRestore data : Request D)
      (w.serveRequest ω (.createRestore data)).1
      (w.serveRequest ω (.createRestore data)).2.catalogue := by
  rw [World.serveRequest, run_createRestore]
  cases hkey : w.requestedKey ω data with
  | error e =>
    refine ⟨rfl, .refused ?_⟩
    refine (cannotCommit_iff.1 (requestedKey_eq_error_iff.1 ⟨e, hkey⟩)).imp_right ?_
    exact fun h => mayRunOut_of_noKeyLeft h.1 h.2
  | ok key =>
    have hcommits := fun h => not_cannotCommit_of_requestedKey hkey (cannotCommit_iff.2 (.inl h))
    obtain ⟨hfits, hfree⟩ := World.restoreKey_eq_ok hkey
    have hnew := (w.restores.notMem_toMap_iff key).2 hfree
    have hrow := restoreRow_of_requestedKey hkey
    have hsame := sameCatalogue_restoreStages (ω := ω) (w := w.withRestore key data)
      "mysqlbackup.cnf" data.backupId
    dsimp only
    rcases hrun : (restoreStages "mysqlbackup.cnf" data.backupId).run (World.answer ω)
      (w.withRestore key data) with ⟨r, w'⟩
    rw [hrun] at hsame
    have hmap : w'.restores.toMap =
        w.catalogue.restores.insert key ⟨data.title, data.backupId⟩ := by
      rw [hsame.restores]
      exact Table.toMap_put ..
    refine ⟨?_, ?_⟩
    · rw [answered_snd]
      exact congrArg Table.toMap hsame.backups
    · rw [answered_snd]
      show Creates _ _ _ _ _ _ _ w'.restores.toMap
      rw [hmap]
      cases r with
      | ok _ => exact .added hcommits hfits hnew hrow
      | error e => exact .raisedLater hcommits hfits hnew hrow

/-- **Every request is one the two maps allow.** -/
theorem allows_serveRequest (q : Request D) :
    w.catalogue.Allows storable q (w.serveRequest ω q).1 (w.serveRequest ω q).2.catalogue := by
  cases q with
  | createEdmBackup data => exact allows_createEdmBackup ω w data
  | createRestore data => exact allows_createRestore ω w data
  | updateEdmBackup backupId data =>
    rw [World.serveRequest, run_updateEdmBackup]
    cases hrow : World.oneRow w.backups backupId with
    | error e => exact ⟨rfl, changes_of_error _ hrow⟩
    | ok row =>
      exact ⟨rfl, changes_put
        (fun row => { row with title := data.title, status := "UPDATED" }) hrow⟩
  | deleteEdmBackup backupId =>
    rw [World.serveRequest, run_deleteEdmBackup]
    cases hrow : World.oneRow w.backups backupId with
    | error e => exact ⟨rfl, changes_of_error _ hrow⟩
    | ok row => exact ⟨rfl, changes_remove hrow⟩
  | updateRestore restoreId data =>
    rw [World.serveRequest, run_updateRestore]
    cases hrow : World.oneRow w.restores restoreId with
    | error e => exact ⟨rfl, changes_of_error _ hrow⟩
    | ok row =>
      exact ⟨rfl, changes_put (fun row : Restore => { row with title := data.title }) hrow⟩
  | deleteRestore restoreId =>
    rw [World.serveRequest, run_deleteRestore]
    cases hrow : World.oneRow w.restores restoreId with
    | error e => exact ⟨rfl, changes_of_error _ hrow⟩
    | ok row => exact ⟨rfl, changes_remove hrow⟩
  | changeStores stores => exact ⟨rfl, rfl⟩

end Steps

/-- A run of the service, from the maps `c` on, is one the maps allow. -/
def CatalogueRun (fits : Int → Bool) (c : Catalogue) (steps : List (ServedRequest D)) : Prop :=
  Follows World.catalogue (fun c (q : Outcomes × Request D) => c.Allows fits q.2) c steps

/-- **The catalogue behaves as two independent finite maps**, over the ids of 64
bits, in every run and whatever the steps of its backups and restores do. -/
theorem catalogueRun_history (w : World D) (qs : List (Outcomes × Request D)) :
    CatalogueRun storable w.catalogue (history World.serve qs w) :=
  follows_history (fun q w => allows_serveRequest q.1 w q.2) qs w

section Samples

/-- A restore that names a free id of 65 bits. -/
def wideRestore : Outcomes × Request Nat :=
  (.smoothNewYear, .createRestore ⟨some "restore", .integer 9223372036854775808, 1⟩)

/-- A delete of an id of 65 bits. -/
def wideDelete : Outcomes × Request Nat := (.smoothNewYear, .deleteRestore 9223372036854775808)

/-- Maps over all integers would use such an id, and would say that it is
absent. -/
theorem wide_ids_overflow :
    (history World.serve [wideRestore, wideDelete] World.logsOnly).map (·.answer) =
        [.raised .overflowError, .raised .overflowError] ∧
      ¬CatalogueRun (fun _ => true) World.logsOnly.catalogue
        (history World.serve [wideRestore] World.logsOnly) ∧
      ¬CatalogueRun (fun _ => true) World.logsOnly.catalogue
        (history World.serve [wideDelete] World.logsOnly) := by
  refine ⟨rfl, ?_, ?_⟩
  · rintro (- | ⟨⟨-, hcreates⟩, -⟩)
    rcases hcreates.refused_of_same rfl (fun _ => nofun) rfl with
      (hfits | hother | ⟨id, -, h⟩) | hrunOut
    · cases hfits
    · cases hother
    · rcases h with hfits | hmem
      · cases hfits
      · exact (Table.notMem_toMap_iff _ id).2 rfl hmem
    · exact hrunOut.2 fun _ _ => rfl
  · rintro (- | ⟨⟨-, hchanges⟩, -⟩)
    cases hchanges.unfit_of_overflow rfl

end Samples

end Edm
