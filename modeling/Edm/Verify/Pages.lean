import Edm.Effects.Rely
import Edm.Service.Pages
import Edm.Verify.Business
import Edm.Verify.Reopen
import Mathlib.Data.List.Nodup

/-!
# Walking through the pages

Clients that create and update backups only lengthen the list of ids and start
dates at its end: a new row gets the greatest id, and an update writes back the
start date it has read. `Grows` is this relation, every such client respects it,
and a walk amid changes within it loses and repeats nothing.
-/

namespace Edm

open Effects Data

variable {D : Type}

/-! ## Growing tables -/

/-- What an archive goes by, the start date of a row under its id. -/
def stamp (row : Int × Backup) : Int × DateTime := (row.1, row.2.startDate)

def World.stamps (w : World D) : List (Int × DateTime) := w.backups.rows.map stamp

/-- Backups were added behind those that were there, and no id or start date was
changed. -/
def Grows (w w' : World D) : Prop := w.stamps <+: w'.stamps

theorem grows_refl (w : World D) : Grows w w := List.prefix_refl _

theorem grows_trans (w₁ w₂ w₃ : World D) (h : Grows w₁ w₂) (h' : Grows w₂ w₃) : Grows w₁ w₃ :=
  h.trans h'

theorem grows_of_stamps {w w' : World D} (h : w'.stamps = w.stamps) : Grows w w' :=
  ⟨[], (List.append_nil _).trans h.symm⟩

theorem grows_of_backups {w w' : World D} (h : w'.backups = w.backups) : Grows w w' :=
  grows_of_stamps (congrArg (fun t => t.rows.map stamp) h)

theorem grows_insert (w : World D) (row : Backup) :
    Grows w { w with backups := w.backups.put w.backups.nextId row } := by
  unfold Grows World.stamps
  rw [Table.rows_put_nextId, List.map_append]
  exact List.prefix_append _ _

/-- A commit that does not change the start date leaves the stamps as they are. -/
theorem grows_commit (ω : Outcomes) (w : World D) {id : Int} {loaded row : Backup}
    (h : row.startDate = loaded.startDate) :
    Grows w (w.answerDb ω (.commitBackup id loaded row)).2 := by
  simp only [World.answerDb, World.flushRow]
  split
  · next current hcurrent =>
    have hsame : stamp (id, World.flushedBackup loaded row current) = stamp (id, current) := by
      simp [stamp, World.flushedBackup, World.flushed, h]
    exact grows_of_stamps
      (Table.map_rows_put stamp w.backups (Table.mem_rows_of_find? hcurrent) hsame)
  · exact grows_refl w

/-! ## Clients -/

section Clients

variable (ω : Outcomes)

/-- What the clients ask the database for, apart from inserting and updating. -/
def LeavesBackups (c : Call) : Prop :=
  (∀ d, c ≠ .db d) ∨ ∃ keep, c = .db (.countBackups keep) ∨
    ∃ limit offset, c = .db (.pageOfBackups keep limit offset)

theorem grows_of_leavesBackups (c : Call) (w : World D) (h : LeavesBackups c) :
    Grows w (World.answer ω c w).2 := by
  rcases h with h | ⟨keep, rfl | ⟨limit, offset, rfl⟩⟩
  · exact grows_of_backups (sameCatalogue_answer h).backups
  · exact grows_refl w
  · exact grows_refl w

theorem calls_totalOf (keep : Backup → Bool) (page : Int) (perPage : Nat)
    (items : List (Int × Backup)) : (totalOf keep page perPage items).Calls LeavesBackups := by
  unfold totalOf
  split
  · exact .pure _
  · exact calls_dbCall (.inr ⟨keep, .inl rfl⟩)

theorem calls_paginate (keep : Backup → Bool) (page : Int) (perPage : Nat) :
    (paginate keep page perPage).Calls LeavesBackups := by
  refine .bind (calls_dbCall (.inr ⟨keep, .inr ⟨_, _, rfl⟩⟩)) fun items => ?_
  exact .bind (calls_totalOf keep page perPage items) fun _ => .pure _

theorem calls_walk (route : ListRoute) (args : PaginationArguments) (requests page : Nat) :
    (walk route args requests page).Calls LeavesBackups := by
  induction requests generalizing page with
  | zero => exact .pure _
  | succ requests ih =>
    refine .bind ?_ fun got => ?_
    · cases route <;> exact calls_paginate _ _ _
    · split
      · exact .pure _
      · exact .bind (ih (page + 1)) fun _ => .pure _

/-- A POST adds one row behind all others. -/
theorem respects_post (data : TitleBody) (w : World D) :
    (createEdmBackup data).Respects Grows (World.answer ω) w := by
  apply Prog.Respects.perform_bind
  · intro w₁
    exact grows_insert w₁ _
  · intro w₁ backupId _
    apply Prog.Respects.of_calls (grows_of_leavesBackups ω)
    exact .bind (calls_backupStages (fun _ => .inl fun _ => nofun) (fun _ => .inl fun _ => nofun)
      (.inl fun _ => nofun) _ _) fun _ => .pure _

/-- A PUT does not change a start date. -/
theorem respects_put (backupId : Int) (data : TitleBody) (w : World D) :
    (updateEdmBackup backupId data).Respects Grows (World.answer ω) w := by
  apply Prog.Respects.perform_bind
  · exact grows_refl
  · intro w₁ backup _
    exact .perform fun w₂ => grows_commit ω w₂ rfl

theorem respects_client (client : Client) (w : World D) :
    client.prog.Respects Grows (World.answer ω) w := by
  cases client with
  | walk route args requests =>
    exact .bind (.of_calls (grows_of_leavesBackups ω) (calls_walk route args requests 1) w)
      fun _ _ => trivial
  | post data => exact .bind (respects_post ω data w) fun _ _ => trivial
  | put backupId data => exact .bind (respects_put ω backupId data w) fun _ _ => trivial

end Clients

/-! ## What a route lists -/

theorem PaginationArguments.perPage_pos (args : PaginationArguments) : 0 < args.perPage := by
  have hpos : ∀ n ∈ perPageChoices, 0 < n := by decide
  exact hpos _ args.perPage_mem

/-- Whether a route lists a backup with this start. -/
def ListRoute.keepsDate : ListRoute → DateTime → Bool
  | .all, _ => true
  | .archive year month day, date =>
    startDate year month day ≤ date.text && date.text ≤ endDate year month day

theorem ListRoute.get_eq (route : ListRoute) (args : PaginationArguments) :
    route.get args =
      paginate (fun row => route.keepsDate row.startDate) args.page args.perPage := by
  cases route <;> rfl

/-- The backups a route lists, on all pages together. -/
def World.listed (w : World D) : ListRoute → List (Int × Backup)
  | .all => w.backups.rows
  | .archive year month day => archive year month day w.backups

theorem World.pageOf_eq_ok {w : World D} {keep : Backup → Bool} {limit : Nat} {offset : Int}
    {items : List (Int × Backup)} (h : w.pageOf keep limit offset = .ok items) :
    items = window limit offset.toNat (w.matching keep) := by
  unfold World.pageOf at h
  split at h
  · exact (Except.ok.inj h).symm
  · cases h

theorem World.matching_keepsDate (w : World D) (route : ListRoute) :
    w.matching (fun row => route.keepsDate row.startDate) = w.listed route := by
  cases route with
  | all => exact List.filter_true _
  | archive year month day => rfl

def World.listedStamps (w : World D) (route : ListRoute) : List (Int × DateTime) :=
  (w.listed route).map stamp

theorem World.listedStamps_eq (w : World D) (route : ListRoute) :
    w.listedStamps route = w.stamps.filter fun s => route.keepsDate s.2 := by
  rw [World.stamps, List.filter_map, World.listedStamps, ← w.matching_keepsDate]
  rfl

theorem Grows.listedStamps {w w' : World D} (h : Grows w w') (route : ListRoute) :
    w.listedStamps route <+: w'.listedStamps route := by
  rw [w.listedStamps_eq, w'.listedStamps_eq]
  exact h.filter _

theorem World.listed_sorted (w : World D) (route : ListRoute) :
    (w.listed route).Pairwise fun a b => a.1 < b.1 := by
  cases route with
  | all => exact w.backups.sorted
  | archive year month day => exact w.backups.sorted.filter _

/-! ## A walk amid growth -/

section Walks

variable {ω : Outcomes} {route : ListRoute} {args : PaginationArguments} {requests k : Nat}
  {w w' : World D} {log : List (Event Call Reply PyExc (World D))}

/-- A page is a window of what the query selects at some time during the request. -/
theorem window_of_paginate {keep : Backup → Bool} {page : Int} {perPage : Nat} {got : Pagination}
    (h : RunsAmid Grows (World.answer ω) (paginate keep page perPage) w log (.ok got) w') :
    ∃ w₁, Grows w w₁ ∧ Grows w₁ w' ∧
      got.items = window perPage ((page - 1) * perPage).toNat (w₁.matching keep) := by
  obtain ⟨items, w₂, _, _, hitems, htotal⟩ := h.of_bind grows_refl
  obtain ⟨w₁, hbefore, hanswer, hafter⟩ := hitems.of_perform
  obtain ⟨total, w₃, _, _, hcount, hend⟩ := htotal.of_bind grows_refl
  have hcounting := hcount.rely grows_trans
    (.of_calls (grows_of_leavesBackups ω) (calls_totalOf keep page perPage items) w₂)
  cases hend with
  | pure hend =>
    exact ⟨w₁, hbefore, hafter.trans (hcounting.trans hend), World.pageOf_eq_ok hanswer⟩

/-- The pages of a route, by the stamps of their rows. -/
theorem stamps_of_get {got : Pagination}
    (h : RunsAmid Grows (World.answer ω) (route.get { args with page := (k + 1 : Nat) }) w log
      (.ok got) w') :
    ∃ w₁, Grows w w₁ ∧ Grows w₁ w' ∧
      got.items.map stamp = window args.perPage (k * args.perPage) (w₁.listedStamps route) := by
  rw [ListRoute.get_eq] at h
  obtain ⟨w₁, hbefore, hafter, hitems⟩ := window_of_paginate h
  refine ⟨w₁, hbefore, hafter, ?_⟩
  have hoffset : (((k + 1 : Nat) - 1 : Int) * args.perPage).toNat = k * args.perPage := by
    rw [Int.natCast_succ, Int.add_sub_cancel, ← Int.natCast_mul, Int.toNat_natCast]
  rw [hitems, hoffset, map_window, w₁.matching_keepsDate]
  rfl

/-- One more request of a walk: it got an empty page and the walk is over, or it
goes on. -/
theorem walk_succ_cases {walked : Walk}
    (h : RunsAmid Grows (World.answer ω) (walk route args (requests + 1) (k + 1)) w log
      (.ok walked) w') :
    ∃ w₁ items, Grows w w₁ ∧ Grows w₁ w' ∧
      items.map stamp = window args.perPage (k * args.perPage) (w₁.listedStamps route) ∧
      (items = [] ∧ walked = ⟨[], true⟩ ∨
        items ≠ [] ∧ ∃ w₂ log₂ rest, Grows w₁ w₂ ∧
          RunsAmid Grows (World.answer ω) (walk route args requests (k + 2)) w₂ log₂ (.ok rest) w' ∧
          walked = ⟨items :: rest.pages, rest.ended⟩) := by
  obtain ⟨got, w₂, _, log₂, hget, hnext⟩ := h.of_bind grows_refl
  obtain ⟨w₁, hbefore, hafter, hitems⟩ := stamps_of_get hget
  split at hnext
  · next hempty =>
    cases hnext with
    | pure hend =>
      exact ⟨w₁, got.items, hbefore, hafter.trans hend, hitems,
        .inl ⟨List.isEmpty_iff.1 hempty, rfl⟩⟩
  · next hmore =>
    obtain ⟨rest, w₃, log₃, _, hrest, hend⟩ := hnext.of_bind grows_refl
    cases hend with
    | pure hend =>
      have hgrows := hrest.rely grows_trans
        (.of_calls (grows_of_leavesBackups ω) (calls_walk route args requests (k + 2)) w₂)
      refine ⟨w₁, got.items, hbefore, hafter.trans (hgrows.trans hend), hitems, .inr ⟨?_, ?_⟩⟩
      · intro hnil
        exact hmore (List.isEmpty_iff.2 hnil)
      · exact ⟨w₂, log₃, rest, hafter, hrest.longer grows_trans hend, rfl⟩

/-- The pages keep to the order of what the route lists at the end. -/
theorem flatten_pages_sublist {walked : Walk}
    (h : RunsAmid Grows (World.answer ω) (walk route args requests (k + 1)) w log
      (.ok walked) w') :
    (walked.pages.flatten.map stamp).Sublist
      ((w'.listedStamps route).drop (k * args.perPage)) := by
  induction requests generalizing k w log walked with
  | zero =>
    cases h with
    | pure => exact List.nil_sublist _
  | succ requests ih =>
    obtain ⟨w₁, items, -, hafter, hitems, ⟨-, rfl⟩ | ⟨-, w₂, log₂, rest, -, hrest, rfl⟩⟩ :=
      walk_succ_cases h
    · exact List.nil_sublist _
    · have hrest := ih hrest
      rw [Nat.succ_mul] at hrest
      rw [List.flatten_cons, List.map_append, hitems]
      exact append_window_sublist (hafter.listedStamps route) hrest

/-- The pages of a walk that came to an end begin with what the route listed when
it began. -/
theorem prefix_flatten_pages {walked : Walk}
    (h : RunsAmid Grows (World.answer ω) (walk route args requests (k + 1)) w log
      (.ok walked) w') (hended : walked.ended = true) :
    (w.listedStamps route).drop (k * args.perPage) <+: walked.pages.flatten.map stamp := by
  induction requests generalizing k w log walked with
  | zero =>
    cases h with
    | pure => cases hended
  | succ requests ih =>
    obtain ⟨w₁, items, hbefore, -, hitems, hcases⟩ := walk_succ_cases h
    obtain ⟨rfl, rfl⟩ | ⟨-, w₂, log₂, rest, hbetween, hrest, rfl⟩ := hcases
    · rw [drop_eq_nil_of_window (hbefore.listedStamps route) args.perPage_pos hitems.symm]
      exact List.nil_prefix
    · have hrest := ih hrest hended
      rw [Nat.succ_mul] at hrest
      rw [List.flatten_cons, List.map_append, hitems]
      have hgrows : Grows w w₂ := hbefore.trans hbetween
      have hdrop := prefix_drop (hgrows.listedStamps route) (k * args.perPage + args.perPage)
      exact drop_prefix_window_append (hbefore.listedStamps route) (hdrop.trans hrest)

/-- A walk that may ask more often than it has got backups has come to an end. -/
theorem ended_of_length_lt {walked : Walk}
    (h : RunsAmid Grows (World.answer ω) (walk route args requests (k + 1)) w log
      (.ok walked) w') (hlt : walked.pages.flatten.length < requests) :
    walked.ended = true := by
  induction requests generalizing k w log walked with
  | zero => cases hlt
  | succ requests ih =>
    obtain ⟨w₁, items, -, -, -, ⟨-, rfl⟩ | ⟨hne, w₂, log₂, rest, -, hrest, rfl⟩⟩ :=
      walk_succ_cases h
    · rfl
    · have hpos := List.length_pos_iff.2 hne
      have hlen : items.length + rest.pages.flatten.length < requests + 1 := by
        rw [← List.length_append]
        exact hlt
      have hrest : rest.ended = true := ih hrest (by omega)
      exact hrest

end Walks

/-! ## Walks among other clients -/

/-- The ids on the pages, in the order in which the client sees them. -/
def Walk.ids (walked : Walk) : List Int := walked.pages.flatten.map (·.1)

/-- The pages show each of these rows once, no row twice, and the ids in increasing
order. -/
structure Walk.LosesNothing (walked : Walk) (start : List (Int × Backup)) : Prop where
  once : ∀ row ∈ start, walked.ids.count row.1 = 1
  repeatsNothing : walked.ids.Nodup
  increasing : walked.ids.Pairwise (· < ·)

theorem Walk.losesNothing {walked : Walk} {w w' : World D} {route : ListRoute}
    (hkept : w.listedStamps route <+: walked.pages.flatten.map stamp)
    (horder : (walked.pages.flatten.map stamp).Sublist (w'.listedStamps route)) :
    walked.LosesNothing (w.listed route) := by
  have hids : walked.ids = (walked.pages.flatten.map stamp).map (·.1) := by
    rw [List.map_map]
    rfl
  have hincreasing : walked.ids.Pairwise (· < ·) := by
    rw [hids]
    apply List.Pairwise.sublist (horder.map _)
    rw [World.listedStamps, List.map_map]
    exact List.pairwise_map.2 (w'.listed_sorted route)
  have hnodup : walked.ids.Nodup := hincreasing.imp fun h => h.ne
  refine ⟨?_, hnodup, hincreasing⟩
  intro row hrow
  have hmem : row.1 ∈ walked.ids := by
    rw [hids]
    exact List.mem_map_of_mem (hkept.mem (List.mem_map_of_mem hrow))
  exact List.count_eq_one_of_mem hnodup hmem

section Clients

variable {ι : Type} [DecidableEq ι] {clients : ι → Client} {ω : ι → Outcomes} {w w' : World D}
  {tr : List (Issued ι Call Reply PyExc (World D))} {ps' : ι → Py (Option Walk)} {i : ι}
  {route : ListRoute} {args : PaginationArguments} {requests : Nat} {walked : Walk}

/-- Among such clients each one runs as if alone amid growth. -/
theorem runsAmid_client
    (h : Interleaved (fun j => World.answer (ω j)) (fun j => (clients j).prog) w tr ps' w')
    (hend : ps' i = .pure (some walked)) :
    RunsAmid Grows (World.answer (ω i)) (clients i).prog w
      ((tr.filter fun e => e.who = i).map (·.toEvent)) (.ok (some walked)) w' := by
  have hrely := h.rely grows_refl grows_trans fun j => respects_client (ω j) (clients j) w
  exact h.runsAmid grows_refl grows_trans hrely hend

/-- A walk that came to an end may be taken to start with its first request. -/
theorem runsAmid_walk
    (h : Interleaved (fun j => World.answer (ω j)) (fun j => (clients j).prog) w tr ps' w')
    (hwalk : clients i = .walk route args requests) (hend : ps' i = .pure (some walked))
    (hended : walked.ended = true) :
    ∃ first log, tr.find? (fun e => e.who = i) = some first ∧
      RunsAmid Grows (World.answer (ω i)) (walk route args requests 1) first.before log
        (.ok walked) w' := by
  have hruns := runsAmid_client h hend
  rw [hwalk] at hruns
  rw [← List.head?_filter]
  generalize tr.filter (fun e => e.who = i) = own at hruns
  cases own with
  | nil =>
    -- it asked for nothing, so it did not see an empty page
    cases requests with
    | zero =>
      cases hruns with
      | pure => cases hended
    | succ requests => cases route <;> cases hruns
  | cons first own =>
    obtain ⟨walked', w₁, log₁, _, hwalked, hpure⟩ :=
      (hruns.from_first grows_refl).of_bind grows_refl
    cases hpure with
    | pure hgrows => exact ⟨first, log₁, rfl, hwalked.longer grows_trans hgrows⟩

/-- **Walking through the pages loses and repeats nothing** while other clients
create and update backups: a client that went on until a page was empty has seen
every backup the route listed when it read the first page, once. -/
theorem walk_losesNothing {ι : Type} [DecidableEq ι] (clients : ι → Client) (ω : ι → Outcomes)
    (w w' : World D) (tr : List (Issued ι Call Reply PyExc (World D))) (ps' : ι → Py (Option Walk))
    (h : Interleaved (fun j => World.answer (ω j)) (fun j => (clients j).prog) w tr ps' w') (i : ι)
    (route : ListRoute) (args : PaginationArguments) (requests : Nat) (walked : Walk)
    (hwalk : clients i = .walk route args requests) (hend : ps' i = .pure (some walked))
    (hended : walked.ended = true) :
    ∃ first, tr.find? (fun e => e.who = i) = some first ∧
      walked.LosesNothing (first.before.listed route) := by
  obtain ⟨first, log, hfirst, hruns⟩ := runsAmid_walk h hwalk hend hended
  have hkept := prefix_flatten_pages (k := 0) hruns hended
  have horder := flatten_pages_sublist (k := 0) hruns
  rw [Nat.zero_mul, List.drop_zero] at hkept horder
  exact ⟨first, hfirst, Walk.losesNothing hkept horder⟩

/-- A walk that may ask more often than the route lists backups in the end does
come to an end. -/
theorem ended_of_listed_length_lt
    (h : Interleaved (fun j => World.answer (ω j)) (fun j => (clients j).prog) w tr ps' w')
    (hwalk : clients i = .walk route args requests) (hend : ps' i = .pure (some walked))
    (hlt : (w'.listed route).length < requests) : walked.ended = true := by
  have hruns := runsAmid_client h hend
  rw [hwalk] at hruns
  obtain ⟨walked', w₁, _, _, hwalked, hpure⟩ := hruns.of_bind grows_refl
  cases hpure with
  | pure hgrows =>
    have hwalked := hwalked.longer grows_trans hgrows
    have hle := (flatten_pages_sublist (k := 0) hwalked).length_le
    rw [Nat.zero_mul, List.drop_zero, World.listedStamps, List.length_map, List.length_map] at hle
    exact ended_of_length_lt (k := 0) hwalked (Nat.lt_of_le_of_lt hle hlt)

end Clients

section Samples

/-- A client that walks in pages of two, one that creates a backup and one that
renames the first. -/
def threeClients : Fin 3 → Client
  | 0 => .walk .all { perPage := 2 } 5
  | 1 => .post ⟨some "fourth"⟩
  | 2 => .put 1 ⟨some "kept"⟩

def started (title : String) : Backup :=
  ⟨some title, Outcomes.smoothNewYear.utcnow, "INITIATED"⟩

def World.threeStarted : World Nat :=
  { World.logsOnly with
    backups :=
      ((Table.empty.put 1 (started "first")).put 2 (started "second")).put 3 (started "third") }

/-- The others come in between the first two pages. -/
def betweenPages : List (Fin 3) := [0, 0, 1, 2, 2, 0, 0, 0, 0]

def threeTurns : List (Issued (Fin 3) Call Reply PyExc (World Nat)) ×
    (Fin 3 → Py (Option Walk)) × World Nat :=
  interleave (fun _ => World.answer .smoothNewYear) betweenPages (fun i => (threeClients i).prog)
    World.threeStarted

theorem walk_losesNothing_betweenPages :
    ∃ first, threeTurns.1.find? (fun e => e.who = 0) = some first ∧
      Walk.LosesNothing ⟨[[(1, started "first"), (2, started "second")],
        [(3, started "third"), (4, started "fourth")]], true⟩ (first.before.listed .all) :=
  walk_losesNothing threeClients (fun _ => .smoothNewYear) World.threeStarted _ _ _
    (interleaved_interleave _ betweenPages _ _) 0 .all { perPage := 2 } 5 _ rfl rfl rfl

end Samples

end Edm
