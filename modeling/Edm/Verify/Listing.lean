import Edm.Verify.Http

/-!
# Pages of a list

As long as no request changes the backups, the pages of a resource are what
`ListsAll` says: each tells how many rows and pages there are, and together they
show every row the resource lists, in the order of the ids. A page whose offset
takes more than 64 bits is answered with an error.
-/

namespace Edm

open Effects Data

variable {D : Type}

/-- What a resource lists page by page. -/
def Resource.listRoute : Resource → Option ListRoute
  | .backups => some .all
  | .archive url => some url.listRoute
  | _ => none

/-- Ask for a page. -/
def pageRequest (resource : Resource) (args : PaginationArguments) (page : Int) : HttpRequest where
  method := .get
  resource := resource
  arguments := some { args with page := page }

/-- The backups on the page a response holds. -/
def HttpResponse.items : HttpResponse → List BackupJson
  | .response _ (.page page) => page.items
  | _ => []

/-- SQLite can be asked for the rows from the first one of the page on. -/
abbrev HasOffset (perPage : Nat) (page : Int) : Prop := storable ((page - 1) * perPage) = true

/-- The pages that a client gets are those of a list. -/
structure ListsAll (get : Int → HttpResponse) (perPage : Nat) (rows : List BackupJson) :
    Prop where
  answered : ∀ page, HasOffset perPage page → get page = .response 200 (.page
    ⟨page, (rows.length + perPage - 1) / perPage, perPage, rows.length, (get page).items⟩)
  failed : ∀ page, ¬HasOffset perPage page → (get page).code? = some 500
  together : ((List.range ((rows.length + perPage - 1) / perPage)).flatMap fun k =>
    (get (k + 1 : Nat)).items) = rows
  full : ∀ k, k + 1 < (rows.length + perPage - 1) / perPage →
    (get (k + 1 : Nat)).items.length = perPage
  beyond : ∀ page : Int, ((rows.length + perPage - 1) / perPage : Nat) < page →
    HasOffset perPage page → get page = .response 200 (.page
      ⟨page, (rows.length + perPage - 1) / perPage, perPage, rows.length, []⟩)
  before : ∀ page : Int, page ≤ 1 → HasOffset perPage page → (get page).items = (get 1).items

section Listing

variable {w : World D} {resource : Resource} {route : ListRoute}

/-- The page a resource answers with. -/
theorem serveHttp_pageRequest (affinity : String → Option Int) (ω : Outcomes)
    (args : PaginationArguments) (page : Int) (hlist : resource.listRoute = some route) :
    (w.serveHttp affinity ω (pageRequest resource args page)).1 =
      if storable ((page - 1) * args.perPage) then
        .response 200 (.page (marshalPage ⟨page, args.perPage, (w.listed route).length,
          window args.perPage ((page - 1) * args.perPage).toNat (w.listed route)⟩))
      else (handleError flaskDebug .overflowError).toResponse := by
  have hserve : w.serveHttp affinity ω (pageRequest resource args page) =
      w.callEndpoint ω (pageEndpoint
        (paginate (fun row => route.keepsDate row.startDate) page args.perPage)) := by
    cases resource with
    | backup | restores | restore => cases hlist
    | backups =>
      cases hlist
      exact congrArg (w.callEndpoint ω ∘ pageEndpoint)
        (ListRoute.get_eq .all { args with page := page })
    | archive url =>
      obtain rfl : url.listRoute = route := Option.some.inj hlist
      exact congrArg (w.callEndpoint ω ∘ pageEndpoint)
        ((url.get_eq _).trans (ListRoute.get_eq url.listRoute { args with page := page }))
  rw [hserve, callEndpoint_page, w.matching_keepsDate]

/-- The rows on the page a resource answers with. -/
theorem items_pageRequest (affinity : String → Option Int) (ω : Outcomes)
    (args : PaginationArguments) (page : Int) (hlist : resource.listRoute = some route) :
    (w.serveHttp affinity ω (pageRequest resource args page)).1.items =
      if storable ((page - 1) * args.perPage) then
        window args.perPage ((page - 1) * args.perPage).toNat ((w.listed route).map marshalBackup)
      else [] := by
  rw [serveHttp_pageRequest affinity ω args page hlist]
  split
  · exact map_window ..
  · rfl

theorem offset_succ (k perPage : Nat) :
    (((k + 1 : Nat) : Int) - 1) * perPage = ((k * perPage : Nat) : Int) := by
  rw [Int.natCast_succ, Int.add_sub_cancel, Int.natCast_mul]

/-- An offset inside a list fits when the length of the list does. -/
theorem storable_offset {n offset : Nat} (hfits : storable n = true) (h : offset ≤ n) :
    storable offset = true := by
  unfold storable at *
  simp only [Bool.and_eq_true, decide_eq_true_eq] at *
  omega

/-- A page after the last one starts behind the last row. -/
theorem length_le_offset {n perPage : Nat} {page : Int} (hpos : 0 < perPage)
    (h : ((n + perPage - 1) / perPage : Nat) < page) : n ≤ ((page - 1) * perPage).toNat := by
  have hle := le_ceilDiv_mul n hpos
  have hmul := Int.mul_le_mul_of_nonneg_right (Int.le_sub_one_of_lt h)
    (Int.natCast_nonneg perPage)
  rw [← Int.natCast_mul] at hmul
  omega

/-- **The pages of a resource are those of what it lists.** -/
theorem listsAll (affinity : String → Option Int) (ω : Int → Outcomes) (w : World D)
    (args : PaginationArguments) (hlist : resource.listRoute = some route)
    (hfits : storable (w.listed route).length = true) :
    ListsAll (fun page => (w.serveHttp affinity (ω page) (pageRequest resource args page)).1)
      args.perPage ((w.listed route).map marshalBackup) := by
  have hpos : 0 < args.perPage := by
    have hall : ∀ n ∈ perPageChoices, 0 < n := by decide
    exact hall args.perPage args.perPage_mem
  have hserve (page : Int) :=
    serveHttp_pageRequest (w := w) affinity (ω page) args page hlist
  have hitems (page : Int) :=
    items_pageRequest (w := w) affinity (ω page) args page hlist
  have hlength : ((w.listed route).map marshalBackup).length = (w.listed route).length :=
    List.length_map _
  -- a page that starts inside the list
  have hinside (k : Nat) (hk : k * args.perPage ≤ (w.listed route).length) :
      (w.serveHttp affinity (ω (k + 1 : Nat)) (pageRequest resource args (k + 1 : Nat))).1.items =
        window args.perPage (k * args.perPage) ((w.listed route).map marshalBackup) := by
    rw [hitems, offset_succ, if_pos (storable_offset hfits hk), Int.toNat_natCast]
  have hanswered (page : Int) (hpage : HasOffset args.perPage page) :
      (w.serveHttp affinity (ω page) (pageRequest resource args page)).1 = .response 200 (.page
        ⟨page, ((w.listed route).length + args.perPage - 1) / args.perPage, args.perPage,
          (w.listed route).length,
          (w.serveHttp affinity (ω page) (pageRequest resource args page)).1.items⟩) := by
    rw [hserve, if_pos hpage]
    rfl
  constructor
  · rw [hlength]
    exact hanswered
  · intro page hpage
    rw [hserve, if_neg hpage]
    rfl
  · rw [hlength]
    have hle := le_ceilDiv_mul (w.listed route).length hpos
    calc _ = (List.range (((w.listed route).length + args.perPage - 1) / args.perPage)).flatMap
            fun k => window args.perPage (k * args.perPage)
              ((w.listed route).map marshalBackup) := by
          refine List.flatMap_congr ?_
          intro k hk
          exact hinside k (mul_lt_of_lt_ceilDiv (List.mem_range.1 hk) hpos).le
      _ = (w.listed route).map marshalBackup := by
          rw [flatMap_window, List.take_of_length_le (by rw [hlength]; exact hle)]
  · intro k hk
    rw [hlength] at hk
    have hlt := mul_lt_of_lt_ceilDiv hk hpos
    rw [Nat.succ_mul] at hlt
    rw [hinside k (by omega), length_window, hlength]
    omega
  · intro page hpage hoffset
    rw [hlength] at hpage ⊢
    have hempty := hitems page
    rw [if_pos hoffset, window_eq_nil (hlength.le.trans (length_le_offset hpos hpage))] at hempty
    rw [hanswered page hoffset, hempty]
  · intro page hpage hoffset
    have hzero : (page - 1) * (args.perPage : Int) ≤ 0 :=
      Int.mul_nonpos_of_nonpos_of_nonneg (by omega) (Int.natCast_nonneg args.perPage)
    have hone := hinside 0 (by omega)
    rw [Nat.zero_mul] at hone
    rw [hitems, if_pos hoffset, Int.toNat_of_nonpos hzero]
    exact hone.symm

end Listing

section Samples

/-- Three backups on two pages. -/
theorem listsAll_threeStarted :
    ListsAll (fun page => (World.threeStarted.serveHttp String.toInt? .smoothNewYear
        (pageRequest .backups { perPage := 2 } page)).1) 2
      ((World.threeStarted.listed .all).map marshalBackup) :=
  listsAll String.toInt? (fun _ => .smoothNewYear) World.threeStarted { perPage := 2 } rfl
    (by decide)

end Samples

end Edm
