import Edm.Service.Http
import Edm.Verify.Exceptions
import Edm.Verify.Pages

/-!
# What the status codes say

Each status code of the client's side has one reason: the method is not one of
the resource, the input is not what the endpoint takes, or the row is not there.
A request that is answered so, and every GET, leaves the world as it was
(`statusTells`).
-/

namespace Edm

open Effects Data

variable {D : Type}

/-! ## Reasons -/

/-- What a method of a resource goes by. -/
inductive Input where
  | nothing
  | arguments
  | body (model : Model)

/-- The methods of a resource. -/
def Resource.input : Resource → Method → Option Input
  | .backups, .get => some .arguments
  | .backups, .post => some (.body edmBackupTitle)
  | .backup _, .get => some .nothing
  | .backup _, .put => some (.body edmBackupTitle)
  | .backup _, .delete => some .nothing
  | .archive _, .get => some .arguments
  | .restores, .get => some .nothing
  | .restores, .post => some (.body restoreCreate)
  | .restore _, .get => some .nothing
  | .restore _, .put => some (.body restoreUpdate)
  | .restore _, .delete => some .nothing
  | _, _ => none

def Input.admits (request : HttpRequest) : Input → Bool
  | .nothing => true
  | .arguments => request.arguments.isSome
  | .body model => request.body.any model.validates

/-- What a route of the archive lists. -/
def ArchiveUrl.listRoute : ArchiveUrl → ListRoute
  | .ofYear year => .archive year none none
  | .ofMonth year month => .archive year (some month) none
  | .ofDay year month day => .archive year (some month) (some day)

theorem ArchiveUrl.get_eq (url : ArchiveUrl) (args : PaginationArguments) :
    url.get args = url.listRoute.get args := by
  cases url <;> rfl

/-- The resource is a row under an id that could be one, and it is not there. -/
def World.Lacks (w : World D) : Resource → Prop
  | .backup id => storable id = true ∧ w.backups.find? id = none
  | .restore id => storable id = true ∧ w.restores.find? id = none
  | _ => False

def HttpResponse.code? : HttpResponse → Option Nat
  | .response code _ => some code
  | .processExit _ => none
  | .unserved => none

/-! ## Endpoints -/

section Endpoints

variable {α : Type} (ω : Outcomes) (w : World D)

/-- The response to what a program ended with. -/
def responseTo (returned : α → Body × Nat) : Except PyExc α → HttpResponse
  | .ok a => .response (returned a).2 (returned a).1
  | .error e => (handleError flaskDebug e).toResponse

/-- The response of an endpoint is that to what its program ended with. -/
theorem callEndpoint_bind_pure (p : Py α) (returned : α → Body × Nat) :
    w.callEndpoint ω (p >>= fun a => pure (returned a)) =
      (responseTo returned (p.run (World.answer ω) w).1, (p.run (World.answer ω) w).2) := by
  unfold World.callEndpoint
  rw [Prog.run_bind]
  rcases p.run (World.answer ω) w with ⟨e | a, w'⟩ <;> rfl

/-- An exception is answered with `404`, with `500` or not at all. -/
theorem code?_handleError (e : PyExc) :
    (handleError flaskDebug e).toResponse.code? = some 404 ∧ e = .noResultFound ∨
      (handleError flaskDebug e).toResponse.code? = some 500 ∧ e ≠ .noResultFound ∨
      (handleError flaskDebug e).toResponse.code? = none ∧ e ≠ .noResultFound := by
  cases e with
  | noResultFound => exact .inl ⟨rfl, rfl⟩
  | systemExit code => exact .inr (.inr ⟨rfl, nofun⟩)
  | keyError | elasticsearch | calledProcessError | osError | dbapiError | staleDataError
    | overflowError | exception => exact .inr (.inl ⟨rfl, nofun⟩)

/-- What an endpoint that ran does and answers. -/
structure Ran (method : Method) (resource : Resource) (x : HttpResponse × World D) : Prop where
  accepted : ∀ code ∈ [400, 405], x.1.code? ≠ some code
  notFound : x.1.code? = some 404 ↔ w.Lacks resource
  unchanged : method = .get ∨ w.Lacks resource → x.2 = w

variable {ω w}

/-- An endpoint that ran misses a row just if its program does. -/
theorem ran_callEndpoint {method : Method} {resource : Resource} {p : Py α}
    (returned : α → Body × Nat) (hcode : ∀ a, (returned a).2 ∈ [200, 201, 204])
    (hlacks : (p.run (World.answer ω) w).1 = .error .noResultFound ↔ w.Lacks resource)
    (hsame : method = .get ∨ w.Lacks resource → (p.run (World.answer ω) w).2 = w) :
    Ran w method resource (w.callEndpoint ω (p >>= fun a => pure (returned a))) := by
  rw [callEndpoint_bind_pure]
  refine ⟨?_, ?_, hsame⟩
  · intro code hcodes heq
    cases hrun : (p.run (World.answer ω) w).1 with
    | ok a =>
      rw [hrun] at heq
      have hok := hcode a
      cases heq
      revert hcodes
      revert hok
      generalize (returned a).2 = n
      simp only [List.mem_cons, List.not_mem_nil, or_false]
      omega
    | error e =>
      rw [hrun] at heq
      simp only [responseTo] at heq
      rcases code?_handleError e with ⟨h, -⟩ | ⟨h, -⟩ | ⟨h, -⟩ <;> rw [h] at heq <;> cases heq <;>
        simp at hcodes
  · rw [← hlacks]
    cases hrun : (p.run (World.answer ω) w).1 with
    | ok a =>
      have hok := hcode a
      simp only [responseTo, HttpResponse.code?, Option.some.injEq, reduceCtorEq, iff_false]
      intro h
      rw [h] at hok
      simp at hok
    | error e =>
      simp only [responseTo, Except.error.injEq]
      rcases code?_handleError e with ⟨h, he⟩ | ⟨h, he⟩ | ⟨h, he⟩
      · exact iff_of_true h he
      · exact iff_of_false (by simp [h]) he
      · exact iff_of_false (by simp [h]) he

/-- The error of a row that is not there. -/
theorem oneRow_eq_noResultFound_iff {ρ : Type} {t : Table ρ} {id : Int} :
    World.oneRow t id = .error .noResultFound ↔ storable id = true ∧ t.find? id = none := by
  unfold World.oneRow
  cases storable id with
  | false => simp
  | true => cases t.find? id <;> simp

/-- A first page that is not full tells as well as a count how many rows there are. -/
theorem run_totalOf {keep : Backup → Bool} {page : Int} {perPage : Nat}
    {items : List (Int × Backup)}
    (h : w.pageOf keep perPage ((page - 1) * perPage) = .ok items) :
    (totalOf keep page perPage items).run (World.answer ω) w =
      (.ok (w.matching keep).length, w) := by
  unfold totalOf
  split
  · next hfirst =>
    obtain ⟨rfl, hshort⟩ := hfirst
    have hwindow := World.pageOf_eq_ok h
    rw [Int.sub_self, Int.zero_mul, Int.toNat_zero, window, List.drop_zero] at hwindow
    have hlength : items.length = (w.matching keep).length := by
      rw [hwindow, List.length_take] at hshort ⊢
      omega
    rw [Prog.run_pure, hlength]
  · exact run_dbCall ω w _

theorem run_paginate (keep : Backup → Bool) (page : Int) (perPage : Nat) :
    (paginate keep page perPage).run (World.answer ω) w =
      ((w.pageOf keep perPage ((page - 1) * perPage)).map fun items =>
        ⟨page, perPage, (w.matching keep).length, items⟩, w) := by
  unfold paginate pageOfBackups
  rw [Prog.run_bind, run_dbCall]
  simp only [World.answerDb]
  cases hitems : w.pageOf keep perPage ((page - 1) * perPage) with
  | error e => rfl
  | ok items =>
    simp only [Prog.run_bind, run_totalOf hitems]
    rfl

/-- A page of what a query selects, if its offset fits. -/
theorem callEndpoint_page (keep : Backup → Bool) (page : Int) (perPage : Nat) :
    w.callEndpoint ω (pageEndpoint (paginate keep page perPage)) =
      (if storable ((page - 1) * perPage) then
        .response 200 (.page (marshalPage ⟨page, perPage, (w.matching keep).length,
          window perPage ((page - 1) * perPage).toNat (w.matching keep)⟩))
      else (handleError flaskDebug .overflowError).toResponse, w) := by
  unfold pageEndpoint
  rw [callEndpoint_bind_pure ω w _ fun page => (.page (marshalPage page), 200), run_paginate,
    World.pageOf]
  split <;> rfl

theorem pageOf_ne_noResultFound {keep : Backup → Bool} {limit : Nat} {offset : Int} :
    w.pageOf keep limit offset ≠ .error .noResultFound := by
  unfold World.pageOf
  split <;> simp

end Endpoints

/-! ## Resources -/

section Resources

variable {affinity : String → Option Int} {ω : Outcomes} {w : World D} {request : HttpRequest}
  {resource : Resource}

/-- A page is a read, and misses no row. -/
theorem ran_pageEndpoint {method : Method} (hlacks : ¬w.Lacks resource)
    (keep : Backup → Bool) (page : Int) (perPage : Nat) :
    Ran w method resource (w.callEndpoint ω (pageEndpoint (paginate keep page perPage))) := by
  refine ran_callEndpoint (fun page => (.page (marshalPage page), 200))
    (by simp) (iff_of_false ?_ hlacks) fun _ => by rw [run_paginate]
  rw [run_paginate]
  intro h
  cases hitems : w.pageOf keep perPage ((page - 1) * perPage) with
  | ok items =>
    rw [hitems] at h
    cases h
  | error e =>
    rw [hitems] at h
    cases h
    exact pageOf_ne_noResultFound hitems

/-- Arguments that are admitted are answered with the page they ask for. -/
theorem exists_arguments (route : ListRoute) (hadmits : Input.arguments.admits request = true) :
    ∃ args, request.arguments = some args ∧
      (w.callWithArguments ω request.arguments fun args => route.get args) =
        w.callEndpoint ω (pageEndpoint
          (paginate (fun row => route.keepsDate row.startDate) args.page args.perPage)) := by
  obtain ⟨args, hargs⟩ := Option.isSome_iff_exists.1 hadmits
  refine ⟨args, hargs, ?_⟩
  simp only [World.callWithArguments, hargs, ListRoute.get_eq]

theorem ran_arguments {method : Method} (hlacks : ¬w.Lacks resource) (route : ListRoute)
    (hadmits : Input.arguments.admits request = true) :
    Ran w method resource (w.callWithArguments ω request.arguments fun args => route.get args) := by
  obtain ⟨args, -, heq⟩ := exists_arguments (ω := ω) (w := w) route hadmits
  rw [heq]
  exact ran_pageEndpoint hlacks _ _ _

/-- A body that is admitted gets its endpoint run. -/
theorem ran_body {model : Model} {method : Method} {endpoint : Json → Endpoint}
    (hadmits : request.body.any model.validates = true)
    (hran : ∀ data, Ran w method resource (w.callEndpoint ω (endpoint data))) :
    Ran w method resource (w.callWithBody ω model request.body endpoint) := by
  unfold World.callWithBody
  cases hbody : request.body with
  | none =>
    rw [hbody] at hadmits
    cases hadmits
  | some data =>
    rw [hbody] at hadmits
    have hvalid : model.validates data = true := hadmits
    simp only [hvalid, if_true]
    exact hran data

/-- An endpoint that goes on with a row if it is there. -/
theorem ran_ofRow {ρ α : Type} (t : Table ρ) (id : Int) {method : Method} {p : Py α}
    (returned : α → Body × Nat) (hcode : ∀ a, (returned a).2 ∈ [200, 201, 204])
    (hlacks : w.Lacks resource ↔ storable id = true ∧ t.find? id = none)
    (herror : ∀ e, World.oneRow t id = .error e → p.run (World.answer ω) w = (.error e, w))
    (hok : ∀ row, World.oneRow t id = .ok row →
      ∃ a w', p.run (World.answer ω) w = (.ok a, w') ∧ (method = .get → w' = w)) :
    Ran w method resource (w.callEndpoint ω (p >>= fun a => pure (returned a))) := by
  rw [← oneRow_eq_noResultFound_iff] at hlacks
  refine ran_callEndpoint returned hcode ?_ ?_
  · rw [hlacks]
    cases hrow : World.oneRow t id with
    | ok row =>
      obtain ⟨a, w', hrun, -⟩ := hok row hrow
      rw [hrun]
      exact iff_of_false nofun nofun
    | error e =>
      rw [herror e hrow]
      simp only [Except.error.injEq]
  · intro h
    cases hrow : World.oneRow t id with
    | ok row =>
      obtain ⟨a, w', hrun, hget⟩ := hok row hrow
      rw [hrun]
      rcases h with hmethod | hmiss
      · exact hget hmethod
      · cases hrow.symm.trans (hlacks.1 hmiss)
    | error e => rw [herror e hrow]

theorem ran_getRestores :
    Ran w .get .restores
      (.response (RestoreCollection.get w).2 (RestoreCollection.get w).1, w) := by
  refine ⟨?_, ?_, fun _ => rfl⟩
  · simp [HttpResponse.code?, RestoreCollection.get]
  · simp [HttpResponse.code?, RestoreCollection.get, World.Lacks]

/-- No step of a backup looks for a row. -/
theorem ran_createEdmBackup (data : Json) :
    Ran w .post .backups (w.callEndpoint ω (backupsCollection.post data)) := by
  refine ran_callEndpoint (fun id => (.backupId id, 201)) (by simp)
    (iff_of_false ?_ nofun) ?_
  · intro h
    exact notNoResult_createEdmBackup h rfl
  · rintro (h | h) <;> cases h

/-- Nor does one of a restore. -/
theorem ran_createRestore (data : Json) :
    Ran w .post .restores (w.callEndpoint ω (RestoreCollection.postJson affinity data)) := by
  have heq : RestoreCollection.postJson affinity data =
      createRestore (data.restoreBody affinity) >>= fun _ => pure (.empty, 201) :=
    Prog.bind_assoc _ _ _
  rw [heq]
  refine ran_callEndpoint (fun _ => (.empty, 201)) (by simp) (iff_of_false ?_ nofun) ?_
  · intro h
    exact notNoResult_createRestore h rfl
  · rintro (h | h) <;> cases h

theorem ran_getBackup (id : Nat) :
    Ran w .get (.backup id) (w.callEndpoint ω (backupItem.get id)) := by
  refine ran_ofRow w.backups id
    (fun backup => (.backup (marshalBackup (id, backup)), 200)) (by simp) .rfl ?_ ?_
  · intro e he
    rw [run_oneBackup, he]
  · intro row hrow
    exact ⟨row, w, by rw [run_oneBackup, hrow], fun _ => rfl⟩

theorem ran_putBackup (id : Nat) (data : Json) :
    Ran w .put (.backup id) (w.callEndpoint ω (backupItem.put id data)) := by
  refine ran_ofRow w.backups id (fun _ => (.empty, 204)) (by simp)
    .rfl ?_ ?_
  · intro e he
    rw [run_updateEdmBackup, he]
  · intro row hrow
    exact ⟨(), _, by rw [run_updateEdmBackup, hrow], nofun⟩

theorem ran_deleteBackup (id : Nat) :
    Ran w .delete (.backup id) (w.callEndpoint ω (backupItem.delete id)) := by
  refine ran_ofRow w.backups id (fun _ => (.empty, 204)) (by simp)
    .rfl ?_ ?_
  · intro e he
    rw [run_deleteEdmBackup, he]
  · intro row hrow
    exact ⟨(), _, by rw [run_deleteEdmBackup, hrow], nofun⟩

theorem ran_getRestore (id : Nat) :
    Ran w .get (.restore id) (w.callEndpoint ω (RestoreItem.get id)) := by
  refine ran_ofRow w.restores id
    (fun restore => (.restore (marshalRestore (id, restore)), 200)) (by simp) .rfl ?_ ?_
  · intro e he
    rw [run_oneRestore, he]
  · intro row hrow
    exact ⟨row, w, by rw [run_oneRestore, hrow], fun _ => rfl⟩

theorem ran_putRestore (id : Nat) (data : Json) :
    Ran w .put (.restore id) (w.callEndpoint ω (RestoreItem.put id data)) := by
  refine ran_ofRow w.restores id (fun _ => (.empty, 204)) (by simp)
    .rfl ?_ ?_
  · intro e he
    rw [run_updateRestore, he]
  · intro row hrow
    exact ⟨(), _, by rw [run_updateRestore, hrow], nofun⟩

theorem ran_deleteRestore (id : Nat) :
    Ran w .delete (.restore id) (w.callEndpoint ω (RestoreItem.delete id)) := by
  refine ran_ofRow w.restores id (fun _ => (.empty, 204)) (by simp)
    .rfl ?_ ?_
  · intro e he
    rw [run_deleteRestore, he]
  · intro row hrow
    exact ⟨(), _, by rw [run_deleteRestore, hrow], nofun⟩

/-- Arguments that the parser refuses get no endpoint run. -/
theorem callWithArguments_refused {get : PaginationArguments → Py Pagination}
    (h : (Input.arguments).admits request = false) :
    (w.callWithArguments ω request.arguments get).1.code? = some 400 ∧
      (w.callWithArguments ω request.arguments get).2 = w := by
  have hnone : request.arguments = none := by
    rw [← Option.not_isSome_iff_eq_none]
    exact Bool.eq_false_iff.1 h
  simp [World.callWithArguments, hnone, HttpResponse.code?]

/-- Nor does a body that its model refuses. -/
theorem callWithBody_refused {model : Model} {endpoint : Json → Endpoint}
    (h : (Input.body model).admits request = false) :
    (w.callWithBody ω model request.body endpoint).1.code? = some 400 ∧
      (w.callWithBody ω model request.body endpoint).2 = w := by
  unfold World.callWithBody
  cases hbody : request.body with
  | none => exact ⟨rfl, rfl⟩
  | some data =>
    unfold Input.admits at h
    rw [hbody] at h
    have hvalid : model.validates data = false := h
    simp [hvalid, HttpResponse.code?]

variable (affinity ω w)

/-- One case for each method of each resource. -/
theorem ran_serveHttp {input : Input} (hinput : request.resource.input request.method = some input)
    (hadmits : input.admits request = true) :
    Ran w request.method request.resource (w.serveHttp affinity ω request) := by
  unfold World.serveHttp
  cases hmethod : request.method <;> cases hresource : request.resource <;>
    rw [hmethod, hresource] at hinput <;> cases hinput
  case get.backups => exact ran_arguments id .all hadmits
  case get.backup id => exact ran_getBackup id
  case get.archive url =>
    have heq : url.get = fun args => url.listRoute.get args := funext url.get_eq
    simp only [heq]
    exact ran_arguments id url.listRoute hadmits
  case get.restores => exact ran_getRestores
  case get.restore id => exact ran_getRestore id
  case post.backups => exact ran_body hadmits ran_createEdmBackup
  case post.restores => exact ran_body hadmits ran_createRestore
  case put.backup id => exact ran_body hadmits (ran_putBackup id)
  case put.restore id => exact ran_body hadmits (ran_putRestore id)
  case delete.backup id => exact ran_deleteBackup id
  case delete.restore id => exact ran_deleteRestore id

/-- A method that the resource lacks is refused. -/
theorem serveHttp_notAllowed (h : request.resource.input request.method = none) :
    w.serveHttp affinity ω request = (.response 405 .error, w) := by
  unfold World.serveHttp
  cases hmethod : request.method <;> cases hresource : request.resource <;>
    rw [hmethod, hresource] at h <;> cases h

/-- So is an input that the method does not take. -/
theorem serveHttp_notAdmitted {input : Input}
    (hinput : request.resource.input request.method = some input)
    (hadmits : input.admits request = false) :
    (w.serveHttp affinity ω request).1.code? = some 400 ∧
      (w.serveHttp affinity ω request).2 = w := by
  unfold World.serveHttp
  cases hmethod : request.method <;> cases hresource : request.resource <;>
    rw [hmethod, hresource] at hinput <;> cases hinput
  case get.backups | get.archive => exact callWithArguments_refused hadmits
  case post.backups | post.restores | put.backup | put.restore =>
    exact callWithBody_refused hadmits
  all_goals cases hadmits

end Resources

/-! ## Status codes -/

/-- The method is one of the resource, and the input is what it takes. -/
def HttpRequest.Fits (request : HttpRequest) : Prop :=
  ∃ input, request.resource.input request.method = some input ∧ input.admits request = true

/-- A GET leaves the world as it was, however it is answered. -/
theorem unchanged_of_get (affinity : String → Option Int) (ω : Outcomes) (w : World D)
    {request : HttpRequest} (hmethod : request.method = .get) :
    (w.serveHttp affinity ω request).2 = w := by
  cases hinput : request.resource.input request.method with
  | none => rw [serveHttp_notAllowed affinity ω w hinput]
  | some input =>
    cases hadmits : input.admits request with
    | false => exact (serveHttp_notAdmitted affinity ω w hinput hadmits).2
    | true => exact (ran_serveHttp affinity ω w hinput hadmits).unchanged (.inl hmethod)

end Edm
