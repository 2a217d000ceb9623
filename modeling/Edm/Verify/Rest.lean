import Edm.Verify.Catalogue
import Edm.Verify.Http

/-!
# The REST API over the two maps

A request of the API is refused before anything happens, lists rows, shows a row
or performs one of the six operations, and one that ends the process of the
server is the last one served. `Api.Allows` says so over the two maps, and every
run of the API is one that it allows (`restRun_history`). So a GET of a row shows
what the last request said of it (`reads_last_said`).
-/

namespace Edm

open Effects Data

variable {D : Type}

/-! ## Operations -/

/-- The operation behind a request, if there is one. -/
def HttpRequest.operation (D : Type) (affinity : String → Option Int) (request : HttpRequest) :
    Option (Request D) :=
  match request.resource, request.method, request.body with
  | .backups, .post, some data => some (.createEdmBackup data.titleBody)
  | .backup id, .put, some data => some (.updateEdmBackup id data.titleBody)
  | .backup id, .delete, _ => some (.deleteEdmBackup id)
  | .restores, .post, some data => some (.createRestore (data.restoreBody affinity))
  | .restore id, .put, some data => some (.updateRestore id data.titleBody)
  | .restore id, .delete, _ => some (.deleteRestore id)
  | _, _, _ => none

/-- The response to what became of an operation. -/
def Answer.toResponse : Method → Answer → HttpResponse
  | _, .created backupId => .response 201 (.backupId backupId)
  | .post, .done => .response 201 .empty
  | _, .done => .response 204 .empty
  | _, .raised e => (handleError flaskDebug e).toResponse

/-! ## The specification -/

/-- The two maps, and whether they are served. -/
structure Api where
  maps : Catalogue
  isUp : Bool

def Server.api (s : Server D) : Api := ⟨s.world.catalogue, s.isUp⟩

/-- The response to a GET of a row. -/
def rowResponse {ρ : Type} (id : Nat) (body : ρ → Body) (row : Option ρ) : HttpResponse :=
  if storable id then
    match row with
    | some row => .response 200 (body row)
    | none => (handleError flaskDebug .noResultFound).toResponse
  else (handleError flaskDebug .overflowError).toResponse

def Catalogue.shown (c : Catalogue) : Resource → Option HttpResponse
  | .backup id =>
    let row := c.backups.lookup (id : Int)
    some (rowResponse id (fun row => .backup (marshalBackup (id, row))) row)
  | .restore id =>
    let row := c.restores.lookup (id : Int)
    some (rowResponse id (fun row => .restore (marshalRestore (id, row))) row)
  | _ => none

/-- The responses a request of the API may be answered with, and what it may lead to. -/
inductive Api.Allows (D : Type) (affinity : String → Option Int) (s : Api)
    (request : HttpRequest) : HttpResponse → Api → Prop where
  | refused {response : HttpResponse} (hup : s.isUp = true) (hfits : ¬request.Fits)
      (hcode : response.code? ∈ [some 400, some 405]) : Allows D affinity s request response s
  | listed {response : HttpResponse} (hup : s.isUp = true) (hfits : request.Fits)
      (hmethod : request.method = .get) (hlist : s.maps.shown request.resource = none)
      (hcode : response.code? ∈ [some 200, some 500]) : Allows D affinity s request response s
  | shown {response : HttpResponse} (hup : s.isUp = true) (hmethod : request.method = .get)
      (hshown : s.maps.shown request.resource = some response) :
      Allows D affinity s request response s
  | performed {q : Request D} {a : Answer} {maps : Catalogue} {response : HttpResponse}
      (hup : s.isUp = true) (hoperation : request.operation D affinity = some q)
      (hallowed : s.maps.Allows storable q a maps)
      (hresponse : a.toResponse request.method = response) :
      Allows D affinity s request response ⟨maps, response.keepsUp⟩
  | down (hdown : s.isUp = false) : Allows D affinity s request .unserved s

/-! ## Steps -/

section Steps

variable (affinity : String → Option Int) (ω : Outcomes) (w : World D) {request : HttpRequest}

/-- An endpoint that performs an operation answers with what became of it. -/
theorem callEndpoint_eq_answered {α : Type} {method : Method} {p : Py α}
    (returned : α → Body × Nat) (toAnswer : α → Answer)
    (h : ∀ a, responseTo returned (.ok a) = (toAnswer a).toResponse method) :
    w.callEndpoint ω (p >>= fun a => pure (returned a)) =
      ((answered toAnswer (p.run (World.answer ω) w)).1.toResponse method,
        (answered toAnswer (p.run (World.answer ω) w)).2) := by
  rw [callEndpoint_bind_pure]
  rcases p.run (World.answer ω) w with ⟨e | a, w'⟩
  · rfl
  · exact congrArg (·, w') (h a)

/-- A body that is admitted goes to the endpoint. -/
theorem callWithBody_eq {model : Model} {endpoint : Json → Endpoint} {data : Json}
    (hbody : request.body = some data) (hadmits : (Input.body model).admits request = true) :
    w.callWithBody ω model request.body endpoint = w.callEndpoint ω (endpoint data) := by
  unfold Input.admits at hadmits
  rw [hbody] at hadmits ⊢
  exact if_pos hadmits

/-- One case for each operation. -/
theorem serveHttp_operation {q : Request D} (hoperation : request.operation D affinity = some q)
    (hfits : request.Fits) :
    w.serveHttp affinity ω request =
      ((w.serveRequest ω q).1.toResponse request.method, (w.serveRequest ω q).2) := by
  obtain ⟨input, hinput, hadmits⟩ := hfits
  unfold HttpRequest.operation at hoperation
  unfold World.serveHttp
  split at hoperation
  case h_1 hresource hmethod hbody =>
    cases hoperation
    rw [hresource, hmethod] at hinput ⊢
    cases hinput
    exact (callWithBody_eq ω w hbody hadmits).trans <|
      callEndpoint_eq_answered ω w (fun id => (.backupId id, 201)) .created fun _ => rfl
  case h_2 hresource hmethod hbody | h_5 hresource hmethod hbody =>
    cases hoperation
    rw [hresource, hmethod] at hinput ⊢
    cases hinput
    exact (callWithBody_eq ω w hbody hadmits).trans <|
      callEndpoint_eq_answered ω w (fun _ => (.empty, 204)) (fun _ => .done) fun _ => rfl
  case h_3 hresource hmethod | h_6 hresource hmethod =>
    cases hoperation
    rw [hresource, hmethod]
    exact callEndpoint_eq_answered ω w (fun _ => (.empty, 204)) (fun _ => .done) fun _ => rfl
  case h_4 hresource hmethod hbody =>
    cases hoperation
    rw [hresource, hmethod] at hinput ⊢
    cases hinput
    refine (callWithBody_eq ω w hbody hadmits).trans ?_
    unfold RestoreCollection.postJson RestoreCollection.post
    rw [Prog.bind_assoc]
    exact callEndpoint_eq_answered ω w (fun _ => (.empty, 201)) (fun _ => .done) fun _ => rfl
  case h_7 => cases hoperation

/-- An endpoint that returns the row it reads shows it. -/
theorem callEndpoint_row {ρ : Type} {t : Table ρ} {id : Nat} {p : Py ρ} (body : ρ → Body)
    (h : p.run (World.answer ω) w = (World.oneRow t id, w)) :
    w.callEndpoint ω (p >>= fun row => pure (body row, 200)) =
      (rowResponse id body (t.toMap.lookup (id : Int)), w) := by
  rw [callEndpoint_bind_pure ω w p fun row => (body row, 200), h, Table.lookup_toMap]
  unfold rowResponse World.oneRow
  cases storable id with
  | false => rfl
  | true => cases t.find? id <;> rfl

/-- A GET of a row shows it. -/
theorem serveHttp_shown {response : HttpResponse} (hmethod : request.method = .get)
    (hshown : w.catalogue.shown request.resource = some response) :
    w.serveHttp affinity ω request = (response, w) := by
  unfold World.serveHttp
  rw [hmethod]
  cases hresource : request.resource with
  | backups | archive | restores =>
    rw [hresource] at hshown
    cases hshown
  | backup id =>
    rw [hresource] at hshown
    refine (callEndpoint_row ω w _ (run_oneBackup ω w id)).trans ?_
    rw [← Option.some.inj hshown]
    rfl
  | restore id =>
    rw [hresource] at hshown
    refine (callEndpoint_row ω w _ (run_oneRestore ω w id)).trans ?_
    rw [← Option.some.inj hshown]
    rfl

/-- A page is answered with, or its offset does not fit. -/
theorem code?_pageEndpoint (keep : Backup → Bool) (page : Int) (perPage : Nat) :
    (w.callEndpoint ω (pageEndpoint (paginate keep page perPage))).1.code? ∈
      [some 200, some 500] := by
  rw [callEndpoint_page]
  split
  · exact List.mem_cons_self
  · exact List.mem_cons_of_mem _ List.mem_cons_self

/-- A GET of rows that takes the arguments answers with them, or fails. -/
theorem code?_serveHttp_listed (hmethod : request.method = .get) (hfits : request.Fits)
    (hlist : w.catalogue.shown request.resource = none) :
    (w.serveHttp affinity ω request).1.code? ∈ [some 200, some 500] := by
  obtain ⟨input, hinput, hadmits⟩ := hfits
  unfold World.serveHttp
  rw [hmethod] at hinput ⊢
  cases hresource : request.resource with
  | backup id | restore id =>
    rw [hresource] at hlist
    cases hlist
  | backups =>
    rw [hresource] at hinput
    cases hinput
    obtain ⟨args, -, heq⟩ := exists_arguments (ω := ω) (w := w) .all hadmits
    exact heq ▸ code?_pageEndpoint ω w _ _ _
  | archive url =>
    rw [hresource] at hinput
    cases hinput
    obtain ⟨args, -, heq⟩ := exists_arguments (ω := ω) (w := w) url.listRoute hadmits
    have hget : url.get = fun args => url.listRoute.get args := funext url.get_eq
    simp only [hget, heq]
    exact code?_pageEndpoint ω w _ _ _
  | restores => exact List.mem_cons_self

/-- What is admitted as a body is one. -/
theorem exists_body {model : Model} (hadmits : (Input.body model).admits request = true) :
    ∃ data, request.body = some data := by
  unfold Input.admits at hadmits
  cases hbody : request.body with
  | none =>
    rw [hbody] at hadmits
    cases hadmits
  | some data => exact ⟨data, rfl⟩

/-- What fits its resource is a GET or has an operation. -/
theorem get_or_operation (hfits : request.Fits) :
    request.method = .get ∨ ∃ q, request.operation D affinity = some q := by
  obtain ⟨input, hinput, hadmits⟩ := hfits
  unfold HttpRequest.operation
  cases hmethod : request.method with
  | get => exact .inl rfl
  | delete =>
    rw [hmethod] at hinput
    cases hresource : request.resource <;> rw [hresource] at hinput <;> cases hinput <;>
      exact .inr ⟨_, rfl⟩
  | post | put =>
    rw [hmethod] at hinput
    cases hresource : request.resource <;> rw [hresource] at hinput <;> cases hinput <;>
      obtain ⟨data, hbody⟩ := exists_body hadmits <;> rw [hbody] <;> exact .inr ⟨_, rfl⟩

/-- A request that does not fit its resource is refused. -/
theorem serveHttp_refused (h : ¬request.Fits) :
    (w.serveHttp affinity ω request).1.code? ∈ [some 400, some 405] ∧
      (w.serveHttp affinity ω request).2 = w := by
  cases hinput : request.resource.input request.method with
  | none =>
    rw [serveHttp_notAllowed affinity ω w hinput]
    simp [HttpResponse.code?]
  | some input =>
    cases hadmits : input.admits request with
    | false =>
      obtain ⟨hcode, hsame⟩ := serveHttp_notAdmitted affinity ω w hinput hadmits
      simp [hcode, hsame]
    | true => exact absurd ⟨input, hinput, hadmits⟩ h

/-- A response with a status code leaves the server up. -/
theorem keepsUp_of_code {response : HttpResponse} {codes : List (Option Nat)}
    (hcode : response.code? ∈ codes) (hcodes : none ∉ codes) : response.keepsUp = true := by
  cases response with
  | response | unserved => rfl
  | processExit code => exact absurd hcode hcodes

/-- Showing a row ends no process, also where the row is missing. -/
theorem keepsUp_rowResponse {ρ : Type} (id : Nat) (body : ρ → Body) (row : Option ρ) :
    (rowResponse id body row).keepsUp = true := by
  unfold rowResponse
  split
  · cases row <;> rfl
  · rfl

theorem keepsUp_of_shown {c : Catalogue} {resource : Resource} {response : HttpResponse}
    (h : c.shown resource = some response) : response.keepsUp = true := by
  cases resource with
  | backups | archive | restores => cases h
  | backup | restore =>
    rw [← Option.some.inj h]
    exact keepsUp_rowResponse _ _ _

/-- **Every request of the API is one the two maps allow.** -/
theorem allows_serve (s : Server D) : s.api.Allows D affinity request
    (s.serve affinity (ω, request)).1 (s.serve affinity (ω, request)).2.api := by
  obtain ⟨w, isUp⟩ := s
  cases isUp with
  | false => exact .down rfl
  | true =>
    have hserve : Server.serve affinity (ω, request) ⟨w, true⟩ =
        ((w.serveHttp affinity ω request).1,
          ⟨(w.serveHttp affinity ω request).2,
            (w.serveHttp affinity ω request).1.keepsUp⟩) := rfl
    rw [hserve]
    have hstays (hsame : (w.serveHttp affinity ω request).2 = w)
        (hup : (w.serveHttp affinity ω request).1.keepsUp = true) :
        Server.api ⟨(w.serveHttp affinity ω request).2,
          (w.serveHttp affinity ω request).1.keepsUp⟩ = Server.api ⟨w, true⟩ := by
      rw [hsame, hup]
    by_cases hfits : request.Fits
    · rcases get_or_operation (D := D) affinity hfits with hmethod | ⟨q, hq⟩
      · have hsame := unchanged_of_get affinity ω w hmethod
        cases hshown : w.catalogue.shown request.resource with
        | some response =>
          have hresponse := serveHttp_shown affinity ω w hmethod hshown
          rw [hstays hsame (hresponse ▸ keepsUp_of_shown hshown), hresponse]
          exact .shown rfl hmethod hshown
        | none =>
          have hcode := code?_serveHttp_listed affinity ω w hmethod hfits hshown
          rw [hstays hsame (keepsUp_of_code hcode (by simp))]
          exact .listed rfl hfits hmethod hshown hcode
      · rw [serveHttp_operation affinity ω w hq hfits]
        exact .performed rfl hq (allows_serveRequest ω w q) rfl
    · obtain ⟨hcode, hsame⟩ := serveHttp_refused affinity ω w hfits
      rw [hstays hsame (keepsUp_of_code hcode (by simp))]
      exact .refused rfl hfits hcode

end Steps

section Frame

variable {ρ : Type} {fits : Int → Bool} {id j : Int} {m m' : KeyMap ρ} {a : Answer}

section Changes

variable {change : ρ → KeyMap ρ → KeyMap ρ}

/-- What was done was done to a row that is there. -/
theorem Changes.of_done (h : Changes fits change id m .done m') :
    fits id = true ∧ ∃ row, m.lookup id = some row ∧ m' = change row m := by
  cases h with
  | found hfits hrow => exact ⟨hfits, _, hrow, rfl⟩

/-- Other rows stay as they are, and so does the row itself if nothing was done. -/
theorem Changes.lookup_eq (h : Changes fits change id m a m')
    (hframe : ∀ row, j ≠ id → (change row m).lookup j = m.lookup j) (hj : a = .done → j ≠ id) :
    m'.lookup j = m.lookup j := by
  cases h with
  | found => exact hframe _ (hj rfl)
  | absent | unfit => rfl

end Changes

/-- An update of one row leaves the others alone. -/
theorem Changes.lookup_of_update {f : ρ → ρ}
    (h : Changes fits (fun row m => m.insert id (f row)) id m a m') (hj : a = .done → j ≠ id) :
    m'.lookup j = m.lookup j :=
  h.lookup_eq (fun _ hne => Finmap.lookup_insert_of_ne _ hne) hj

/-- So does a delete. -/
theorem Changes.lookup_of_delete (h : Changes fits (fun _ m => m.erase id) id m a m')
    (hj : a = .done → j ≠ id) : m'.lookup j = m.lookup j :=
  h.lookup_eq (fun _ hne => Finmap.lookup_erase_ne hne) hj

variable {Fits : Int → Prop} {Holds : Int → ρ → Prop} {Refused MayRefuse : Prop}
  {returned : Int → Answer}

/-- A create that returns has made its row. -/
theorem Creates.of_returned (h : Creates Fits Holds Refused MayRefuse returned m a m')
    (ha : ∀ e, a ≠ .raised e) :
    ∃ id row, a = returned id ∧ Fits id ∧ Holds id row ∧ m' = m.insert id row := by
  cases h with
  | added _ hfits _ hrow => exact ⟨_, _, rfl, hfits, hrow, rfl⟩
  | raisedLater => exact absurd rfl (ha _)
  | refused => exact absurd rfl (ha _)

/-- The rows that are there stay as they are. -/
theorem Creates.lookup_eq (h : Creates Fits Holds Refused MayRefuse returned m a m')
    (hj : m.lookup j ≠ none) : m'.lookup j = m.lookup j := by
  cases h with
  | refused => rfl
  | added _ _ hnew | raisedLater _ _ hnew =>
    refine Finmap.lookup_insert_of_ne _ ?_
    rintro rfl
    exact hj (Finmap.lookup_eq_none.2 hnew)

end Frame

section Responses

variable {a : Answer} {method : Method} {code : Nat}

/-- An exception is never answered with an empty response. -/
theorem toResponse_handleError_ne_empty (e : PyExc) :
    (handleError flaskDebug e).toResponse ≠ .response code .empty := by
  cases e <;> exact nofun

theorem eq_done_of_toResponse (h : a.toResponse method = .response code .empty) : a = .done := by
  cases a with
  | done => rfl
  | created backupId => cases method <;> cases h
  | raised e => exact absurd (by cases method <;> exact h) (toResponse_handleError_ne_empty e)

theorem eq_created_of_toResponse {id : Int}
    (h : a.toResponse method = .response code (.backupId id)) : a = .created id := by
  cases a with
  | done => cases method <;> cases h
  | created backupId =>
    cases h
    rfl
  | raised e => cases method <;> cases e <;> cases h

end Responses

/-! ## What was said last of a row -/

section LastSaid

/-- The title of the row that a resource is. -/
def Catalogue.title? (c : Catalogue) : Resource → Option (Option String)
  | .backup id => (c.backups.lookup (id : Int)).map (·.title)
  | .restore id => (c.restores.lookup (id : Int)).map (·.title)
  | _ => none

def Body.title? : Body → Option (Option String)
  | .backup shown => some shown.title
  | .restore shown => some shown.title
  | _ => none

/-- SQLite holds rows under this id. -/
def Resource.Storable : Resource → Prop
  | .backup id => storable id = true
  | .restore id => storable id = true
  | _ => False

variable (affinity : String → Option Int) (resource : Resource)

/-- The request and its response say that the row has this title now, or that it
is not there. -/
inductive Reports (request : HttpRequest) : HttpResponse → Option (Option String) → Prop where
  | renamed {data : Json} (hresource : request.resource = resource)
      (hmethod : request.method = .put) (hbody : request.body = some data) :
      Reports request (.response 204 .empty) (some data.title)
  | deleted (hresource : request.resource = resource) (hmethod : request.method = .delete) :
      Reports request (.response 204 .empty) none
  | backedUp {id : Nat} {data : Json} (hrow : resource = .backup id)
      (hfits : storable id = true) (hresource : request.resource = .backups)
      (hmethod : request.method = .post) (hbody : request.body = some data) :
      Reports request (.response 201 (.backupId id)) (some data.title)
  | restored {id : Nat} {data : Json} (hrow : resource = .restore id)
      (hresource : request.resource = .restores) (hmethod : request.method = .post)
      (hbody : request.body = some data) (hid : (data.id affinity).named = some (id : Int)) :
      Reports request (.response 201 .empty) (some data.title)

/-- The request may make the row, without saying so. -/
inductive MayMake (request : HttpRequest) : Prop where
  | backup {id : Nat} (hrow : resource = .backup id) (hresource : request.resource = .backups)
      (hmethod : request.method = .post)
  | restore {id : Nat} (hrow : resource = .restore id) (hresource : request.resource = .restores)
      (hmethod : request.method = .post)

/-- The response to a GET of a row that has this title, or is not there. -/
def Reads (response : HttpResponse) : Option (Option String) → Prop
  | some title => ∃ body, response = .response 200 body ∧ body.title? = some title
  | none => response.code? = some 404

/-- The operation updates or deletes the row. -/
inductive Writes (resource : Resource) : Request D → Prop where
  | updatesBackup {id : Nat} {data : TitleBody} (hrow : resource = .backup id) :
      Writes resource (.updateEdmBackup id data)
  | deletesBackup {id : Nat} (hrow : resource = .backup id) : Writes resource (.deleteEdmBackup id)
  | updatesRestore {id : Nat} {data : TitleBody} (hrow : resource = .restore id) :
      Writes resource (.updateRestore id data)
  | deletesRestore {id : Nat} (hrow : resource = .restore id) : Writes resource (.deleteRestore id)

/-- The operation adds a row to the map in which the row of the resource would be. -/
inductive Adds (resource : Resource) : Request D → Prop where
  | backup {id : Nat} {data : TitleBody} (hrow : resource = .backup id) :
      Adds resource (.createEdmBackup data)
  | restore {id : Nat} {data : RestoreBody} (hrow : resource = .restore id) :
      Adds resource (.createRestore data)

variable {affinity resource} {c c' : Catalogue} {s s' : Api} {request : HttpRequest}
  {response : HttpResponse} {x : Option (Option String)} {q : Request D} {a : Answer}

/-- The response to a GET of a row reads its title. -/
theorem reads_rowResponse {ρ : Type} {id : Nat} {body : ρ → Body} {title : ρ → Option String}
    (hbody : ∀ row, (body row).title? = some (title row)) (hfits : storable id = true)
    (row : Option ρ) : Reads (rowResponse id body row) (row.map title) := by
  unfold rowResponse
  rw [if_pos hfits]
  cases row with
  | none => rfl
  | some row => exact ⟨body row, rfl, hbody row⟩

/-- A GET of a row that is served reads what the map holds. -/
theorem reads_of_allows (h : s.Allows D affinity request response s')
    (hresource : request.resource = resource) (hmethod : request.method = .get)
    (hserved : response ≠ .unserved) (hfits : resource.Storable) :
    Reads response (s.maps.title? resource) := by
  subst hresource
  cases h with
  | down => exact absurd rfl hserved
  | refused _ hunfit =>
    refine absurd ⟨.nothing, ?_, rfl⟩ hunfit
    rw [hmethod]
    cases hresource : request.resource with
    | backup | restore => rfl
    | backups | archive | restores =>
      rw [hresource] at hfits
      cases hfits
  | listed _ _ _ hlist =>
    cases hresource : request.resource with
    | backup | restore =>
      rw [hresource] at hlist
      cases hlist
    | backups | archive | restores =>
      rw [hresource] at hfits
      cases hfits
  | shown _ _ hshown =>
    cases hresource : request.resource with
    | backup | restore =>
      rw [hresource] at hshown hfits
      rw [← Option.some.inj hshown]
      exact reads_rowResponse (fun _ => rfl) hfits _
    | backups | archive | restores =>
      rw [hresource] at hfits
      cases hfits
  | performed _ hoperation =>
    unfold HttpRequest.operation at hoperation
    rw [hmethod] at hoperation
    split at hoperation <;> simp_all

/-- Only an operation is answered with `201` or `204`. -/
theorem performed_of_code (h : s.Allows D affinity request response s')
    (hmethod : request.method ≠ .get) (hcode : response.code? ∈ [some 201, some 204]) :
    ∃ q a, request.operation D affinity = some q ∧ s.maps.Allows storable q a s'.maps ∧
      a.toResponse request.method = response := by
  cases h with
  | down => simp [HttpResponse.code?] at hcode
  | refused _ _ hrefused =>
    revert hcode hrefused
    generalize response.code? = code
    rintro hcode hrefused
    simp only [List.mem_cons, List.not_mem_nil, or_false] at hcode hrefused
    rcases hcode with rfl | rfl <;> simp at hrefused
  | listed _ _ hget | shown _ hget => exact absurd hget hmethod
  | performed _ hoperation hallowed hresponse => exact ⟨_, _, hoperation, hallowed, hresponse⟩

/-- A report is the response to an operation. -/
theorem performed_of_reports (h : s.Allows D affinity request response s')
    (hreport : Reports affinity resource request response x) :
    ∃ q a, request.operation D affinity = some q ∧ s.maps.Allows storable q a s'.maps ∧
      a.toResponse request.method = response := by
  cases hreport with
  | renamed _ hmethod | deleted _ hmethod | backedUp _ _ _ hmethod | restored _ _ hmethod =>
    exact performed_of_code h (by simp [hmethod]) (by simp [HttpResponse.code?])

/-- What is reported of a row is so. -/
theorem title?_of_reports (h : s.Allows D affinity request response s')
    (hreport : Reports affinity resource request response x) :
    s'.maps.title? resource = x ∧ resource.Storable := by
  obtain ⟨q, a, hoperation, hallowed, hresponse⟩ := performed_of_reports h hreport
  obtain ⟨⟨backups, restores⟩, isUp⟩ := s'
  unfold HttpRequest.operation at hoperation
  cases hreport with
  | renamed hresource hmethod hbody =>
    obtain rfl := eq_done_of_toResponse hresponse
    rw [hresource, hmethod, hbody] at hoperation
    cases resource with
    | backups | archive | restores => cases hoperation
    | backup id | restore id =>
      cases hoperation
      obtain ⟨hfits, row, -, rfl⟩ := hallowed.2.of_done
      exact ⟨by simp [Catalogue.title?, Json.titleBody], hfits⟩
  | deleted hresource hmethod =>
    obtain rfl := eq_done_of_toResponse hresponse
    rw [hresource, hmethod] at hoperation
    cases resource with
    | backups | archive | restores => cases hoperation
    | backup id | restore id =>
      cases hoperation
      obtain ⟨hfits, row, -, rfl⟩ := hallowed.2.of_done
      exact ⟨by simp [Catalogue.title?], hfits⟩
  | @backedUp id data hrow hfits hresource hmethod hbody =>
    obtain rfl := eq_created_of_toResponse hresponse
    rw [hresource, hmethod, hbody] at hoperation
    cases hoperation
    obtain ⟨id', row, hid, -, ⟨htitle, -⟩, rfl⟩ := hallowed.2.of_returned (by simp)
    cases hid
    subst hrow
    exact ⟨by simp [Catalogue.title?, htitle, Json.titleBody], hfits⟩
  | @restored id data hrow hresource hmethod hbody hid =>
    obtain rfl := eq_done_of_toResponse hresponse
    rw [hresource, hmethod, hbody] at hoperation
    cases hoperation
    obtain ⟨id', row, -, hfits, ⟨hheld, hkey⟩, rfl⟩ := hallowed.2.of_returned (by simp)
    obtain rfl := hkey id hid
    subst hrow
    exact ⟨by simp [Catalogue.title?, hheld, Json.restoreBody], hfits⟩

/-- An operation changes the title of a row by writing or by adding it only. -/
theorem title?_of_allows (h : c.Allows storable q a c') (hwrites : a = .done → ¬Writes resource q)
    (hadds : c.title? resource = none → ¬Adds resource q) :
    c'.title? resource = c.title? resource := by
  cases resource with
  | backups | archive | restores => rfl
  | backup id =>
    have hrow : c'.backups.lookup (id : Int) = c.backups.lookup (id : Int) := by
      cases q with
      | createEdmBackup data =>
        refine h.2.lookup_eq fun hnone => hadds ?_ (.backup rfl)
        simp only [Catalogue.title?, hnone, Option.map_none]
      | updateEdmBackup backupId data =>
        exact h.2.lookup_of_update fun ha heq => hwrites ha (heq ▸ .updatesBackup rfl)
      | deleteEdmBackup backupId =>
        exact h.2.lookup_of_delete fun ha heq => hwrites ha (heq ▸ .deletesBackup rfl)
      | createRestore | updateRestore | deleteRestore | changeStores => rw [h.1]
    simp only [Catalogue.title?, hrow]
  | restore id =>
    have hrow : c'.restores.lookup (id : Int) = c.restores.lookup (id : Int) := by
      cases q with
      | createRestore data =>
        refine h.2.lookup_eq fun hnone => hadds ?_ (.restore rfl)
        simp only [Catalogue.title?, hnone, Option.map_none]
      | updateRestore restoreId data =>
        exact h.2.lookup_of_update fun ha heq => hwrites ha (heq ▸ .updatesRestore rfl)
      | deleteRestore restoreId =>
        exact h.2.lookup_of_delete fun ha heq => hwrites ha (heq ▸ .deletesRestore rfl)
      | createEdmBackup | updateEdmBackup | deleteEdmBackup | changeStores => rw [h.1]
    simp only [Catalogue.title?, hrow]

/-- A request that writes a row and is done reports it. -/
theorem reports_of_writes (hoperation : request.operation D affinity = some q)
    (hwrites : Writes resource q) :
    ∃ y, Reports affinity resource request (Answer.done.toResponse request.method) y := by
  unfold HttpRequest.operation at hoperation
  split at hoperation <;> cases hoperation
  case h_1 | h_4 => cases hwrites
  case h_2 id data hresource hmethod hbody | h_5 id data hresource hmethod hbody =>
    rw [hmethod]
    refine ⟨_, .renamed ?_ hmethod hbody⟩
    rw [hresource]
    cases hwrites with
    | _ hrow => exact hrow.symm
  case h_3 id hresource hmethod | h_6 id hresource hmethod =>
    rw [hmethod]
    refine ⟨_, .deleted ?_ hmethod⟩
    rw [hresource]
    cases hwrites with
    | _ hrow => exact hrow.symm

/-- The operations that add a row are those of the two collections. -/
theorem mayMake_of_adds (hoperation : request.operation D affinity = some q)
    (hadds : Adds resource q) : MayMake resource request := by
  unfold HttpRequest.operation at hoperation
  split at hoperation <;> cases hoperation <;> cases hadds
  case h_1.refl.backup hresource hmethod _ _ hrow => exact .backup hrow hresource hmethod
  case h_4.refl.restore hresource hmethod _ _ hrow => exact .restore hrow hresource hmethod

/-- A request that reports nothing of a row leaves it as it is, and does not make it. -/
theorem title?_of_silent (h : s.Allows D affinity request response s')
    (hsilent : ∀ y, ¬Reports affinity resource request response y)
    (hmake : s.maps.title? resource = none → ¬MayMake resource request) :
    s'.maps.title? resource = s.maps.title? resource := by
  cases h with
  | refused | listed | shown | down => rfl
  | performed _ hoperation hallowed hresponse =>
    refine title?_of_allows hallowed ?_ fun hnone hadds =>
      hmake hnone (mayMake_of_adds hoperation hadds)
    rintro rfl hwrites
    obtain ⟨y, hreport⟩ := reports_of_writes hoperation hwrites
    rw [hresponse] at hreport
    exact hsilent y hreport

/-- **A GET of a row reads what was said of it last**, whatever other requests come
in between, however they end and whatever the environment does to them, if the
server is still up. -/
theorem reads_last_said {s : Server D} {qs : List (Outcomes × HttpRequest)}
    {done between rest : List (ServedHttp D)} {last get : ServedHttp D}
    (hsteps : history (Server.serve affinity) qs s = done ++ last :: (between ++ get :: rest))
    (hlast : Reports affinity resource last.request.2 last.answer x)
    (hsilent : ∀ st ∈ between, ∀ y, ¬Reports affinity resource st.request.2 st.answer y)
    (hmake : x = none → ∀ st ∈ between, ¬MayMake resource st.request.2)
    (hresource : get.request.2.resource = resource) (hmethod : get.request.2.method = .get)
    (hserved : get.answer ≠ .unserved) : Reads get.answer x := by
  have hallows : ∀ st ∈ history (Server.serve affinity) qs s,
      st.before.api.Allows D affinity st.request.2 st.answer st.after.api := by
    intro st hst
    have hserve := serve_of_mem_history hst
    have hallows : st.before.api.Allows D affinity st.request.2
        (Server.serve affinity st.request st.before).1
        (Server.serve affinity st.request st.before).2.api :=
      allows_serve affinity st.request.1 st.before
    rwa [hserve] at hallows
  rw [hsteps] at hallows
  obtain ⟨htitle, hfits⟩ := title?_of_reports (hallows last (by simp)) hlast
  obtain ⟨qs', hbetween⟩ := exists_history_after hsteps
  have hbefore : get.before.api.maps.title? resource = x := by
    refine holds_before (I := fun s => s.api.maps.title? resource = x) hbetween.symm htitle ?_
    intro st hst hx
    rw [← hx]
    refine title?_of_silent (hallows st (by simp [hst])) (hsilent st hst) ?_
    rw [hx]
    exact fun hnone => hmake hnone st hst
  rw [← hbefore]
  exact reads_of_allows (hallows get (by simp)) hresource hmethod hserved hfits

end LastSaid

section Samples

/-- Rename the second backup. -/
def renameSecond : Outcomes × HttpRequest :=
  (.smoothNewYear, {
    method := .put
    resource := .backup 2
    body := some (.object [("title", .string "renamed")]) })

/-- Delete the third one. -/
def deleteThird : Outcomes × HttpRequest :=
  (.smoothNewYear, { method := .delete, resource := .backup 3 })

def getSecond : Outcomes × HttpRequest :=
  (.smoothNewYear, { method := .get, resource := .backup 2 })

theorem reads_last_said_renamed :
    Reads ((history (Server.serve String.toInt?) [renameSecond, deleteThird, getSecond]
      ⟨World.threeStarted, true⟩).map (·.answer))[2] (some (some "renamed")) := by
  have hsteps : history (Server.serve String.toInt?) [renameSecond, deleteThird, getSecond]
      ⟨World.threeStarted, true⟩ = [] ++ _ :: ([_] ++ _ :: []) := rfl
  have hlast : Reports String.toInt? (.backup 2) renameSecond.2
      (Server.serve String.toInt? renameSecond ⟨World.threeStarted, true⟩).1
      (some (some "renamed")) := by
    have hdone : (Server.serve String.toInt? renameSecond ⟨World.threeStarted, true⟩).1 =
        .response 204 .empty := rfl
    rw [hdone]
    exact @Reports.renamed _ _ _ (.object [("title", .string "renamed")]) rfl rfl rfl
  refine reads_last_said hsteps hlast ?_ nofun rfl rfl nofun
  intro st hst y hreport
  obtain rfl := List.mem_singleton.1 hst
  cases hreport with
  | deleted hresource => cases hresource
  | renamed _ hmethod => cases hmethod

end Samples

end Edm
