import Mathlib.Algebra.Ring.Int.Defs
import Edm.Service.Api
import Edm.Service.Pages
import Edm.Service.Run

/-!
# The REST API: `serializers.py`, `parsers.py` and `endpoints/`

A request comes with the resource its URL was routed to and with what its
arguments were parsed to. Its body is validated, its endpoint runs, and what the
endpoint returns is marshalled. What flask_restplus itself says in an error is
left out, its status code is not.
-/

namespace Edm

open Effects Data

variable {D : Type}

/-! ## Bodies -/

/-- A JSON value as Python holds it. A finite float is `mantissa * 2 ^ exponent`. -/
inductive Json where
  | null
  | bool (b : Bool)
  | integer (n : Int)
  | float (mantissa exponent : Int)
  | infinity
  | nan
  | string (s : String)
  | array (values : List Json)
  | object (members : List (String × Json))

/-- `data.get(name)`; of members of one name the last counts. -/
def Json.get? : Json → String → Option Json
  | .object members, name => members.reverse.lookup name
  | _, _ => none

/-- `fields.String` and `fields.Integer` -/
inductive FieldType where
  | string
  | integer

def FieldType.admits : FieldType → Json → Bool
  | .string, .string _ => true
  | .integer, .integer _ => true
  | _, _ => false

/-- An `api.model`: its fields, all of them required. Other members may be there. -/
abbrev Model := List (String × FieldType)

def edmBackupTitle : Model := [("title", .string)]

def restoreCreate : Model := [("title", .string), ("backup_id", .integer)]

def restoreUpdate : Model := [("title", .string)]

/-- What `settings.RESTPLUS_VALIDATE` makes of a body before the endpoint runs. -/
def Model.validates (model : Model) : Json → Bool
  | .object members =>
    model.all fun field => ((Json.object members).get? field.1).any field.2.admits
  | _ => false

def Json.title (data : Json) : Option String :=
  match data.get? "title" with
  | some (.string title) => some title
  | _ => none

def Json.backupId (data : Json) : Int :=
  match data.get? "backup_id" with
  | some (.integer backupId) => backupId
  | _ => 0

/-- The integer a finite float is equal to, if it is one. -/
def integerOfFloat (mantissa : Int) : Int → Option Int
  | .ofNat e => some (mantissa * 2 ^ e)
  | .negSucc e => if mantissa % 2 ^ (e + 1) = 0 then some (mantissa / 2 ^ (e + 1)) else none

/-- What a value is as the `id` of a restore body. Python holds zero, `""` and what
is empty false, the driver passes `nan` on as `NULL`, and SQLite takes a float
for the integer it is equal to and a text for the one its `affinity` gives. -/
def Json.bodyId (affinity : String → Option Int) : Json → BodyId
  | .null => .absent
  | .bool b => if b then .integer 1 else .absent
  | .integer n => .integer n
  | .float mantissa exponent =>
    if mantissa = 0 then .absent
    else
      match integerOfFloat mantissa exponent with
      | some n => if storable n && n ≠ -9223372036854775808 then .integer n else .other
      | none => .other
  | .infinity => .other
  | .nan => .absent
  | .string s =>
    if s = "" then .absent
    else
      match affinity s with
      | some n => if storable n then .text n else .other
      | none => .other
  | .array values => if values.isEmpty then .absent else .other
  | .object members => if members.isEmpty then .absent else .other

/-- `data.get('id')` -/
def Json.id (affinity : String → Option Int) (data : Json) : BodyId :=
  ((data.get? "id").map (·.bodyId affinity)).getD .absent

def Json.titleBody (data : Json) : TitleBody := ⟨data.title⟩

def Json.restoreBody (affinity : String → Option Int) (data : Json) : RestoreBody :=
  ⟨data.title, data.id affinity, data.backupId⟩

/-! ## Marshalling -/

/-- `datetime.isoformat()`: no microseconds are no text. -/
def DateTime.isoformat (d : DateTime) : String :=
  dateText d.year d.month d.day ++ "T" ++ padded 2 d.hour ++ ":" ++ padded 2 d.minute ++ ":" ++
    padded 2 d.second ++ if d.microsecond = 0 then "" else "." ++ padded 6 d.microsecond

/-- `edm_backup` -/
structure BackupJson where
  id : Int
  title : Option String
  startDate : String
  deriving DecidableEq

/-- `page_of_edm_backups` -/
structure PageJson where
  page : Int
  pages : Nat
  perPage : Nat
  total : Nat
  items : List BackupJson
  deriving DecidableEq

/-- `restore` -/
structure RestoreJson where
  id : Int
  title : Option String
  backupId : Int
  deriving DecidableEq

def marshalBackup (row : Int × Backup) : BackupJson :=
  ⟨row.1, row.2.title, row.2.startDate.isoformat⟩

def marshalRestore (row : Int × Restore) : RestoreJson := ⟨row.1, row.2.title, row.2.backupId⟩

/-- `int(ceil(self.total / float(self.per_page)))` -/
def Pagination.pages (p : Pagination) : Nat := (p.total + p.perPage - 1) / p.perPage

def marshalPage (p : Pagination) : PageJson :=
  ⟨p.page, p.pages, p.perPage, p.total, p.items.map marshalBackup⟩

inductive Body where
  | empty
  /-- `edm_backup_resp` -/
  | backupId (id : Int)
  | backup (backup : BackupJson)
  | page (page : PageJson)
  | restore (restore : RestoreJson)
  | restores (restores : List RestoreJson)
  | message (text : String)
  /-- What the framework says. -/
  | error
  deriving DecidableEq

/-- How a request ends. The process of the server may end with it, and no one
serves it after that. -/
inductive HttpResponse where
  | response (code : Nat) (body : Body)
  | processExit (code : Int)
  | unserved
  deriving DecidableEq

/-! ## Endpoints -/

/-- What an endpoint returns: what is marshalled, and a status code. -/
abbrev Endpoint := Py (Body × Nat)

def backupsCollection.post (data : Json) : Endpoint := do
  let backupId ← createEdmBackup data.titleBody
  pure (.backupId backupId, 201)

def backupItem.get (id : Int) : Endpoint := do
  let backup ← oneBackup id
  pure (.backup (marshalBackup (id, backup)), 200)

def backupItem.put (id : Int) (data : Json) : Endpoint := do
  updateEdmBackup id data.titleBody
  pure (.empty, 204)

def backupItem.delete (id : Int) : Endpoint := do
  deleteEdmBackup id
  pure (.empty, 204)

/-- The page a collection returns. -/
def pageEndpoint (get : Py Pagination) : Endpoint := do
  let page ← get
  pure (.page (marshalPage page), 200)

/-- `Restore.query.all()` -/
def RestoreCollection.get (w : World D) : Body × Nat :=
  (.restores (w.restores.rows.map marshalRestore), 200)

def RestoreCollection.postJson (affinity : String → Option Int) (data : Json) : Endpoint := do
  let code ← RestoreCollection.post (data.restoreBody affinity)
  pure (.empty, code)

def RestoreItem.get (id : Int) : Endpoint := do
  let restore ← oneRestore id
  pure (.restore (marshalRestore (id, restore)), 200)

def RestoreItem.put (id : Int) (data : Json) : Endpoint := do
  updateRestore id data.titleBody
  pure (.empty, 204)

def RestoreItem.delete (id : Int) : Endpoint := do
  deleteRestore id
  pure (.empty, 204)

/-! ## Resources -/

/-- What a URL of the API names. -/
inductive Resource where
  | backups
  | backup (id : Nat)
  | archive (url : ArchiveUrl)
  | restores
  | restore (id : Nat)

def ArchiveUrl.get (args : PaginationArguments) : ArchiveUrl → Py Pagination
  | .ofYear year => backupsArchiveCollection.get year none none args
  | .ofMonth year month => backupsArchiveCollection.get year (some month) none args
  | .ofDay year month day => backupsArchiveCollection.get year (some month) (some day) args

/-! ## Requests -/

inductive Method where
  | get
  | post
  | put
  | delete
  deriving DecidableEq

/-- A request as it comes to an endpoint. -/
structure HttpRequest where
  method : Method
  resource : Resource
  /-- What `pagination_arguments.parse_args` returns, if it does not abort. -/
  arguments : Option PaginationArguments := some {}
  /-- What the JSON of its body parses to, if it has any. -/
  body : Option Json := none

def HttpAnswer.toResponse : HttpAnswer → HttpResponse
  | .response code (some text) => .response code (.message text)
  | .response code none => .response code .error
  | .processExit code => .processExit code

section Serve

variable (affinity : String → Option Int) (ω : Outcomes) (w : World D)

def World.callEndpoint (endpoint : Endpoint) : HttpResponse × World D :=
  match endpoint.run (World.answer ω) w with
  | (.ok (body, code), w') => (.response code body, w')
  | (.error e, w') => ((handleError flaskDebug e).toResponse, w')

/-- Call an endpoint with the arguments it parses. -/
def World.callWithArguments (arguments : Option PaginationArguments)
    (get : PaginationArguments → Py Pagination) : HttpResponse × World D :=
  match arguments with
  | some args => w.callEndpoint ω (pageEndpoint (get args))
  | none => (.response 400 .error, w)

/-- Call an endpoint with a body its model admits. -/
def World.callWithBody (model : Model) (body : Option Json) (endpoint : Json → Endpoint) :
    HttpResponse × World D :=
  match body with
  | some data =>
    if model.validates data then w.callEndpoint ω (endpoint data) else (.response 400 .error, w)
  | none => (.response 400 .error, w)

/-- Serve a request with the method of the class its resource belongs to. -/
def World.serveHttp (request : HttpRequest) : HttpResponse × World D :=
  match request.resource, request.method with
  | .backups, .get => w.callWithArguments ω request.arguments backupsCollection.get
  | .backups, .post => w.callWithBody ω edmBackupTitle request.body backupsCollection.post
  | .backup id, .get => w.callEndpoint ω (backupItem.get id)
  | .backup id, .put => w.callWithBody ω edmBackupTitle request.body (backupItem.put id)
  | .backup id, .delete => w.callEndpoint ω (backupItem.delete id)
  | .archive url, .get => w.callWithArguments ω request.arguments url.get
  | .restores, .get => (.response (RestoreCollection.get w).2 (RestoreCollection.get w).1, w)
  | .restores, .post =>
    w.callWithBody ω restoreCreate request.body (RestoreCollection.postJson affinity)
  | .restore id, .get => w.callEndpoint ω (RestoreItem.get id)
  | .restore id, .put => w.callWithBody ω restoreUpdate request.body (RestoreItem.put id)
  | .restore id, .delete => w.callEndpoint ω (RestoreItem.delete id)
  | _, _ => (.response 405 .error, w)

end Serve

/-! ## The server -/

/-- The process that serves the API, and the world it works on. -/
structure Server (D : Type) where
  world : World D
  isUp : Bool

/-- The process of the server has not ended with the request. -/
def HttpResponse.keepsUp : HttpResponse → Bool
  | .processExit _ => false
  | _ => true

def Server.serve (affinity : String → Option Int) (q : Outcomes × HttpRequest) (s : Server D) :
    HttpResponse × Server D :=
  if s.isUp then
    let (response, world) := s.world.serveHttp affinity q.1 q.2
    (response, ⟨world, response.keepsUp⟩)
  else (.unserved, s)

/-- A step of the history of the REST API. -/
abbrev ServedHttp (D : Type) := Served (Outcomes × HttpRequest) HttpResponse (Server D)

end Edm
