import Edm.Service.Archive
import Edm.Service.Business

/-!
# Lists of backups: `endpoints/backups.py`

The two routes that list backups, page by page, and the clients that use the
collection while one of them walks through the pages.
-/

namespace Edm

open Effects Data

/-! ## Arguments: `parsers.py` -/

/-- The `choices` of `per_page`. -/
def perPageChoices : List Nat := [2, 10, 20, 30, 40, 50]

/-- What `pagination_arguments.parse_args` returns. -/
structure PaginationArguments where
  page : Int := 1
  perPage : Nat := 10
  perPage_mem : perPage ∈ perPageChoices := by decide

/-! ## `backupsCollection.get` and `backupsArchiveCollection.get` -/

/-- The page of a query as `paginate` of Flask-SQLAlchemy returns it. -/
structure Pagination where
  page : Int
  perPage : Nat
  total : Nat
  items : List (Int × Backup)

def pageOfBackups (keep : Backup → Bool) (limit : Nat) (offset : Int) :
    Py (List (Int × Backup)) :=
  dbCall (.pageOfBackups keep limit offset)

def countBackups (keep : Backup → Bool) : Py Nat := dbCall (.countBackups keep)

/-- The rows are counted only when a first page does not tell how many there
are. -/
def totalOf (keep : Backup → Bool) (page : Int) (perPage : Nat) (items : List (Int × Backup)) :
    Py Nat :=
  if page = 1 ∧ items.length < perPage then pure items.length else countBackups keep

/-- `query.paginate(page, per_page, error_out=False)` -/
def paginate (keep : Backup → Bool) (page : Int) (perPage : Nat) : Py Pagination := do
  let items ← pageOfBackups keep perPage ((page - 1) * perPage)
  let total ← totalOf keep page perPage items
  pure ⟨page, perPage, total, items⟩

def backupsCollection.get (args : PaginationArguments) : Py Pagination :=
  paginate (fun _ => true) args.page args.perPage

def backupsArchiveCollection.get (year : Nat) (month day : Option Nat)
    (args : PaginationArguments) : Py Pagination :=
  paginate (archiveFilter year month day) args.page args.perPage

/-! ## Clients -/

/-- A route that lists backups. -/
inductive ListRoute where
  | all
  | archive (year : Nat) (month day : Option Nat)

def ListRoute.get (args : PaginationArguments) : ListRoute → Py Pagination
  | .all => backupsCollection.get args
  | .archive year month day => backupsArchiveCollection.get year month day args

/-- The pages a client got, and whether the last page it asked for was empty. -/
structure Walk where
  pages : List (List (Int × Backup))
  ended : Bool

/-- Ask for one page after the other until one is empty, but for so many pages
at most. -/
def walk (route : ListRoute) (args : PaginationArguments) : (requests page : Nat) → Py Walk
  | 0, _ => pure ⟨[], false⟩
  | requests + 1, page => do
    let got ← route.get { args with page := page }
    if got.items.isEmpty then pure ⟨[], true⟩
    else
      let rest ← walk route args requests (page + 1)
      pure ⟨got.items :: rest.pages, rest.ended⟩

/-- A client of the collection of backups. -/
inductive Client where
  /-- GET page after page, from the first one on. -/
  | walk (route : ListRoute) (args : PaginationArguments) (requests : Nat)
  | post (data : TitleBody)
  | put (backupId : Int) (data : TitleBody)

/-- What the client makes the service do, and the pages it gets by it. -/
def Client.prog : Client → Py (Option Walk)
  | .walk route args requests => do
    let walked ← Edm.walk route args requests 1
    pure (some walked)
  | .post data => do
    let _backupId ← createEdmBackup data
    pure none
  | .put backupId data => do
    updateEdmBackup backupId data
    pure none

end Edm
