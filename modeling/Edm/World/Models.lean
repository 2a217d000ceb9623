import Edm.Data.Table

/-!
# The catalogue: `database/models.py`

The two tables of the service, the request bodies that reach them and the
exceptions its Python code meets. A `DateTime` is a `datetime.datetime`: its
fields name a moment of the calendar, years `1` to `9999`.
-/

namespace Edm

open Edm.Data

def isLeapYear (year : Nat) : Bool :=
  year % 4 == 0 && (year % 100 != 0 || year % 400 == 0)

def daysInMonth (year month : Nat) : Nat :=
  if month == 2 then if isLeapYear year then 29 else 28
  else if month == 4 || month == 6 || month == 9 || month == 11 then 30
  else 31

/-- A `datetime.datetime`. -/
structure DateTime where
  year : Nat
  month : Nat
  day : Nat
  hour : Nat
  minute : Nat
  second : Nat
  microsecond : Nat
  year_bounds : 1 ≤ year ∧ year ≤ 9999
  month_bounds : 1 ≤ month ∧ month ≤ 12
  day_bounds : 1 ≤ day ∧ day ≤ daysInMonth year month
  time_bounds : hour < 24 ∧ minute < 60 ∧ second < 60 ∧ microsecond < 1000000
  deriving DecidableEq

theorem daysInMonth_le (year month : Nat) : daysInMonth year month ≤ 31 := by
  unfold daysInMonth
  split
  · split <;> decide
  · split <;> decide

theorem DateTime.day_le (d : DateTime) : d.day ≤ 31 :=
  Nat.le_trans d.day_bounds.2 (daysInMonth_le _ _)

/-- Midnight of a first of January. -/
def DateTime.newYear (year : Nat) (h : 1 ≤ year ∧ year ≤ 9999) : DateTime where
  year := year
  month := 1
  day := 1
  hour := 0
  minute := 0
  second := 0
  microsecond := 0
  year_bounds := h
  month_bounds := by decide
  day_bounds := by simp [daysInMonth]
  time_bounds := by decide

/-- A row of `Backup`, without its primary key. -/
structure Backup where
  title : Option String
  startDate : DateTime
  status : String
  deriving DecidableEq

/-- A row of `Restore`, without its primary key. -/
structure Restore where
  title : Option String
  backupId : Int
  deriving DecidableEq

/-- The body of a POST or PUT on backups, and of a PUT on restores. -/
structure TitleBody where
  title : Option String

/-- The `id` of a restore body. The schema does not name it, so any JSON value
can stand there (`Json.bodyId`): `absent` is one Python holds false or none at all,
`text` one that SQLite takes for an integer, `other` one that it refuses as a key. -/
inductive BodyId where
  | absent
  | integer (n : Int)
  | text (n : Int)
  | other

/-- `if restore_id:` -/
def BodyId.truthy : BodyId → Bool
  | .absent => false
  | .integer n => n != 0
  | .text _ => true
  | .other => true

/-- The key a true id names. -/
def BodyId.named : BodyId → Option Int
  | .absent => none
  | .integer n => if n = 0 then none else some n
  | .text n => some n
  | .other => none

/-- The body of a POST on restores. -/
structure RestoreBody where
  title : Option String
  id : BodyId
  backupId : Int

/-- What SQLite can store in an INTEGER column: 64 bits, signed. -/
def storable (n : Int) : Bool := -9223372036854775808 ≤ n && n < 9223372036854775808

/-- The exceptions of the Elasticsearch client, as far as the code tells them
apart: `NotFoundError`, and every other one. -/
inductive EsError where
  | notFoundError
  | transportError
  deriving DecidableEq, Repr

/-- What a Python call can end with instead of a value. A statement that the
database or its driver refuses is a `DBAPIError`. -/
inductive PyExc where
  | keyError (key : String)
  | elasticsearch (e : EsError)
  | calledProcessError (returncode : Int)
  | osError
  | noResultFound
  | dbapiError
  | staleDataError
  | overflowError
  | exception (message : String)
  | systemExit (code : Int)
  deriving DecidableEq, Repr

/-- What `except Exception` catches: `SystemExit` derives from `BaseException`
only. -/
def PyExc.isException : PyExc → Bool
  | .systemExit _ => false
  | _ => true

end Edm
