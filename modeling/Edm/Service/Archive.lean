import Edm.Data.Decimal
import Edm.World.Models

/-!
# The archive of backups: `endpoints/backups.py`

The filter `backupsArchiveCollection.get` builds from the numbers of its URL.
Dates are compared as the texts SQLite holds.
-/

namespace Edm

open Data

/-- `'{0:04d}-{1:02d}-{2:02d}'.format(year, month, day)` -/
def dateText (year month day : Nat) : String :=
  padded 4 year ++ "-" ++ padded 2 month ++ "-" ++ padded 2 day

def DateTime.clockText (d : DateTime) : String :=
  padded 2 d.hour ++ ":" ++ padded 2 d.minute ++ ":" ++ padded 2 d.second ++ "." ++
    padded 6 d.microsecond

/-- How SQLAlchemy stores a `datetime` in SQLite: `YYYY-MM-DD hh:mm:ss.ffffff`. -/
def DateTime.text (d : DateTime) : String :=
  dateText d.year d.month d.day ++ " " ++ d.clockText

/-- A month or a day the code goes by: it takes zero for none. -/
def given : Option Nat → Option Nat
  | some 0 => none
  | n => n

def startDate (year : Nat) (month day : Option Nat) : String :=
  let startMonth := (given month).getD 1
  let startDay := (given day).getD 1
  dateText year startMonth startDay

def endDate (year : Nat) (month day : Option Nat) : String :=
  let endMonth := (given month).getD 12
  let endDay := ((given day).map (· + 1)).getD 31
  dateText year endMonth endDay

/-- The conditions of the query. -/
def archiveFilter (year : Nat) (month day : Option Nat) (row : Backup) : Bool :=
  startDate year month day ≤ row.startDate.text && row.startDate.text ≤ endDate year month day

/-- The rows the query selects, before they are cut into pages. -/
def archive (year : Nat) (month day : Option Nat) (backups : Table Backup) : List (Int × Backup) :=
  backups.rows.filter fun row => archiveFilter year month day row.2

/-- The routes of `backupsArchiveCollection`. The `int` converter lets every
natural number through. -/
inductive ArchiveUrl where
  /-- `archive/<int:year>/` -/
  | ofYear (year : Nat)
  /-- `archive/<int:year>/<int:month>/` -/
  | ofMonth (year month : Nat)
  /-- `archive/<int:year>/<int:month>/<int:day>/` -/
  | ofDay (year month day : Nat)

def ArchiveUrl.archive (backups : Table Backup) : ArchiveUrl → List (Int × Backup)
  | .ofYear year => Edm.archive year none none backups
  | .ofMonth year month => Edm.archive year (some month) none backups
  | .ofDay year month day => Edm.archive year (some month) (some day) backups

end Edm
