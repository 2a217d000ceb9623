import Edm.Effects.Run
import Edm.Service.Business

/-!
# Runs of the REST service

The requests that reach `business.py`, handled one at a time, and the changes
others make to the three stores in between.
-/

namespace Edm

open Effects Data

variable {D : Type}

/-- The three stores a backup covers. -/
structure Stores (D : Type) where
  indices : Store String (Index D)
  hdfs : String → Option (FileContent D)
  mysql : String → Option D

def World.stores (w : World D) : Stores D := ⟨w.cluster.indices, w.hdfs, w.mysql⟩

def World.withStores (w : World D) (stores : Stores D) : World D :=
  { w with
    cluster := { w.cluster with indices := stores.indices }
    hdfs := stores.hdfs
    mysql := stores.mysql }

inductive Request (D : Type) where
  | createEdmBackup (data : TitleBody)
  | updateEdmBackup (backupId : Int) (data : TitleBody)
  | deleteEdmBackup (backupId : Int)
  | createRestore (data : RestoreBody)
  | updateRestore (restoreId : Int) (data : TitleBody)
  | deleteRestore (restoreId : Int)
  /-- The users of the stores leave them so. -/
  | changeStores (stores : Stores D)

inductive Answer where
  /-- The id of a new backup. -/
  | created (backupId : Int)
  | done
  | raised (e : PyExc)
  deriving DecidableEq

/-- The answer to a request whose function ended so. -/
def answered {α : Type} (returned : α → Answer) :
    Except PyExc α × World D → Answer × World D
  | (.ok a, w) => (returned a, w)
  | (.error e, w) => (.raised e, w)

def World.serveRequest (ω : Outcomes) (w : World D) : Request D → Answer × World D
  | .createEdmBackup data => answered .created ((createEdmBackup data).run (World.answer ω) w)
  | .updateEdmBackup backupId data =>
    answered (fun _ => .done) ((updateEdmBackup backupId data).run (World.answer ω) w)
  | .deleteEdmBackup backupId =>
    answered (fun _ => .done) ((deleteEdmBackup backupId).run (World.answer ω) w)
  | .createRestore data =>
    answered (fun _ => .done) ((createRestore data).run (World.answer ω) w)
  | .updateRestore restoreId data =>
    answered (fun _ => .done) ((updateRestore restoreId data).run (World.answer ω) w)
  | .deleteRestore restoreId =>
    answered (fun _ => .done) ((deleteRestore restoreId).run (World.answer ω) w)
  | .changeStores stores => (.done, w.withStores stores)

/-- A request meets the outcomes the environment has for it. -/
def World.serve (q : Outcomes × Request D) (w : World D) : Answer × World D :=
  w.serveRequest q.1 q.2

/-- An answered request of the service. -/
abbrev ServedRequest (D : Type) := Served (Outcomes × Request D) Answer (World D)

end Edm
