import Edm.Service.Deployment

/-!
# Several clusters

The config names the nodes to back up from and the nodes to restore to, so the
two can belong to different clusters, which then share the directory of the
repositories. A process talks to the cluster it is connected to. All
processes read the same config.
-/

namespace Edm

open Effects Data

variable {ι D : Type} [DecidableEq ι]

/-- What a cluster holds but for the snapshots. -/
structure Site (D : Type) where
  indices : Store String (Index D)
  /-- The location a repository name was last registered with. -/
  repositories : String → Option String

structure Sites (ι D : Type) where
  site : ι → Site D
  /-- The snapshots by location and name, in the directory all clusters share. -/
  snapshots : String → String → Option (Snapshot D)
  /-- All but Elasticsearch. The cluster in it is not looked at. -/
  world : World D
  /-- The cluster to which the running process has asked for a connection last. -/
  client : Option ι

namespace Sites

def cluster (s : Sites ι D) (i : ι) : Cluster D :=
  ⟨(s.site i).indices, (s.site i).repositories, s.snapshots⟩

/-- The world as it would be with this cluster alone. -/
def view (s : Sites ι D) (i : ι) : World D := s.world.setCluster (s.cluster i)

/-- Put a world with one cluster in place of what was seen of that cluster. -/
def put (s : Sites ι D) (i : ι) (w : World D) : Sites ι D where
  site := Function.update s.site i ⟨w.cluster.indices, w.cluster.repositories⟩
  snapshots := w.cluster.snapshots
  world := w
  client := s.client

/-- Answer a call of the client, if there is one. -/
def answerEs (ω : Outcomes) (s : Sites ι D) (c : EsCall) : Except PyExc Unit × Sites ι D :=
  match s.client with
  | none => (.error (.elasticsearch .transportError), s)
  | some i => (((s.view i).answerEs ω c).1, s.put i ((s.view i).answerEs ω c).2)

/-- The clusters as the machine that answers the code's calls; `nodes` is the
cluster the nodes of a connection belong to. -/
def answer (nodes : List String → ι) (ω : Outcomes) : Machine Call Reply PyExc (Sites ι D)
  | .es (.connect seeds), s => { s with client := some (nodes seeds) }.answerEs ω (.connect seeds)
  | .es c, s => s.answerEs ω c
  | .host c, s => ((s.world.answerHost ω c).1, { s with world := (s.world.answerHost ω c).2 })
  | .db c, s => ((s.world.answerDb ω c).1, { s with world := (s.world.answerDb ω c).2 })
  | .readConfig, s => (.ok s.world.config, s)

end Sites

/-! ## Jobs -/

/-- A job with the outcomes it meets. A change of the stores is made by the
`users` of one cluster. -/
structure SiteTurn (ι D : Type) where
  outcomes : Outcomes
  users : ι
  job : Job D

def Sites.takeTurn (nodes : List String → ι) (turn : SiteTurn ι D) (s : Sites ι D) :
    Except PyExc Unit × Sites ι D :=
  match turn.job with
  | .request (.changeStores stores) =>
    (.ok (), s.put turn.users ((s.view turn.users).withStores stores))
  | job => job.prog.run (Sites.answer nodes turn.outcomes) { s with client := none }

/-- A step of the history of the clusters. -/
abbrev ServedSiteTurn (ι D : Type) := Served (SiteTurn ι D) (Except PyExc Unit) (Sites ι D)

end Edm
