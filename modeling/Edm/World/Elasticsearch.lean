import Edm.Data.Store
import Edm.World.Models

/-!
# The Elasticsearch cluster

What the client calls of `esutils.py` do to a cluster when it accepts them.
A cluster holds indices, open or closed, and maps a repository name to the one
location it was last registered with; the snapshots live in the locations, and
a snapshot call acts on the location its repository name maps to at that
moment. A snapshot captures the open indices. A restore writes the captured
indices back and opens them; it is refused when one of them is open ("must
close indices before restoring").
-/

namespace Edm

open Edm.Data

/-- An index with its documents. -/
structure Index (D : Type) where
  content : D
  isOpen : Bool

/-- The indices a snapshot captured. -/
abbrev Snapshot (D : Type) := Store String D

structure Cluster (D : Type) where
  indices : Store String (Index D)
  /-- The location a repository name was last registered with. -/
  repositories : String → Option String
  /-- The snapshots by location and name. -/
  snapshots : String → String → Option (Snapshot D)

/-- The client calls of `esutils.py`. -/
inductive EsCall where
  | connect (seeds : List String)
  | info
  | createRepository (repository location : String)
  | getSnapshot (repository snapshot : String)
  | deleteSnapshot (repository snapshot : String)
  | createSnapshot (repository snapshot : String)
  | closeIndices
  | restoreSnapshot (repository snapshot : String)
  | openIndices

/-- The kind of a client call. One run of a function of `esutils.py` issues at
most one call of each kind. -/
inductive EsStep where
  | connect
  | info
  | createRepository
  | getSnapshot
  | deleteSnapshot
  | createSnapshot
  | closeIndices
  | restoreSnapshot
  | openIndices
  deriving DecidableEq, Repr

def EsCall.step : EsCall → EsStep
  | .connect _ => .connect
  | .info => .info
  | .createRepository .. => .createRepository
  | .getSnapshot .. => .getSnapshot
  | .deleteSnapshot .. => .deleteSnapshot
  | .createSnapshot .. => .createSnapshot
  | .closeIndices => .closeIndices
  | .restoreSnapshot .. => .restoreSnapshot
  | .openIndices => .openIndices

namespace Cluster

variable {D : Type}

def IsOpen (c : Cluster D) (i : String) : Prop :=
  ∃ index, c.indices.get? i = some index ∧ index.isOpen = true

/-- The documents of the open indices: what a snapshot taken now captures. -/
def openContents (c : Cluster D) : Snapshot D :=
  c.indices.mapMaybe fun index => if index.isOpen then some index.content else none

/-- The snapshot a name denotes in the location of a repository. -/
def snapshot? (c : Cluster D) (repository name : String) : Option (Snapshot D) :=
  (c.repositories repository).bind fun location => c.snapshots location name

def register (c : Cluster D) (repository location : String) : Cluster D :=
  { c with repositories := Function.update c.repositories repository (some location) }

def setSnapshot (c : Cluster D) (location name : String) (snapshot : Option (Snapshot D)) :
    Cluster D :=
  { c with snapshots := fun l n =>
      if l = location ∧ n = name then snapshot else c.snapshots l n }

def setOpen (c : Cluster D) (isOpen : Bool) : Cluster D :=
  { c with indices := c.indices.mapMaybe fun index => some { index with isOpen } }

/-- Whether a captured index is open now, which makes a restore fail. -/
def conflicts (c : Cluster D) (snapshot : Snapshot D) : Bool :=
  snapshot.any fun i _ => (c.indices.get? i).any (·.isOpen)

/-- Write the captured indices back, open. -/
def restored (c : Cluster D) (snapshot : Snapshot D) : Cluster D :=
  { c with indices :=
      (snapshot.mapMaybe fun content => some ⟨content, true⟩).overlay c.indices }

/-- A call the cluster does not refuse on its own. -/
def accept (c : Cluster D) : EsCall → Except EsError Unit × Cluster D
  | .connect _ => (.ok (), c)
  | .info => (.ok (), c)
  | .createRepository repository location => (.ok (), c.register repository location)
  | .getSnapshot repository name =>
    match c.snapshot? repository name with
    | some _ => (.ok (), c)
    | none => (.error .notFoundError, c)
  | .deleteSnapshot repository name =>
    match c.repositories repository with
    | some location =>
      match c.snapshots location name with
      | some _ => (.ok (), c.setSnapshot location name none)
      | none => (.error .notFoundError, c)
    | none => (.error .notFoundError, c)
  | .createSnapshot repository name =>
    match c.repositories repository with
    | some location =>
      match c.snapshots location name with
      | some _ => (.error .transportError, c)
      | none => (.ok (), c.setSnapshot location name (some c.openContents))
    | none => (.error .notFoundError, c)
  | .closeIndices => (.ok (), c.setOpen false)
  | .restoreSnapshot repository name =>
    match c.snapshot? repository name with
    | some snapshot =>
      if c.conflicts snapshot then (.error .transportError, c) else (.ok (), c.restored snapshot)
    | none => (.error .notFoundError, c)
  | .openIndices => (.ok (), c.setOpen true)

/-- A client call, refused by the cluster (or lost on the way to it) with the
given error, or let through. A refused call changes nothing. -/
def answer (refusal : Option EsError) (c : Cluster D) (call : EsCall) :
    Except EsError Unit × Cluster D :=
  match refusal with
  | some e => (.error e, c)
  | none => c.accept call

@[simp] theorem answer_some (c : Cluster D) (e : EsError) (call : EsCall) :
    answer (some e) c call = (.error e, c) := rfl

@[simp] theorem answer_none (c : Cluster D) (call : EsCall) :
    answer none c call = c.accept call := rfl

/-! ## Small lemmas -/

@[simp] theorem register_indices (c : Cluster D) (r l : String) :
    (c.register r l).indices = c.indices := rfl

@[simp] theorem register_snapshots (c : Cluster D) (r l : String) :
    (c.register r l).snapshots = c.snapshots := rfl

@[simp] theorem register_repositories_self (c : Cluster D) (r l : String) :
    (c.register r l).repositories r = some l := Function.update_self ..

@[simp] theorem snapshot?_register_self (c : Cluster D) (r l name : String) :
    (c.register r l).snapshot? r name = c.snapshots l name := by
  simp [snapshot?]

@[simp] theorem setSnapshot_repositories (c : Cluster D) (l n : String)
    (s : Option (Snapshot D)) : (c.setSnapshot l n s).repositories = c.repositories := rfl

@[simp] theorem setSnapshot_self (c : Cluster D) (l n : String) (s : Option (Snapshot D)) :
    (c.setSnapshot l n s).snapshots l n = s := if_pos ⟨rfl, rfl⟩

theorem setSnapshot_none_of_none {c : Cluster D} {l n : String} (h : c.snapshots l n = none) :
    c.setSnapshot l n none = c := by
  have hsnapshots : (c.setSnapshot l n none).snapshots = c.snapshots := by
    funext l' n'
    show (if l' = l ∧ n' = n then none else c.snapshots l' n') = c.snapshots l' n'
    split
    · next heq => rw [heq.1, heq.2, h]
    · rfl
  calc c.setSnapshot l n none = { c with snapshots := (c.setSnapshot l n none).snapshots } := rfl
    _ = c := by rw [hsnapshots]

theorem setSnapshot_of_ne (c : Cluster D) {l n l' n' : String} (s : Option (Snapshot D))
    (h : ¬(l' = l ∧ n' = n)) : (c.setSnapshot l n s).snapshots l' n' = c.snapshots l' n' :=
  if_neg h

@[simp] theorem setOpen_repositories (c : Cluster D) (b : Bool) :
    (c.setOpen b).repositories = c.repositories := rfl

@[simp] theorem setOpen_snapshots (c : Cluster D) (b : Bool) :
    (c.setOpen b).snapshots = c.snapshots := rfl

@[simp] theorem restored_snapshots (c : Cluster D) (s : Snapshot D) :
    (c.restored s).snapshots = c.snapshots := rfl

@[simp] theorem snapshot?_setOpen (c : Cluster D) (b : Bool) (r n : String) :
    (c.setOpen b).snapshot? r n = c.snapshot? r n := rfl

theorem get?_setOpen (c : Cluster D) (b : Bool) (i : String) :
    (c.setOpen b).indices.get? i = (c.indices.get? i).map ({ · with isOpen := b }) := by
  simp only [setOpen, Store.get?_mapMaybe]
  cases c.indices.get? i <;> rfl

theorem get?_restored (c : Cluster D) (s : Snapshot D) (i : String) :
    (c.restored s).indices.get? i = ((s.get? i).map (⟨·, true⟩)).or (c.indices.get? i) := by
  simp only [restored, Store.get?_overlay, Store.get?_mapMaybe]
  cases s.get? i <;> rfl

theorem get?_openContents {c : Cluster D} {i : String} {content : D} :
    c.openContents.get? i = some content ↔ c.indices.get? i = some ⟨content, true⟩ := by
  simp only [openContents, Store.get?_mapMaybe]
  rcases c.indices.get? i with - | ⟨content', _ | _⟩ <;> simp

section Accept

variable {c : Cluster D} {repository name location : String} {snapshot : Snapshot D}

theorem accept_getSnapshot (h : c.snapshot? repository name = some snapshot) :
    c.accept (.getSnapshot repository name) = (.ok (), c) := by
  simp only [accept, h]

theorem accept_getSnapshot_missing (h : c.snapshot? repository name = none) :
    c.accept (.getSnapshot repository name) = (.error .notFoundError, c) := by
  simp only [accept, h]

theorem accept_deleteSnapshot (hrepo : c.repositories repository = some location)
    (h : c.snapshots location name = some snapshot) :
    c.accept (.deleteSnapshot repository name) =
      (.ok (), c.setSnapshot location name none) := by
  simp only [accept, hrepo, h]

theorem accept_createSnapshot (hrepo : c.repositories repository = some location)
    (h : c.snapshots location name = none) :
    c.accept (.createSnapshot repository name) =
      (.ok (), c.setSnapshot location name (some c.openContents)) := by
  simp only [accept, hrepo, h]

theorem accept_createSnapshot_taken (hrepo : c.repositories repository = some location)
    (h : c.snapshots location name = some snapshot) :
    c.accept (.createSnapshot repository name) = (.error .transportError, c) := by
  simp only [accept, hrepo, h]

theorem accept_restoreSnapshot (h : c.snapshot? repository name = some snapshot)
    (hconf : c.conflicts snapshot = false) :
    c.accept (.restoreSnapshot repository name) = (.ok (), c.restored snapshot) := by
  simp only [accept, h, hconf, Bool.false_eq_true, if_false]

theorem accept_restoreSnapshot_conflict (h : c.snapshot? repository name = some snapshot)
    (hconf : c.conflicts snapshot = true) :
    c.accept (.restoreSnapshot repository name) = (.error .transportError, c) := by
  simp only [accept, h, hconf, if_true]

theorem accept_restoreSnapshot_missing (h : c.snapshot? repository name = none) :
    c.accept (.restoreSnapshot repository name) = (.error .notFoundError, c) := by
  simp only [accept, h]

end Accept

section Answer

variable {c : Cluster D} {refusal : Option EsError} {call : EsCall}

/-- A call that is answered with an error changes nothing. -/
theorem answer_of_not_isOk (h : (c.answer refusal call).1.isOk = false) :
    (c.answer refusal call).2 = c := by
  cases refusal with
  | some e => rfl
  | none =>
    rw [answer_none] at h ⊢
    cases call with
    | connect seeds => cases h
    | info => cases h
    | createRepository repository location => cases h
    | getSnapshot repository name =>
      cases hstored : c.snapshot? repository name <;> simp only [accept, hstored]
    | deleteSnapshot repository name =>
      cases hrepo : c.repositories repository with
      | none => simp only [accept, hrepo]
      | some location =>
        cases hstored : c.snapshots location name with
        | none => simp only [accept, hrepo, hstored]
        | some snapshot =>
          rw [accept_deleteSnapshot hrepo hstored] at h
          cases h
    | createSnapshot repository name =>
      cases hrepo : c.repositories repository with
      | none => simp only [accept, hrepo]
      | some location =>
        cases hstored : c.snapshots location name with
        | some snapshot => rw [accept_createSnapshot_taken hrepo hstored]
        | none =>
          rw [accept_createSnapshot hrepo hstored] at h
          cases h
    | closeIndices => cases h
    | restoreSnapshot repository name =>
      cases hstored : c.snapshot? repository name with
      | none => rw [accept_restoreSnapshot_missing hstored]
      | some snapshot =>
        cases hconf : c.conflicts snapshot with
        | true => rw [accept_restoreSnapshot_conflict hstored hconf]
        | false =>
          rw [accept_restoreSnapshot hstored hconf] at h
          cases h
    | openIndices => cases h

/-- A call that is answered without an error was let through. -/
theorem answer_of_isOk (h : (c.answer refusal call).1.isOk = true) :
    c.answer refusal call = c.accept call := by
  cases refusal with
  | some e => cases h
  | none => rfl

/-- Only a registration changes where a repository name points. -/
theorem accept_repositories
    (h : ∀ repository location, call ≠ .createRepository repository location) :
    (c.accept call).2.repositories = c.repositories := by
  cases call with
  | createRepository repository location => exact absurd rfl (h repository location)
  | getSnapshot repository name => simp only [accept]; split <;> rfl
  | deleteSnapshot repository name => simp only [accept]; (repeat' split) <;> rfl
  | createSnapshot repository name => simp only [accept]; (repeat' split) <;> rfl
  | restoreSnapshot repository name => simp only [accept]; (repeat' split) <;> rfl
  | connect | info | closeIndices | openIndices => rfl

/-- Only closing, opening and restoring change the indices. -/
theorem accept_indices (hclose : call ≠ .closeIndices) (hopen : call ≠ .openIndices)
    (hrestore : ∀ repository name, call ≠ .restoreSnapshot repository name) :
    (c.accept call).2.indices = c.indices := by
  cases call with
  | closeIndices => exact absurd rfl hclose
  | openIndices => exact absurd rfl hopen
  | restoreSnapshot repository name => exact absurd rfl (hrestore repository name)
  | getSnapshot repository name => simp only [accept]; split <;> rfl
  | deleteSnapshot repository name => simp only [accept]; (repeat' split) <;> rfl
  | createSnapshot repository name => simp only [accept]; (repeat' split) <;> rfl
  | connect | info | createRepository => rfl

/-- A snapshot stays until it is deleted from its location. -/
theorem accept_keeps_snapshot {location name : String} {snapshot : Snapshot D}
    (h : c.snapshots location name = some snapshot)
    (hdelete : ∀ repository, call = .deleteSnapshot repository name →
      c.repositories repository ≠ some location) :
    ((c.accept call).2.snapshots location name).isSome = true := by
  cases call with
  | deleteSnapshot repository name' =>
    simp only [accept]
    split
    · next location' hrepo =>
      split
      · rw [setSnapshot_of_ne c none fun heq => hdelete repository
          (by rw [heq.2]) (by rw [heq.1, hrepo]), h]
        rfl
      · rw [h]; rfl
    · rw [h]; rfl
  | createSnapshot repository name' =>
    simp only [accept]
    split
    · next location' hrepo =>
      split
      · rw [h]; rfl
      · by_cases heq : location = location' ∧ name = name'
        · rw [heq.1, heq.2, setSnapshot_self]
          rfl
        · rw [setSnapshot_of_ne c _ heq, h]
          rfl
    · rw [h]; rfl
  | getSnapshot repository name' => simp only [accept]; split <;> simp [h]
  | restoreSnapshot repository name' => simp only [accept]; (repeat' split) <;> simp [h]
  | connect | info | createRepository | closeIndices | openIndices => simp [accept, h]

end Answer

/-- No index is open. -/
def AllClosed (c : Cluster D) : Prop :=
  ∀ i index, c.indices.get? i = some index → index.isOpen = false

theorem allClosed_setOpen_false (c : Cluster D) : (c.setOpen false).AllClosed := by
  intro i index hget
  rw [get?_setOpen] at hget
  cases hi : c.indices.get? i with
  | none => rw [hi] at hget; cases hget
  | some x => rw [hi] at hget; cases hget; rfl

/-- A snapshot can be restored over indices of which it captured no open one. -/
theorem conflicts_eq_false {c : Cluster D} {snapshot : Snapshot D}
    (h : ∀ i content, snapshot.get? i = some content → ¬c.IsOpen i) :
    c.conflicts snapshot = false := by
  apply Store.any_eq_false_iff.2
  intro i content hcontent
  cases hi : c.indices.get? i with
  | none => rfl
  | some index => exact Bool.eq_false_iff.2 fun hopen => h i content hcontent ⟨index, hi, hopen⟩

theorem AllClosed.conflicts {c : Cluster D} (h : c.AllClosed) (snapshot : Snapshot D) :
    c.conflicts snapshot = false := by
  apply conflicts_eq_false
  rintro i _ _ ⟨index, hi, hopen⟩
  rw [h i index hi] at hopen
  cases hopen

/-- No index is open in a closed cluster. -/
theorem not_isOpen_setOpen_false (c : Cluster D) (i : String) : ¬(c.setOpen false).IsOpen i := by
  rintro ⟨index, hget, hopen⟩
  rw [c.allClosed_setOpen_false i index hget] at hopen
  cases hopen

/-- Opening opens every index there is. -/
theorem isOpen_setOpen_true {c : Cluster D} {i : String} {x : Index D}
    (h : c.indices.get? i = some x) : (c.setOpen true).IsOpen i :=
  ⟨{ x with isOpen := true }, by rw [get?_setOpen, h]; rfl, rfl⟩

end Cluster

end Edm
