import Mathlib.Logic.Function.Basic
import Mathlib.Logic.Relation

/-!
# A process and the reader of its pipes

A process writes bytes to pipes of a bounded capacity and ends; a write to a
full pipe waits. Its reader waits for the process to end, or reads a pipe until
there is nothing more to come. `Stuck` is a state other than the final one from
which neither of them can go on. `deadlockFree_waitFor_iff`: a reader that waits
first gets stuck on exactly those outputs that do not fit into the pipes.
-/

namespace Edm.Effects.Pipe

/-- What the reader does next. -/
inductive Instr (κ : Type) where
  | waitFor
  | readToEnd (stream : κ)

structure State (κ : Type) where
  /-- The bytes the process has yet to write, each by its stream. -/
  output : List κ
  ended : Bool
  /-- How many bytes are in the pipe of a stream. -/
  buffered : κ → Nat
  reader : List (Instr κ)

variable {κ : Type} [DecidableEq κ]

def start (output : List κ) (reader : List (Instr κ)) : State κ :=
  ⟨output, false, fun _ => 0, reader⟩

inductive Step (capacity : Nat) : State κ → State κ → Prop where
  | write {k : κ} {output : List κ} {buffered : κ → Nat} {reader : List (Instr κ)}
      (h : buffered k < capacity) :
      Step capacity ⟨k :: output, false, buffered, reader⟩
        ⟨output, false, Function.update buffered k (buffered k + 1), reader⟩
  | finish {buffered : κ → Nat} {reader : List (Instr κ)} :
      Step capacity ⟨[], false, buffered, reader⟩ ⟨[], true, buffered, reader⟩
  | waitFor {output : List κ} {buffered : κ → Nat} {reader : List (Instr κ)} :
      Step capacity ⟨output, true, buffered, .waitFor :: reader⟩ ⟨output, true, buffered, reader⟩
  | read {k : κ} {n : Nat} {output : List κ} {ended : Bool} {buffered : κ → Nat}
      {reader : List (Instr κ)} (h : buffered k = n + 1) :
      Step capacity ⟨output, ended, buffered, .readToEnd k :: reader⟩
        ⟨output, ended, Function.update buffered k n, .readToEnd k :: reader⟩
  | endOfFile {k : κ} {output : List κ} {buffered : κ → Nat} {reader : List (Instr κ)}
      (h : buffered k = 0) :
      Step capacity ⟨output, true, buffered, .readToEnd k :: reader⟩
        ⟨output, true, buffered, reader⟩

def Reachable (capacity : Nat) : State κ → State κ → Prop := Relation.ReflTransGen (Step capacity)

/-- The process has ended and its reader is done. -/
def Final (s : State κ) : Prop := s.ended = true ∧ s.reader = []

def Stuck (capacity : Nat) (s : State κ) : Prop := ¬Final s ∧ ∀ s', ¬Step capacity s s'

def DeadlockFree (capacity : Nat) (s : State κ) : Prop :=
  ∀ s', Reachable capacity s s' → ¬Stuck capacity s'

/-- What is in the pipes and what is still to come fits into them. -/
def Fits (capacity : Nat) (s : State κ) : Prop :=
  ∀ k, s.buffered k + s.output.count k ≤ capacity

variable {capacity : Nat} {s s' : State κ}

theorem fits_step (h : Step capacity s s') (hs : Fits capacity s) : Fits capacity s' := by
  intro j
  have hj := hs j
  cases h with
  | @write k output buffered reader hroom =>
    by_cases hjk : j = k
    · subst hjk
      simp only [Function.update_self, List.count_cons_self] at hj ⊢
      omega
    · simp only [Function.update_of_ne hjk, List.count_cons_of_ne (Ne.symm hjk)] at hj ⊢
      exact hj
  | finish => exact hj
  | waitFor => exact hj
  | @read k n output ended buffered reader hread =>
    by_cases hjk : j = k
    · subst hjk
      simp only [Function.update_self] at hj ⊢
      omega
    · simp only [Function.update_of_ne hjk] at hj ⊢
      exact hj
  | endOfFile => exact hj

theorem fits_of_reachable (h : Reachable capacity s s') (hs : Fits capacity s) :
    Fits capacity s' := by
  induction h with
  | refl => exact hs
  | tail _ hstep ih => exact fits_step hstep ih

/-- A process that has ended leaves its reader free to go on. -/
theorem not_stuck_of_ended {output : List κ} {buffered : κ → Nat} {reader : List (Instr κ)} :
    ¬Stuck capacity ⟨output, true, buffered, reader⟩ := by
  rintro ⟨hfinal, hnone⟩
  match reader with
  | [] => exact hfinal ⟨rfl, rfl⟩
  | .waitFor :: _ => exact hnone _ .waitFor
  | .readToEnd k :: _ =>
    cases hk : buffered k with
    | zero => exact hnone _ (.endOfFile hk)
    | succ n => exact hnone _ (.read hk)

theorem not_stuck_of_fits (hs : Fits capacity s) : ¬Stuck capacity s := by
  obtain ⟨output, ended, buffered, reader⟩ := s
  cases ended with
  | true => exact not_stuck_of_ended
  | false =>
    rintro ⟨-, hnone⟩
    cases output with
    | nil => exact hnone _ .finish
    | cons k output =>
      have hk := hs k
      simp only [List.count_cons_self] at hk
      exact hnone _ (.write (by omega))

/-- While the reader waits, a process with more to write than fits comes to wait
for it. -/
theorem exists_stuck_of_overflow (output : List κ) {buffered : κ → Nat} (reader : List (Instr κ))
    {k : κ} (hroom : ∀ j, buffered j ≤ capacity) (hk : capacity < buffered k + output.count k) :
    ∃ s', Reachable capacity ⟨output, false, buffered, .waitFor :: reader⟩ s' ∧
      Stuck capacity s' := by
  induction output generalizing buffered with
  | nil =>
    have hle := hroom k
    simp only [List.count_nil, Nat.add_zero] at hk
    omega
  | cons j output ih =>
    by_cases hj : buffered j < capacity
    · have hroom' : ∀ i, Function.update buffered j (buffered j + 1) i ≤ capacity := by
        intro i
        by_cases hij : i = j
        · subst hij
          rw [Function.update_self]
          omega
        · rw [Function.update_of_ne hij]
          exact hroom i
      have hk' : capacity <
          Function.update buffered j (buffered j + 1) k + output.count k := by
        by_cases hkj : k = j
        · subst hkj
          rw [List.count_cons_self] at hk
          rw [Function.update_self]
          omega
        · rw [List.count_cons_of_ne (Ne.symm hkj)] at hk
          rw [Function.update_of_ne hkj]
          exact hk
      obtain ⟨s', hreach, hstuck⟩ := ih hroom' hk'
      exact ⟨s', .head (.write hj) hreach, hstuck⟩
    · refine ⟨_, .refl, ⟨?_, fun s' hstep => ?_⟩⟩
      · rintro ⟨hended, -⟩
        cases hended
      · cases hstep with
        | write h => exact hj h

/-- A reader that waits first gets stuck on the outputs that do not fit. -/
theorem deadlockFree_waitFor_iff (output : List κ) (reader : List (Instr κ)) :
    DeadlockFree capacity (start output (.waitFor :: reader)) ↔
      ∀ k, output.count k ≤ capacity := by
  constructor
  · intro h k
    by_contra hk
    obtain ⟨s', hreach, hstuck⟩ := exists_stuck_of_overflow output reader
      (fun _ => Nat.zero_le capacity) (k := k) (by omega)
    exact h s' hreach hstuck
  · intro h s' hreach
    refine not_stuck_of_fits (fits_of_reachable hreach ?_)
    intro k
    show 0 + output.count k ≤ capacity
    rw [Nat.zero_add]
    exact h k

end Edm.Effects.Pipe
