import Edm.Service.Controllers

/-!
# Waiting for a script

Both controllers wait for their script before they read what it writes, if they
read it at all. `runScript_deadlockFree_iff`: the two wait for each other for
ever on the outputs that do not fit into the pipes.
-/

namespace Edm

open Effects Pipe

/-- The output of the script fits into its pipes. -/
def FitsPipes (capacity : Nat) (output : List Stream) : Prop :=
  output.count .stdout ≤ capacity ∧ output.count .stderr ≤ capacity

theorem forall_stream_iff {P : Stream → Prop} : (∀ k, P k) ↔ P .stdout ∧ P .stderr := by
  constructor
  · intro h
    exact ⟨h _, h _⟩
  · intro h k
    cases k
    · exact h.1
    · exact h.2

/-- **When running a script cannot deadlock the service**: when the script
writes no more to either pipe than the pipe holds. -/
theorem runScript_deadlockFree_iff (capacity : Nat) (output : List Stream) :
    (DeadlockFree capacity (start output BackupApiController.reads) ↔
      FitsPipes capacity output) ∧
    (DeadlockFree capacity (start output RestoreApiController.reads) ↔
      FitsPipes capacity output) := by
  unfold FitsPipes
  rw [← forall_stream_iff (P := fun k => output.count k ≤ capacity)]
  exact ⟨deadlockFree_waitFor_iff output _, deadlockFree_waitFor_iff output _⟩

/-- A script that writes more to its standard error than a pipe of 64 KiB holds
blocks both services, the one that reads standard output included. -/
theorem runScript_deadlocks :
    ¬DeadlockFree 65536 (start (.replicate 65537 .stderr) BackupApiController.reads) ∧
      ¬DeadlockFree 65536 (start (.replicate 65537 .stderr) RestoreApiController.reads) := by
  have hcount : ¬∀ k : Stream, (List.replicate 65537 Stream.stderr).count k ≤ 65536 := by
    intro h
    have hle := h .stderr
    rw [List.count_replicate_self] at hle
    omega
  exact ⟨fun h => hcount ((deadlockFree_waitFor_iff _ _).1 h),
    fun h => hcount ((deadlockFree_waitFor_iff _ _).1 h)⟩

end Edm
