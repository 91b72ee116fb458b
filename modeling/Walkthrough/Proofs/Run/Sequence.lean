import Walkthrough.Proofs.Handler.Builtin
import Walkthrough.Proofs.Run.Performance

/-!
Runs in sequence: a run of two lists of steps is a run of the one and, if that is completed, a run
of the other in the world that it left. After an aborted run nothing of the other steps happens.
-/
namespace Walkthrough

variable {σ α : Type}

namespace Step

theorem runAll_append (r : Runner) (position : Nat) (a b : List Step) :
    runAll r position (a ++ b) = runAll r position a >>= fun first =>
      if first.2 = .aborted then pure first
      else runAll r (position + a.length) b >>= fun second =>
        pure (first.1 ++ second.1, second.2) := by
  induction a generalizing position with
  | nil => simp [runAll]
  | cons s rest ih =>
    simp only [runAll, List.cons_append, bind_assoc]
    refine bind_congr fun start => bind_congr fun course => bind_congr fun finish => ?_
    split
    · simp
    · rw [ih (position + 1)]
      simp only [bind_assoc, pure_bind]
      refine bind_congr fun first => ?_
      split
      · simp
      · simp [Nat.add_assoc, Nat.add_comm 1]

theorem runAll_append_stopped (r : Runner) (page : Page σ) {a : List Step} (b : List Step)
    {w : World σ} (ends : ∀ entries,
      ((runAll r 0 a).perform page w).result ≠ some (entries, .completed)) :
    (runAll r 0 (a ++ b)).perform page w = (runAll r 0 a).perform page w := by
  rw [runAll_append, Play.perform_bind]
  unfold Course.andThen
  split
  · rename_i crashed
    simp [← crashed]
  · rename_i ran finished
    obtain ⟨entries, outcome⟩ := ran
    cases outcome with
    | completed => exact absurd finished (ends entries)
    | aborted => simp [← finished]

end Step

namespace RunReport

end RunReport

namespace TestCase

variable (c : TestCase) (r : Runner) (page : Page σ)

end TestCase

end Walkthrough
