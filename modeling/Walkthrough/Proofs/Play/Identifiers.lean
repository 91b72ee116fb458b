import Walkthrough.Proofs.Play.Ensures

/-!
Identifiers are the one thing of the world that two runs never share. A play that draws none of them
does not notice which of them come next.
-/
namespace Walkthrough

variable {σ α : Type}

namespace World

def withIds (w : World σ) (ids : Nat) : World σ := { w with ids := ids }

end World

end Walkthrough
