/-
# Elements of a pipeline that are no stages

An element that is not a mapping of one key, whose key names no stage, or whose payload is not the
mapping that its stage takes, is passed over: the statement is that of the pipeline without it.

A limit or an offset is a stage whatever its payload is. If that cannot be read as a number, it
still takes the place of the bound before it: the statement is that of the pipeline without it and
without the stages of the same bound before it. An infinite number is a fault.
-/
import DocTable.Proofs.Query.Reordering

namespace DocTable

/-! ## The tail of a selection -/

namespace Dialect

variable {d : Dialect}

end Dialect

namespace Pipeline

open Query (entryOf)

variable {d : Dialect}

/-! ## Malformed elements -/

section Insertion

variable {bound? : Stage → Option Value} {before after : List Value} {item count : Value}

end Insertion

/-! ## Inserted elements -/

section Insertion

variable {before after : List Value} {item : Value} {s next final other : State} {part : Part}

end Insertion

end Pipeline
end DocTable
