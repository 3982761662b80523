import JobsGateway.Proofs.Caller.Draft

/-!
# Records that are lists

A caller may be told as a list: the id, a string, then the email, the name and
the role, each a string or null. The list may end after any of them, and what it
does not get to is missing. A list of more values is none of a caller, and
neither is one without an id.
-/

namespace JobsGateway.Caller

open Json

section Values

variable {rest : Bytes} {v : Bytes} {values : List Bytes}

end Values

/-! ## The record -/

example : (ofJson (octets "[\"u1\", null]")).toOption = some (.ofId "u1".toList) := by
  decide +kernel

end JobsGateway.Caller
