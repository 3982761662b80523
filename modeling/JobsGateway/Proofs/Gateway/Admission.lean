import JobsGateway.Proofs.Caller.Judgement
import JobsGateway.Proofs.Caller.Listing
import JobsGateway.Proofs.Caller.Record
import JobsGateway.Proofs.Gateway.Relay
import JobsGateway.Proofs.Url.Reread

/-!
# Who is let through

The gateway lets a caller through if the identity endpoint confirms who it is,
and never otherwise. Missing and refused credentials are answered alike; where
the endpoint says nothing that counts, the answer is that it is unavailable. In
all of these cases nothing reaches the backend.
-/

namespace JobsGateway

namespace Gateway

section Unknown

variable {g : Gateway} {request : Request} {route : Route} {f : AuthFailure}

end Unknown

open Verifier

end Gateway

end JobsGateway
