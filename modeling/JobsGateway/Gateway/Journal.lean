import JobsGateway.Client.Outgoing

/-!
# What happens while a request is handled

A journal lists what a request brings about outside the gateway, in order: the verifier is asked,
the identity endpoint or the backend reads a request, an event is logged. Counting entries of a
journal says how often something happened.
-/

namespace JobsGateway

/-- How grave an event is. -/
inductive Level where
  | error
  | warn
  | info
  | debug
  deriving Repr, DecidableEq, Inhabited

/-- The name of a level. -/
def Level.text : Level → Text
  | .error => "ERROR".toList
  | .warn => "WARN".toList
  | .info => "INFO".toList
  | .debug => "DEBUG".toList

/-- The part of the program that an event comes from. -/
inductive Part where
  | program
  | listener
  | handler
  | caller
  | backend
  deriving Repr, DecidableEq, Inhabited

/-- The name by which a log filter refers to a part. -/
def Part.target : Part → Text
  | .program => "aiden_proxy".toList
  | .listener => "aiden_proxy::server::listener".toList
  | .handler => "aiden_proxy::server::handler".toList
  | .caller => "aiden_proxy::identity".toList
  | .backend => "aiden_proxy::proxy::forwarder".toList

/-- A logged event: a fixed message and named values. -/
structure Event where
  part : Part
  level : Level
  message : String
  fields : List (String × Text)
  deriving Repr, DecidableEq, Inhabited

/-- An entry of a journal. -/
inductive Entry where
  | verification
  | identityRequest (delivery : Delivery)
  | backendRequest (delivery : Delivery)
  | event (event : Event)
  deriving Repr, DecidableEq, Inhabited

/-- What happened, in order. -/
abbrev Journal := List Entry

namespace Journal

/-- How often the verifier was asked. -/
def verifications (j : Journal) : Nat :=
  (j.filter fun | .verification => true | _ => false).length

/-- What the identity endpoint has read. -/
def identityRequests (j : Journal) : List Delivery :=
  j.filterMap fun | .identityRequest d => some d | _ => none

/-- What the backend has read. -/
def backendRequests (j : Journal) : List Delivery :=
  j.filterMap fun | .backendRequest d => some d | _ => none

/-- The logged events. -/
def events (j : Journal) : List Event :=
  j.filterMap fun | .event e => some e | _ => none

@[simp] theorem verifications_append (i j : Journal) :
    verifications (i ++ j) = verifications i + verifications j := by
  simp [verifications]

@[simp] theorem backendRequests_append (i j : Journal) :
    backendRequests (i ++ j) = backendRequests i ++ backendRequests j := by
  simp [backendRequests]

@[simp] theorem events_append (i j : Journal) : events (i ++ j) = events i ++ events j := by
  simp [events]

/-! Entries about requests that have been read. -/

variable (ds : List Delivery)

@[simp] theorem verifications_map_backendRequest :
    verifications (ds.map .backendRequest) = 0 := by
  simp [verifications]

@[simp] theorem backendRequests_map_backendRequest :
    backendRequests (ds.map .backendRequest) = ds := by
  rw [backendRequests, List.filterMap_map]
  exact List.filterMap_some

@[simp] theorem events_map_backendRequest : events (ds.map .backendRequest) = [] := by
  simp [events]

@[simp] theorem verifications_map_identityRequest :
    verifications (ds.map .identityRequest) = 0 := by
  simp [verifications]

@[simp] theorem identityRequests_map_identityRequest :
    identityRequests (ds.map .identityRequest) = ds := by
  rw [identityRequests, List.filterMap_map]
  exact List.filterMap_some

@[simp] theorem backendRequests_map_identityRequest :
    backendRequests (ds.map .identityRequest) = [] := by
  simp [backendRequests]

@[simp] theorem events_map_identityRequest : events (ds.map .identityRequest) = [] := by
  simp [events]

end Journal

/-- A result and what happened on the way to it. -/
structure Run (α : Type) where
  result : α
  journal : Journal

end JobsGateway
