import JobsGateway.Route.Basic

/-!
# The routes of the gateway

The table is fixed. Every backend template is the inbound pattern without its leading slash.
-/

namespace JobsGateway.Route

/-- A route whose backend path has the form of the inbound path. -/
def same (name : String) (verb : Verb) (path : String) : Route :=
  ⟨name.toList, verb, ('/' :: path.toList), path.toList⟩

/-- All routes, in order. -/
def table : List Route := [
  -- jobs
  same "list_jobs" .get "jobs",
  same "create_job" .post "jobs",
  same "get_job" .get "jobs/\x7bjob_id\x7d",
  same "get_job_status" .get "jobs/\x7bjob_id\x7d/status",
  same "update_job" .patch "jobs/\x7bjob_id\x7d",
  same "delete_job" .delete "jobs/\x7bjob_id\x7d",
  same "pause_job" .post "jobs/\x7bjob_id\x7d/pause",
  same "resume_job" .post "jobs/\x7bjob_id\x7d/resume",
  -- conversations
  same "get_job_for_conversation" .get "jobs/conversation/\x7bconversation_id\x7d",
  same "attach_job_to_conversation" .post "jobs/conversation/\x7bconversation_id\x7d/attach",
  -- orientation
  same "get_directive" .get "jobs/orientation/directives/\x7bdirective_id\x7d",
  same "update_directive" .patch "jobs/orientation/directives/\x7bdirective_id\x7d",
  same "get_mission" .get "jobs/orientation/missions/\x7bmission_id\x7d",
  same "get_mandate" .get "jobs/orientation/mandates/\x7bmandate_id\x7d",
  -- governance
  same "list_proposals" .get "jobs/governance/proposals",
  same "get_pending_count" .get "jobs/governance/pending-count",
  same "approve_proposal" .post "jobs/governance/proposals/\x7bproposal_id\x7d/approve",
  same "reject_proposal" .post "jobs/governance/proposals/\x7bproposal_id\x7d/reject"]

/-- The route of a name. -/
def named? (name : Text) : Option Route :=
  table.find? fun r => r.name = name

/-- The routes whose pattern a path matches, whatever their verb. -/
def matching (path : Text) : List Route :=
  table.filter fun r => (r.capture path).isSome

end JobsGateway.Route
