import OmpRemote.Ompd.Requests

/-!
# The controller's answers

`execute_inner` awaits actors, runtimes and the store, and makes one kind of
response of what they return for each kind of request.
-/

namespace OmpRemote.Ompd

open Lib

inductive ControllerError where
  | notFound (agentId : AgentId)
  | deviceNotFound (deviceId : DeviceId)
  | notRunning (agentId : AgentId)
  | alreadyRunning (agentId : AgentId)
  | interactionLeaseRequired
  | runtime (message : String)
  | rpc (code message : String)
  | controlPlane (message : String)
  | persistence (message : String)
  deriving DecidableEq, Repr

def ControllerError.intoProtocolError : ControllerError → ProtocolError
  | notFound agentId =>
    protocolError "agent_not_found" ("agent " ++ agentId.text ++ " was not found") false
  | notRunning agentId =>
    protocolError "agent_not_running" ("agent " ++ agentId.text ++ " is not running") false
  | alreadyRunning agentId =>
    protocolError "agent_already_running" ("agent " ++ agentId.text ++ " is already running") false
  | deviceNotFound deviceId =>
    protocolError "device_not_found" ("active device " ++ deviceId.text ++ " was not found") false
  | interactionLeaseRequired =>
    protocolError "interaction_lease_required"
      "an active interaction lease owned by this client is required" false
  | runtime message => protocolError "runtime_error" message true
  | rpc code message => protocolError code message false
  | controlPlane message => protocolError "control_plane_error" message true
  | persistence message => protocolError "persistence_error" message true

/-- What the calls that a request awaits return, where they return well. -/
structure Returned where
  agents : List AgentSnapshot
  agent : AgentSnapshot
  devices : List DeviceSummary
  runId : RunId
  lease : InteractionLease

/-- The response to a request whose calls returned well. -/
def ControlRequest.response (request : ControlRequest) (returned : Returned) : ControlResponse :=
  match request with
  | .listAgents => .agents returned.agents
  | .getAgent _ => .agent returned.agent
  | .listDevices => .devices returned.devices
  | .revokeDevice deviceId => .deviceRevoked deviceId
  | .prompt .. => .promptAccepted returned.runId
  | .acquireInteractionLease .. => .interactionLease returned.lease
  | .releaseInteractionLease .. => .interactionReleased
  | .launchAgent _ | .stopAgent _ | .steer .. | .followUp .. | .abort _ | .switchSession ..
  | .respondToUi .. => .accepted

/-- `DaemonController::execute`, over the result of its calls. -/
def execute (request : ControlRequest) (result : Except ControllerError Returned) :
    ResponseOutcome :=
  match result with
  | .ok returned => .success (ControlRequest.response request returned)
  | .error error => .error error.intoProtocolError

section Revocation

variable {δ : Type}

/-- The one call of `RevokeDevice`. -/
def revoke (store : Store δ) (deviceId : DeviceId) (nowMs : UInt64) (fault : Option Nat) :
    ResponseOutcome :=
  match (store.revokeDevice deviceId nowMs fault).1 with
  | .ok true => .success (.deviceRevoked deviceId)
  | .ok false => .error (ControllerError.deviceNotFound deviceId).intoProtocolError
  | .error error => .error (ControllerError.persistence error.message).intoProtocolError

end Revocation

end OmpRemote.Ompd
