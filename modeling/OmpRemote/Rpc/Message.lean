import Mathlib.Data.List.Basic

/-!
# Messages of the OMP RPC protocol

The frames an OMP process writes (`ServerMessage`) and the messages it is sent
(`ClientMessage`). Payloads that the daemon passes on without looking inside
are kept as the text of their JSON value (`Json`).
-/

namespace OmpRemote.Rpc

/-- The text of a JSON value nobody but the final consumer looks into. -/
abbrev Json := String

/-- The correlation id of an RPC command and of its response. -/
structure RequestId where
  text : String
  deriving DecidableEq, Repr

/-! ## Slash commands -/

structure SlashCommandInput where
  hint : Option String
  deriving DecidableEq, Repr

structure SlashSubcommand where
  name : String
  description : Option String
  usage : Option String
  deriving DecidableEq, Repr

inductive SlashCommandSource where
  | builtin | skill | extension | custom | mcpPrompt | file
  deriving DecidableEq, Repr

structure AvailableSlashCommand where
  name : String
  aliases : Option (List String)
  description : Option String
  input : Option SlashCommandInput
  subcommands : Option (List SlashSubcommand)
  source : SlashCommandSource
  deriving DecidableEq, Repr

/-! ## Responses -/

/-- What `get_state` reports of the OMP session, as far as the daemon reads it. -/
structure SessionState where
  sessionFile : Option String
  sessionId : String
  sessionName : Option String
  messageCount : UInt64
  deriving DecidableEq, Repr

structure PromptAcknowledgement where
  agentInvoked : Bool
  deriving DecidableEq, Repr

inductive SuccessResponse where
  | negotiateProtocol
  | prompt (data : Option PromptAcknowledgement)
  | getState (data : SessionState)
  | other (command : String) (data : Json)
  deriving DecidableEq, Repr

inductive Response where
  | success (id : Option RequestId) (result : SuccessResponse)
  | error (id : Option RequestId) (command error : String) (code : Option String)
  deriving DecidableEq, Repr

def Response.id : Response → Option RequestId
  | .success id _ => id
  | .error id _ _ _ => id

/-! ## Extension UI -/

inductive ExtensionUiRequest where
  | select (title : String) (options : List String) (timeout : Option UInt64)
  | confirm (title message : String) (timeout : Option UInt64)
  | input (title : String) (placeholder : Option String) (timeout : Option UInt64)
  | editor (title : String) (prefill : Option String) (promptStyle : Option Bool)
  | cancel (targetId : String)
  | other (method : String) (fields : Json)
  deriving DecidableEq, Repr

structure ExtensionUiRequestFrame where
  id : String
  request : ExtensionUiRequest
  deriving DecidableEq, Repr

inductive ExtensionUiResponse where
  | value (value : String)
  | confirmed (confirmed : Bool)
  | cancelled (timedOut : Option Bool)
  deriving DecidableEq, Repr

structure ExtensionUiResponseFrame where
  id : String
  response : ExtensionUiResponse
  deriving DecidableEq, Repr

/-! ## Frames -/

inductive TransportFrame where
  | ready (ready : Json)
  | rpcChunk (chunk : Json)
  deriving DecidableEq, Repr

inductive SideChannelFrame where
  | availableCommandsUpdate (commands : List AvailableSlashCommand)
  | promptResult (id : Option RequestId) (agentInvoked : Bool)
  | other (type : String) (fields : Json)
  deriving DecidableEq, Repr

inductive SessionEvent where
  | agentStart
  | agentEnd (fields : Json)
  | other (type : String) (fields : Json)
  deriving DecidableEq, Repr

/-- A frame from the OMP process. -/
inductive ServerMessage where
  | response (response : Response)
  | transport (frame : TransportFrame)
  | extensionUi (frame : ExtensionUiRequestFrame)
  | host (frame : Json)
  | sideChannel (frame : SideChannelFrame)
  | subagent (frame : Json)
  | sessionEvent (event : SessionEvent)
  deriving DecidableEq, Repr

/-- A command, with the id `Command::with_id` gives it. -/
structure Command where
  id : Option RequestId
  kind : String
  fields : Json
  deriving DecidableEq, Repr

/-- A message to the OMP process. -/
inductive ClientMessage where
  | command (command : Command)
  | extensionUi (frame : ExtensionUiResponseFrame)
  | host (frame : Json)
  deriving DecidableEq, Repr

end OmpRemote.Rpc
