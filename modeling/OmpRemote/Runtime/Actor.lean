import OmpRemote.Lib.Machine
import OmpRemote.Rpc.Message

/-!
# The runtime actor

The task that talks to one OMP process. It writes commands to the process, keeps
the requests that wait for a response in a table, and sorts the frames that come
back: a response goes to the request waiting under its id, everything else to the
event stream.

- `RuntimeActor`: the task's variables, and where in `run_actor` it is (`Phase`).
- `RuntimeActor.step`: one turn of one of its three loops: the main loop, the
  graceful part of `shutdown_child`, and `drain_reader`.

What the outside decides (which branch of a `select!` is ready, whether a write
succeeds, what the process does) comes with the input.
-/

namespace OmpRemote.Runtime

open Rpc

/-! ## Data -/

structure ExitStatus where
  code : Option Int32
  success : Bool
  deriving DecidableEq, Repr

structure RuntimeExit where
  code : Option Int32
  success : Bool
  forced : Bool
  deriving DecidableEq, Repr

inductive RuntimeStatus where
  | running (processId : UInt32)
  | exited (exit : RuntimeExit)
  | failed (message : String)
  deriving DecidableEq, Repr

inductive RuntimeEvent where
  | frame (frame : ServerMessage)
  | stderr (text : String)
  | exited (exit : RuntimeExit)
  | failed (message : String)
  deriving DecidableEq, Repr

inductive PromptCompletion where
  | local | agent
  deriving DecidableEq, Repr

inductive PromptPhase where
  | submitted
  | running
  | completed (completion : PromptCompletion)
  | failed (message : String)
  deriving DecidableEq, Repr

structure PromptStatus where
  requestId : Rpc.RequestId
  phase : PromptPhase
  deriving DecidableEq, Repr

inductive RequestError where
  | runtimeStopped
  | timedOut (requestId : Rpc.RequestId)
  | frameTooLarge (bytes limit : Nat)
  | transport (message : String)
  deriving DecidableEq, Repr

def RequestError.message : RequestError → String
  | .runtimeStopped => "OMP runtime is not running"
  | .timedOut requestId => "request " ++ requestId.text ++ " timed out"
  | .frameTooLarge bytes limit =>
    "RPC command is " ++ toString bytes ++ " bytes; limit is " ++ toString limit ++ " bytes"
  | .transport message => "OMP transport failed: " ++ message

inductive ReaderItem where
  | frame (frame : ServerMessage)
  | error (message : String)
  | eof
  deriving DecidableEq, Repr

/-- What becomes of one message to the process: its encoded length, and how
writing it ends. -/
structure Write where
  encoded : Except String Nat
  written : Except String Unit

inductive ActorMessage where
  | request (requestId : Rpc.RequestId) (kind : String) (fields : Json) (write : Write)
  | cancel (requestId : Rpc.RequestId)
  | send (message : ClientMessage) (write : Write)
  | shutdown

/-- Where `run_actor` is. `answer` says whether the shutdown was asked for, so
that somebody waits for its result. -/
inductive Phase where
  | running
  | shuttingDown (answer : Bool)
  | draining (exit : RuntimeExit) (answer : Bool)
  | ended
  deriving DecidableEq, Repr

structure RuntimeActor where
  phase : Phase
  maxFrameBytes : Nat
  /-- The ids in the table of pending requests. -/
  pending : List Rpc.RequestId
  readerOpen : Bool
  status : RuntimeStatus
  prompt : Option PromptStatus

/-- What a step gives to others: results of requests and sends, events. -/
inductive Effect where
  | resolved (requestId : Rpc.RequestId) (result : Except RequestError Response)
  /-- The sender is dropped without a result. -/
  | dropped (requestId : Rpc.RequestId)
  | event (event : RuntimeEvent)
  | sent (result : Except RequestError Unit)
  | shutDown (result : Except RequestError RuntimeExit)

inductive RuntimeInput where
  | childWait (status : Except String ExitStatus)
  | message (message : ActorMessage)
  /-- The last handle is gone. -/
  | disconnected
  | reader (item : Option ReaderItem)
  /-- The process did not exit in time; killing it and waiting for it end so. -/
  | timeout (killed : Except String Unit) (status : Except String ExitStatus)

def exitFromStatus (status : ExitStatus) (forced : Bool) : RuntimeExit :=
  ⟨status.code, status.success, forced⟩

def isPromptCommand (kind : String) : Bool := kind = "prompt" || kind = "abort_and_prompt"

def writeMessage (write : Write) (maxFrameBytes : Nat) : Except RequestError Unit :=
  match write.encoded with
  | .error message => .error (.transport message)
  | .ok bytes =>
    if bytes > maxFrameBytes then .error (.frameTooLarge bytes maxFrameBytes)
    else write.written.mapError .transport

namespace RuntimeActor

def spawn (processId : UInt32) (maxFrameBytes : Nat) : RuntimeActor where
  phase := .running
  maxFrameBytes := maxFrameBytes
  pending := []
  readerOpen := true
  status := .running processId
  prompt := none

/-! ## The prompt status -/

/-- The phase a frame moves the current prompt to. -/
def nextPromptPhase (current : PromptStatus) : ServerMessage → Option PromptPhase
  | .response (.error (some id) _ error _) =>
    if id = current.requestId then some (.failed error) else none
  | .response (.success (some id) (.prompt (some acknowledgement))) =>
    if id ≠ current.requestId then none
    else if !acknowledgement.agentInvoked then some (.completed .local)
    else if current.phase = .submitted then some .running
    else none
  | .sideChannel (.promptResult (some id) agentInvoked) =>
    if id ≠ current.requestId then none
    else some (if agentInvoked then .running else .completed .local)
  | .sessionEvent .agentStart => if current.phase = .submitted then some .running else none
  | .sessionEvent (.agentEnd _) =>
    if current.phase = .submitted ∨ current.phase = .running then some (.completed .agent)
    else none
  | _ => none

def updatePromptStatus (actor : RuntimeActor) (frame : ServerMessage) : RuntimeActor :=
  match actor.prompt with
  | none => actor
  | some current =>
    match nextPromptPhase current frame with
    | none => actor
    | some phase => { actor with prompt := some ⟨current.requestId, phase⟩ }

def submitPrompt (actor : RuntimeActor) (requestId : Rpc.RequestId) (kind : String) :
    RuntimeActor :=
  if isPromptCommand kind then { actor with prompt := some ⟨requestId, .submitted⟩ } else actor

def failPrompt (actor : RuntimeActor) (requestId : Rpc.RequestId) (error : String) : RuntimeActor :=
  match actor.prompt with
  | none => actor
  | some current =>
    if current.requestId = requestId then
      { actor with prompt := some ⟨current.requestId, .failed error⟩ }
    else actor

/-! ## The table of pending requests -/

/-- Inserting under a taken id drops the sender that was there. -/
def insertPending (actor : RuntimeActor) (requestId : Rpc.RequestId) :
    List Effect × RuntimeActor :=
  if requestId ∈ actor.pending then ([.dropped requestId], actor)
  else ([], { actor with pending := requestId :: actor.pending })

def cancel (actor : RuntimeActor) (requestId : Rpc.RequestId) : List Effect × RuntimeActor :=
  if requestId ∈ actor.pending then
    ([.dropped requestId], { actor with pending := actor.pending.erase requestId })
  else ([], actor)

def handleFrame (actor : RuntimeActor) (frame : ServerMessage) : List Effect × RuntimeActor :=
  let actor := actor.updatePromptStatus frame
  match frame with
  | .response response =>
    match response.id with
    | some requestId =>
      if requestId ∈ actor.pending then
        ([.resolved requestId (.ok response)],
          { actor with pending := actor.pending.erase requestId })
      else ([.event (.frame frame)], actor)
    | none => ([.event (.frame frame)], actor)
  | _ => ([.event (.frame frame)], actor)

/-! ## The end of the task -/

/-- `fail_pending`, the last thing the task does. -/
def failPending (actor : RuntimeActor) : List Effect × RuntimeActor :=
  (actor.pending.map fun requestId => .resolved requestId (.error .runtimeStopped),
    { actor with phase := .ended, pending := [] })

/-- Publish the exit, answer the shutdown if asked for, and end. -/
def finishExit (actor : RuntimeActor) (exit : RuntimeExit) (answer : Bool) :
    List Effect × RuntimeActor :=
  let (failed, actor) := { actor with status := .exited exit }.failPending
  ([.event (.exited exit)] ++ (if answer then [.shutDown (.ok exit)] else []) ++ failed, actor)

/-- Publish a failure, answer the shutdown if asked for, and end. -/
def finishFailure (actor : RuntimeActor) (message : String) (answer : Bool) :
    List Effect × RuntimeActor :=
  let (failed, actor) := { actor with status := .failed message }.failPending
  ([.event (.failed message)] ++
    (if answer then [.shutDown (.error (.transport message))] else []) ++ failed, actor)

/-! ## The loops -/

def request (actor : RuntimeActor) (requestId : Rpc.RequestId) (kind : String) (write : Write) :
    List Effect × RuntimeActor :=
  let actor := actor.submitPrompt requestId kind
  match writeMessage write actor.maxFrameBytes with
  | .ok () => actor.insertPending requestId
  | .error (.frameTooLarge bytes limit) =>
    let error := RequestError.frameTooLarge bytes limit
    ([.resolved requestId (.error error)], actor.failPrompt requestId error.message)
  | .error error =>
    let (effects, actor) := actor.finishFailure error.message false
    (.resolved requestId (.error error) :: effects, actor)

def send (actor : RuntimeActor) (write : Write) : List Effect × RuntimeActor :=
  match writeMessage write actor.maxFrameBytes with
  | .ok () => ([.sent (.ok ())], actor)
  | .error (.frameTooLarge bytes limit) =>
    ([.sent (.error (.frameTooLarge bytes limit))], actor)
  | .error error =>
    let (effects, actor) := actor.finishFailure error.message false
    (.sent (.error error) :: effects, actor)

/-- One turn of the main loop of `run_actor`. -/
def turn (actor : RuntimeActor) : RuntimeInput → List Effect × RuntimeActor
  | .childWait (.ok status) =>
    ([], { actor with phase := .draining (exitFromStatus status false) false })
  | .childWait (.error error) => actor.finishFailure error false
  | .message (.request requestId kind _ write) => actor.request requestId kind write
  | .message (.cancel requestId) => actor.cancel requestId
  | .message (.send _ write) => actor.send write
  | .message .shutdown => ([], { actor with phase := .shuttingDown true })
  | .disconnected => ([], { actor with phase := .shuttingDown false })
  | .reader item =>
    if !actor.readerOpen then ([], actor)
    else match item with
      | some (.frame frame) => actor.handleFrame frame
      | some (.error error) => actor.finishFailure error false
      | some .eof | none => ([], { actor with readerOpen := false })
  | .timeout .. => ([], actor)

/-- One turn of the graceful loop of `shutdown_child`, which takes no messages. -/
def shutdownTurn (actor : RuntimeActor) (answer : Bool) :
    RuntimeInput → List Effect × RuntimeActor
  | .childWait (.ok status) =>
    ([], { actor with phase := .draining (exitFromStatus status false) answer })
  | .childWait (.error error) => actor.finishFailure error answer
  | .reader item =>
    if !actor.readerOpen then ([], actor)
    else match item with
      | some (.frame frame) => actor.handleFrame frame
      | some (.error error) => actor.finishFailure error answer
      | some .eof | none => ([], { actor with readerOpen := false })
  | .timeout (.error error) _ => actor.finishFailure error answer
  | .timeout (.ok ()) (.error error) => actor.finishFailure error answer
  | .timeout (.ok ()) (.ok status) =>
    ([], { actor with phase := .draining (exitFromStatus status true) answer })
  | .message _ | .disconnected => ([], actor)

/-- One turn of `drain_reader`. -/
def drainTurn (actor : RuntimeActor) (exit : RuntimeExit) (answer : Bool) :
    RuntimeInput → List Effect × RuntimeActor
  | .reader (some (.frame frame)) => actor.handleFrame frame
  | .reader (some (.error error)) =>
    let (effects, actor) := actor.finishExit exit answer
    (.event (.failed error) :: effects, actor)
  | .reader (some .eof) | .reader none => actor.finishExit exit answer
  | _ => ([], actor)

def step (actor : RuntimeActor) (input : RuntimeInput) : List Effect × RuntimeActor :=
  match actor.phase with
  | .running => actor.turn input
  | .shuttingDown answer => actor.shutdownTurn answer input
  | .draining exit answer => actor.drainTurn exit answer input
  | .ended => ([], actor)

end RuntimeActor

end OmpRemote.Runtime
