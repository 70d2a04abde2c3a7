import OmpRemote.Client.Runner
import OmpRemote.Protocol.Serialize

/-!
# The client's handshake

What the client sends first on a connection and what it makes of the first answer.

- `ClientRunner.hello`: the first frame, which carries a cursor for each subscription
  the client can resume.
- `ClientConfig.handshake`: the welcome is read under the client's own limit, and its
  advertisement lowers the limit for what follows.
-/

namespace OmpRemote.Client

open Lib

structure ClientDescriptor where
  name : String
  version : String
  platform : ClientPlatform
  /-- The capabilities asked for. -/
  capabilities : List String

structure ClientConfig where
  serverId : ServerId
  client : ClientDescriptor
  frameLimits : FrameLimits

/-- `ClientHello`, with the fields that the server only stores or ignores. -/
structure Hello where
  supportedVersions : List ProtocolVersion
  client : ClientDescriptor
  authentication : ClientAuthentication
  /-- The cursors of `resume`. -/
  subscriptions : List SubscriptionCursor

/-- What the server reads of it. -/
def Hello.clientHello (hello : Hello) : ClientHello :=
  ⟨hello.supportedVersions, hello.client.capabilities, hello.authentication⟩

def ClientDescriptor.cbor (client : ClientDescriptor) : Cbor :=
  .map [("name", .text client.name), ("version", .text client.version),
    ("platform", .text client.platform.text),
    ("capabilities", .map [("requested", .array (client.capabilities.map .text))])]

/-- The frame `ClientFrame::Hello`. -/
def Hello.cbor (hello : Hello) : Cbor :=
  adjacentlyTagged "type" "payload" "hello" (.map
    [("supportedVersions",
        .array (hello.supportedVersions.map fun version => .uint version.toUInt64)),
      ("client", hello.client.cbor), ("authentication", hello.authentication.cbor),
      ("resume", .map [("subscriptions",
        .array (hello.subscriptions.map SubscriptionCursor.cbor))])])

/-! ## The first frame -/

namespace ClientRunner

/-- The order of the cursors is that of the agents; it is left open here. -/
def resumeCursors (runner : ClientRunner) : List SubscriptionCursor :=
  runner.desiredSubscriptions.filterMap runner.state.cursor

def hello (runner : ClientRunner) (config : ClientConfig) (authentication : ClientAuthentication) :
    Hello :=
  ⟨[1], config.client, authentication, runner.resumeCursors⟩

/-- The bytes of the first frame. -/
def encodeHello (runner : ClientRunner) (config : ClientConfig)
    (authentication : ClientAuthentication) : Except CborCodecError ByteArray :=
  (config.frameLimits.codec .preAuth).encodeValue
    (serialized (runner.hello config authentication).cbor)

end ClientRunner

/-! ## The first answer -/

inductive ClientRunError where
  | credentialUnavailable
  | credentialServerMismatch
  | credentialStorage (error : String)
  | serverIdentityMismatch
  | protocol (error : String)
  | transport (error : String)
  deriving DecidableEq, Repr

namespace ClientConfig

/-- `saved` is what the credential store says to a new credential. -/
def acceptCredential (config : ClientConfig) (authentication : ClientAuthentication)
    (welcome : ServerWelcome) (saved : Except String Unit) :
    Except ClientRunError (Option DeviceCredential) :=
  match authentication with
  | .pair .. =>
    match welcome.issuedCredential with
    | none => .error (.protocol "pairing welcome did not include a device credential")
    | some credential =>
      if credential.serverId ≠ config.serverId ∨ credential.deviceId ≠ welcome.deviceId then
        .error .credentialServerMismatch
      else match saved with
        | .error error => .error (.credentialStorage error)
        | .ok () => .ok (some credential)
  | .device deviceId _ =>
    if deviceId ≠ welcome.deviceId then .error .credentialServerMismatch else .ok none

/-- The codec for what follows the welcome. -/
def negotiated (config : ClientConfig) (welcome : ServerWelcome) :
    Except ClientRunError CborCodec :=
  let maximum := min welcome.capabilities.maxFrameBytes config.frameLimits.postAuth
  if h : maximum ≠ 0 then .ok ⟨⟨maximum, h⟩⟩
  else .error (.protocol "server advertised a zero-byte frame limit")

/-- The first message of the server; a new credential and the codec for the others. -/
def handshake (config : ClientConfig) (authentication : ClientAuthentication)
    (saved : Except String Unit) (message : WireMessage ServerFrame) :
    Except ClientRunError (ServerWelcome × Option DeviceCredential × CborCodec) :=
  match (config.frameLimits.codec .authenticated).decodeValue message with
  | .error error => .error (.protocol error.message)
  | .ok (.welcome welcome) =>
    if welcome.protocolVersion ≠ 1 then
      .error (.protocol "server selected an unsupported protocol version")
    else if welcome.serverId ≠ config.serverId then .error .serverIdentityMismatch
    else do
      let issued ← config.acceptCredential authentication welcome saved
      let codec ← config.negotiated welcome
      .ok ({ welcome with issuedCredential := none }, issued, codec)
  | .ok _ => .error (.protocol "server did not send welcome as its first frame")

end ClientConfig

end OmpRemote.Client
