import OmpRemote.Lib.IpAddr
import OmpRemote.Ompd.PairingAtomic

/-!
# Loopback on both sides

For development a daemon serves plain text on a loopback address, and a native client
connects to it when the host of the endpoint is one. The daemon looks at its socket
address, the client at the text of the host.

- `validateTarget`, over the parser of `url`.
- `loopback_agree_iff`: the addresses on which both agree.
-/

namespace OmpRemote

open Lib

namespace Ompd.SocketAddr

def ip : SocketAddr → IpAddr
  | v4 octets _ => .v4 octets
  | v6 address _ _ _ => .v6 address

/-- `Display`. -/
def text : SocketAddr → List Char
  | v4 octets port => IpAddr.dotted octets ++ ':' :: IpAddr.decimal port.toNat
  | v6 address port _ scopeId =>
    let scope := if scopeId = 0 then [] else '%' :: IpAddr.decimal scopeId.toNat
    '[' :: (IpAddr.ipv6Text address ++ scope ++ ']' :: ':' :: IpAddr.decimal port.toNat)

/-- The endpoint of a daemon that serves plain text on the address. -/
def plaintextEndpoint (address : SocketAddr) : String :=
  "ws://" ++ String.ofList address.text ++ "/control"

example : plaintextEndpoint (.v6 1 80 0 0) = "ws://[::1]:80/control" := by decide +kernel

end Ompd.SocketAddr

namespace Client

open Ompd

structure SocketTarget where
  endpoint : String
  tlsIdentity : TlsIdentityHint

/-- What is asked of a parsed URL. -/
structure Url where
  scheme : String
  hostStr : Option String
  deriving DecidableEq, Repr

def eqIgnoreAsciiCase (text text' : List Char) : Bool :=
  text.map Char.toLower == text'.map Char.toLower

def isLoopback (url : Url) : Bool :=
  match url.hostStr with
  | none => false
  | some host =>
    eqIgnoreAsciiCase host.toList "localhost".toList ||
      (IpAddr.parse host.toList).any IpAddr.isLoopback

def validateTarget (parse : String → Except String Url) (target : SocketTarget) :
    Except String Unit := do
  let url ← (parse target.endpoint).mapError fun error => "invalid WebSocket endpoint: " ++ error
  match target.tlsIdentity with
  | .publiclyTrusted | .sha256Fingerprint _ =>
    if url.scheme ≠ "wss" then throw "trusted and pinned connections require a wss:// endpoint"
  | .insecureDevelopment =>
    if url.scheme ≠ "ws" || !isLoopback url then
      throw "insecure development connections require a loopback ws:// endpoint"

end Client

namespace Ompd

/-- The configuration for development on an address. -/
def plaintextConfig (address : SocketAddr) : TransportConfig :=
  ⟨address, address.plaintextEndpoint, .developmentPlaintext address⟩

theorem SocketAddr.isLoopback_eq (address : SocketAddr) :
    address.isLoopback = address.ip.isLoopback := by
  cases address <;> rfl

/-- The daemon serves an address iff it is a loopback address. -/
theorem plaintextConfig_validate (address : SocketAddr) :
    (plaintextConfig address).validate.isOk = address.ip.isLoopback := by
  have htext : address.plaintextEndpoint.toList =
      "ws://".toList ++ (address.text ++ "/control".toList) := by
    rw [SocketAddr.plaintextEndpoint, String.toList_append, String.toList_append,
      @String.toList_ofList address.text, List.append_assoc]
  have hstarts : startsWith address.plaintextEndpoint "ws://" = true := by
    rw [startsWith_iff, htext]
    exact List.prefix_append _ _
  have hends : endsWith address.plaintextEndpoint "/control" = true := by
    rw [endsWith_iff, htext, ← List.append_assoc]
    exact List.suffix_append _ _
  rw [← SocketAddr.isLoopback_eq]
  simp only [plaintextConfig, TransportConfig.validate, hstarts, hends]
  cases address.isLoopback <;> simp <;> rfl

end Ompd

namespace Client

open Ompd

/-! ## The client -/

theorem isLoopback_host (scheme : String) (host : List Char) :
    isLoopback ⟨scheme, some (String.ofList host)⟩ =
      (eqIgnoreAsciiCase host "localhost".toList || (IpAddr.parse host).any IpAddr.isLoopback) := by
  unfold isLoopback
  dsimp only
  rw [@String.toList_ofList host]

theorem isLocalhost_cons {c : Char} (h : c.toLower ≠ 'l') (cs : List Char) :
    eqIgnoreAsciiCase (c :: cs) "localhost".toList = false := by
  refine beq_eq_false_iff_ne.mpr fun heq => h ?_
  exact (List.cons.inj heq).1

/-- The host of an address of version 4. -/
theorem isLoopback_dotted (scheme : String) (octets : Octets) :
    isLoopback ⟨scheme, some (String.ofList (IpAddr.dotted octets))⟩ =
      (IpAddr.v4 octets).isLoopback := by
  -- a number begins with a digit, so a dotted address is not the name `localhost`
  have hall : ∀ n : Fin 256,
      (IpAddr.decimal n).head?.any (fun c => c.toLower ≠ 'l') = true := by decide +kernel
  have hname : eqIgnoreAsciiCase (IpAddr.dotted octets) "localhost".toList = false := by
    obtain ⟨a, b, c, d⟩ := octets
    have hhead : (IpAddr.decimal a.toNat).head?.any (fun c => c.toLower ≠ 'l') = true :=
      hall ⟨a.toNat, a.toNat_lt⟩
    obtain ⟨first, hfirst, hlower⟩ := (Option.any_eq_true _ _).mp hhead
    obtain ⟨rest, hrest⟩ := List.head?_eq_some_iff.mp hfirst
    unfold IpAddr.dotted
    dsimp only
    rw [hrest]
    exact isLocalhost_cons (of_decide_eq_true hlower) _
  rw [isLoopback_host, hname, IpAddr.parse_dotted]
  rfl

/-- A host in brackets is no address to the client. -/
theorem isLoopback_bracket (scheme : String) (text : List Char) :
    isLoopback ⟨scheme, some (String.ofList ('[' :: text))⟩ = false := by
  rw [isLoopback_host, isLocalhost_cons (by decide), IpAddr.parse_bracket]
  rfl

/-- What `url` returns as the host of a daemon's endpoint: the dotted form of an address,
or one in brackets. -/
def HostAsWritten (parse : String → Except String Url) (address : SocketAddr) : Prop :=
  match address with
  | .v4 octets _ =>
    parse address.plaintextEndpoint =
      .ok ⟨"ws", some (String.ofList (IpAddr.dotted octets))⟩
  | .v6 .. =>
    ∀ url, parse address.plaintextEndpoint = .ok url →
      ∃ text, url.hostStr = some (String.ofList ('[' :: (text ++ [']'])))

theorem validateTarget_insecure (parse : String → Except String Url) (endpoint : String) :
    (validateTarget parse ⟨endpoint, .insecureDevelopment⟩).isOk =
      (parse endpoint).toOption.any fun url => url.scheme == "ws" && isLoopback url := by
  unfold validateTarget
  cases parse endpoint with
  | error error => rfl
  | ok url =>
    by_cases hscheme : url.scheme = "ws"
    · cases hlocal : isLoopback url <;>
        simp [Except.mapError, bind, Except.bind, Except.toOption, hscheme, hlocal] <;> rfl
    · simp [Except.mapError, bind, Except.bind, Except.toOption, hscheme,
        beq_eq_false_iff_ne.mpr hscheme]
      rfl

/-! ## Both -/

/-- **Where daemon and client agree.** A daemon serves plain text on an address iff a
native client connects to the endpoint it makes of it, for every address but the
loopback address of version 6. -/
theorem loopback_agree_iff {parse : String → Except String Url} {address : SocketAddr}
    (hparse : HostAsWritten parse address) :
    (plaintextConfig address).validate.isOk =
        (validateTarget parse ⟨address.plaintextEndpoint, .insecureDevelopment⟩).isOk ↔
      address.ip ≠ .v6 1 := by
  rw [plaintextConfig_validate, validateTarget_insecure]
  cases address with
  | v4 octets port =>
    have hurl : parse (SocketAddr.plaintextEndpoint (.v4 octets port)) = _ := hparse
    -- both sides ask the same of an address of version 4
    rw [hurl, Except.toOption, Option.any_some, isLoopback_dotted]
    exact ⟨fun _ => nofun, fun _ => (Bool.true_and _).symm⟩
  | v6 address port flowinfo scopeId =>
    -- the client refuses every address in brackets; the daemon accepts one of them
    have hclient : (parse (SocketAddr.plaintextEndpoint
        (.v6 address port flowinfo scopeId))).toOption.any
          (fun url => url.scheme == "ws" && isLoopback url) = false := by
      cases hurl : parse (SocketAddr.plaintextEndpoint (.v6 address port flowinfo scopeId)) with
      | error error => rfl
      | ok url =>
        obtain ⟨text, hhost⟩ := hparse url hurl
        obtain ⟨scheme, hostStr⟩ := url
        cases hhost
        rw [Except.toOption, Option.any_some, isLoopback_bracket, Bool.and_false]
    rw [hclient]
    show (address == 1) = false ↔ _
    rw [beq_eq_false_iff_ne]
    exact not_congr ⟨congrArg _, fun h => IpAddr.v6.inj h⟩

/-- A URL as far as these endpoints go: what is between the slashes, without the port. -/
def parseWs (endpoint : String) : Except String Url :=
  match stripPrefix endpoint "ws://" with
  | none => .error "relative URL without a base"
  | some rest =>
    let authority := rest.toList.takeWhile (· ≠ '/')
    .ok ⟨"ws", (Text.rsplitOnce ':' authority).map fun cut => String.ofList cut.1⟩

/-- Both accept the address the tests use. -/
theorem loopback_agree_v4 :
    (plaintextConfig (.v4 (127, 0, 0, 1) 8080)).validate.isOk =
      (validateTarget parseWs ⟨"ws://127.0.0.1:8080/control", .insecureDevelopment⟩).isOk :=
  (@loopback_agree_iff parseWs (.v4 (127, 0, 0, 1) 8080)
    (show parseWs _ = _ by decide +kernel)).mpr nofun

/-- A daemon on `::1`, to which no native client connects. -/
theorem loopback_disagree_v6 :
    (plaintextConfig (.v6 1 8080 0 0)).validate.isOk = true ∧
      (parseWs "ws://[::1]:8080/control").toOption.map Url.hostStr = some (some "[::1]") ∧
      (validateTarget parseWs
        ⟨SocketAddr.plaintextEndpoint (.v6 1 8080 0 0), .insecureDevelopment⟩).isOk = false := by
  decide +kernel

end Client

end OmpRemote
