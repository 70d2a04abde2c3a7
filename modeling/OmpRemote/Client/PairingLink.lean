import OmpRemote.Lib.Base64
import OmpRemote.Lib.Text
import OmpRemote.Protocol.Serialize

/-!
# Pairing links, read

A pairing link carries a `PairingBundle` as CBOR in base64 behind its last `#`; the
base64 alone is read too. The two libraries are parameters.

- `decodePairingLink`, with its limits.
- `decodePairingLink_payload`: what is read from any text that ends in a payload.
-/

namespace OmpRemote

open Lib

/-! ## The bundle -/

inductive TlsIdentityHint where
  | publiclyTrusted
  | insecureDevelopment
  | sha256Fingerprint (fingerprint : String)
  deriving DecidableEq, Repr

structure PairingBundle where
  formatVersion : UInt16
  serverId : ServerId
  endpoint : String
  pairingId : PairingId
  secret : PairingSecret
  expiresAtMs : UInt64
  tlsIdentity : TlsIdentityHint
  deriving DecidableEq, Repr

def TlsIdentityHint.cbor : TlsIdentityHint → Cbor
  | .publiclyTrusted => .map [("type", .text "publicly_trusted")]
  | .insecureDevelopment => .map [("type", .text "insecure_development")]
  | .sha256Fingerprint fingerprint =>
    adjacentlyTagged "type" "value" "sha256_fingerprint" (.text fingerprint)

def PairingBundle.cbor (bundle : PairingBundle) : Cbor :=
  .map [("formatVersion", .uint bundle.formatVersion.toUInt64),
    ("serverId", .text bundle.serverId.text), ("endpoint", .text bundle.endpoint),
    ("pairingId", .text bundle.pairingId.text), ("secret", .text bundle.secret.text),
    ("expiresAtMs", .uint bundle.expiresAtMs), ("tlsIdentity", bundle.tlsIdentity.cbor)]

/-! ## The libraries -/

/-- The engine `URL_SAFE_NO_PAD` of `base64`. -/
structure UrlSafeNoPad where
  encode : List UInt8 → String
  decode : String → Except String (List UInt8)
  decode_encode : ∀ bytes, decode (encode bytes) = .ok bytes
  length_encode : ∀ bytes, (encode bytes).length = (4 * bytes.length + 2) / 3
  encode_mem : ∀ bytes, ∀ c ∈ (encode bytes).toList, c ∈ Base64.urlAlphabet

/-- What ciborium reads from the start of some bytes, and where that ends. -/
abbrev BundleReader := ByteArray → Except String (PairingBundle × Nat)

namespace Client

def maxPairingPayloadBytes : UInt32 := 65536

/-- `div_ceil(3) * 4` of it. -/
def maxPairingPayloadTextBytes : Nat := (maxPairingPayloadBytes.toNat + 2) / 3 * 4

inductive PairingLinkError where
  | missingPayload
  | payloadTooLarge
  | invalidBase64 (error : String)
  | invalidCbor (error : CborCodecError)
  deriving DecidableEq, Repr

def decodePairingLink (base64 : UrlSafeNoPad) (read : BundleReader) (value : String) :
    Except PairingLinkError PairingBundle :=
  let value := Text.trim value.toList
  let payload := String.ofList ((Text.rsplitOnce '#' value).elim value Prod.snd)
  if payload.isEmpty then .error .missingPayload
  else if maxPairingPayloadTextBytes < payload.utf8ByteSize then .error .payloadTooLarge
  else match base64.decode payload with
    | .error error => .error (.invalidBase64 error)
    | .ok bytes =>
      let codec : CborCodec := ⟨⟨maxPairingPayloadBytes, by decide⟩⟩
      (codec.decodeValue ⟨bytes.length, read ⟨bytes.toArray⟩⟩).mapError .invalidCbor

/-! ## What is read -/

/-- Letters for links are neither white space nor `#`, and one byte long. -/
theorem urlAlphabet_plain {c : Char} (h : c ∈ Base64.urlAlphabet) :
    Text.isWhiteSpace c = false ∧ c ≠ '#' ∧ c.utf8Size = 1 := by
  have hall : Base64.urlAlphabet.all
      (fun c => Text.isWhiteSpace c = false ∧ c ≠ '#' ∧ c.utf8Size = 1) = true := by
    decide +kernel
  exact of_decide_eq_true (List.all_eq_true.mp hall c h)

/-- **A payload is read.** A text is read as the bundle when it is white space, something
that is empty or ends in `#` and does not begin with white space, the payload, and white
space. -/
theorem decodePairingLink_payload (base64 : UrlSafeNoPad) {read : BundleReader}
    {bytes : List UInt8} {bundle : PairingBundle} (hne : bytes ≠ [])
    (hsize : bytes.length ≤ maxPairingPayloadBytes.toNat)
    (hread : read ⟨bytes.toArray⟩ = .ok (bundle, bytes.length)) {front : List Char}
    (hfront : front = [] ∨ ∃ link, front = link ++ ['#'])
    (hhead : ∀ c ∈ front.head?, Text.isWhiteSpace c = false) {before after : String}
    (hbefore : Text.IsBlank before) (hafter : Text.IsBlank after) :
    decodePairingLink base64 read
      (before ++ (String.ofList front ++ base64.encode bytes) ++ after) = .ok bundle := by
  have hplain := fun c hc => urlAlphabet_plain (base64.encode_mem bytes c hc)
  have hlength := base64.length_encode bytes
  have hpos := List.length_pos_of_ne_nil hne
  generalize hpayload : base64.encode bytes = payload at hplain hlength
  have hpayload_ne : payload.toList ≠ [] := by
    refine List.ne_nil_of_length_pos ?_
    rw [String.length_toList, hlength]
    omega
  -- the link is what is left of the text
  have htrim : Text.trim (before ++ (String.ofList front ++ payload) ++ after).toList =
      front ++ payload.toList := by
    rw [String.toList_append, String.toList_append, String.toList_append, String.toList_ofList]
    refine Text.trim_surrounded hbefore hafter (List.append_ne_nil_of_right_ne_nil _ hpayload_ne)
      ?_ ?_
    · cases front with
      | nil => exact fun c hc => (hplain c (List.mem_of_mem_head? hc)).1
      | cons c front => exact hhead
    · rw [List.getLast?_append_of_ne_nil _ hpayload_ne]
      exact fun c hc => (hplain c (List.mem_of_mem_getLast? hc)).1
  -- and the payload what follows its last `#`
  have hsplit : String.ofList ((Text.rsplitOnce '#' (front ++ payload.toList)).elim
      (front ++ payload.toList) Prod.snd) = payload := by
    have hnone : '#' ∉ payload.toList := fun hmem => (hplain '#' hmem).2.1 rfl
    rcases hfront with rfl | ⟨link, rfl⟩
    · rw [List.nil_append, Text.rsplitOnce_none hnone]
      exact String.ofList_toList
    · rw [List.append_assoc, List.singleton_append, Text.rsplitOnce_append link hnone]
      exact String.ofList_toList
  have hbytes : payload.utf8ByteSize = payload.length := by
    rw [← String.ofList_toList (s := payload), String.length_ofList]
    exact Text.utf8ByteSize_ofList fun c hc => (hplain c hc).2.2
  have hlimit : maxPairingPayloadBytes.toNat = 65536 := rfl
  have htext : maxPairingPayloadTextBytes = 87384 := rfl
  unfold decodePairingLink
  simp only [htrim, hsplit]
  rw [if_neg, if_neg (by omega), ← hpayload, base64.decode_encode]
  · simp only [CborCodec.decodeValue, hread, hlimit]
    rw [if_neg (by omega)]
    simp only [ne_eq, not_true_eq_false, if_false]
    rfl
  · intro hempty
    rw [String.isEmpty_iff] at hempty
    rw [hempty] at hpayload_ne
    exact hpayload_ne rfl

end Client

end OmpRemote
