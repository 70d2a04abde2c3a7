import OmpRemote.Ompd.Store

/-!
# Columns

What SQLite holds of a record, and what the store makes of it when it reads it back:
identifiers are texts that may not be empty, times are signed integers, enumerations are
words.

- `AgentRecord.columns` and its siblings: what is written.
- `decodeAgent` and its siblings: what is read.
- `decodeAgent_columns` and its siblings: what was written is read back, but for an empty
  identifier.
-/

namespace OmpRemote.Ompd

/-! ## Values -/

/-- The integer that a word is written as. -/
def integer (value : UInt64) : Int := value.toNat

/-- `sql_u64`. -/
def sqlI64 (value : UInt64) (field : String) : Except StoreError Int :=
  if value.toNat < 2 ^ 63 then .ok (integer value) else .error (.integerOverflow field)

def wireU64 (value : Int) (field : String) : Except StoreError UInt64 :=
  if 0 ≤ value ∧ value < 2 ^ 64 then .ok (.ofNat value.toNat)
  else .error (.corruptData ("negative " ++ field))

/-- The `new` of an identifier, as the store reports its error. -/
def identifier (label value : String) : Except StoreError String :=
  if value = "" then .error (.corruptData (label ++ " cannot be empty")) else .ok value

theorem sqlI64_eq (value : UInt64) (field : String) :
    sqlI64 value field = (sqlU64 value field).map integer := by
  unfold sqlI64 sqlU64
  split <;> rfl

@[simp] theorem wireU64_integer (value : UInt64) (field : String) :
    wireU64 (integer value) field = .ok value := by
  have hlt := value.toNat_lt
  unfold wireU64 integer
  rw [if_pos (by omega), Int.toNat_natCast, UInt64.ofNat_toNat]

theorem identifier_ok {label value : String} (h : value ≠ "") :
    identifier label value = .ok value := if_neg h

/-- `wireU64` of a column that may be null. -/
def wireU64? (value : Option Int) (field : String) : Except StoreError (Option UInt64) :=
  match value with
  | none => .ok none
  | some value => (wireU64 value field).map some

@[simp] theorem wireU64?_integer (value : Option UInt64) (field : String) :
    wireU64? (value.map integer) field = .ok value := by
  cases value with
  | none => rfl
  | some value =>
    show (wireU64 (integer value) field).map some = _
    rw [wireU64_integer]
    rfl

/-! ## Agents -/

structure RawAgent where
  agentId : String
  lifecycle : String
  failureReason : Option String
  processId : Option Int
  activeRunId : Option String
  createdAtMs : Int
  updatedAtMs : Int
  deriving DecidableEq, Repr

def encodeLifecycle : AgentLifecycle → String × Option String
  | .starting => ("starting", none)
  | .idle => ("idle", none)
  | .running => ("running", none)
  | .stopping => ("stopping", none)
  | .stopped => ("stopped", none)
  | .interrupted => ("interrupted", none)
  | .failed reason => ("failed", some reason)

def decodeLifecycle (lifecycle : String) (failureReason : Option String) :
    Except StoreError AgentLifecycle :=
  match lifecycle with
  | "starting" => .ok .starting
  | "idle" => .ok .idle
  | "running" => .ok .running
  | "stopping" => .ok .stopping
  | "stopped" => .ok .stopped
  | "interrupted" => .ok .interrupted
  | "failed" =>
    match failureReason with
    | some reason => .ok (.failed reason)
    | none => .error (.corruptData "failed agent has no failure reason")
  | other => .error (.corruptData ("unknown agent lifecycle " ++ other))

@[simp] theorem decodeLifecycle_encode (lifecycle : AgentLifecycle) :
    decodeLifecycle (encodeLifecycle lifecycle).1 (encodeLifecycle lifecycle).2 = .ok lifecycle := by
  cases lifecycle <;> rfl

def AgentRecord.columns (record : AgentRecord) : RawAgent where
  agentId := record.agentId.text
  lifecycle := (encodeLifecycle record.lifecycle).1
  failureReason := (encodeLifecycle record.lifecycle).2
  processId := record.processId.map fun process => process.toNat
  activeRunId := record.activeRunId.map RunId.text
  createdAtMs := integer record.createdAtMs
  updatedAtMs := integer record.updatedAtMs

def decodeProcess : Option Int → Except StoreError (Option UInt32)
  | none => .ok none
  | some process =>
    if 0 ≤ process ∧ process < 2 ^ 32 then .ok (some (.ofNat process.toNat))
    else .error (.corruptData "invalid process ID")

def decodeRun : Option String → Except StoreError (Option RunId)
  | none => .ok none
  | some run => (identifier "run ID" run).map fun run => some ⟨run⟩

def decodeAgent (raw : RawAgent) : Except StoreError AgentRecord := do
  let agentId ← identifier "agent ID" raw.agentId
  let lifecycle ← decodeLifecycle raw.lifecycle raw.failureReason
  let processId ← decodeProcess raw.processId
  let activeRunId ← decodeRun raw.activeRunId
  let createdAtMs ← wireU64 raw.createdAtMs "agent created_at_ms"
  let updatedAtMs ← wireU64 raw.updatedAtMs "agent updated_at_ms"
  .ok ⟨⟨agentId⟩, lifecycle, processId, activeRunId, createdAtMs, updatedAtMs⟩

/-- The identifiers in it are none of the empty ones. -/
def AgentRecord.Named (record : AgentRecord) : Prop :=
  record.agentId.text ≠ "" ∧ record.activeRunId ≠ some ⟨""⟩

theorem decodeProcess_columns (process : Option UInt32) :
    decodeProcess (process.map fun process => (process.toNat : Int)) = .ok process := by
  cases process with
  | none => rfl
  | some process =>
    have hlt := process.toNat_lt
    have hfits : (0 : Int) ≤ process.toNat ∧ (process.toNat : Int) < 2 ^ 32 := by omega
    simp only [Option.map_some, decodeProcess]
    rw [if_pos hfits, Int.toNat_natCast, UInt32.ofNat_toNat]

theorem decodeRun_columns {run : Option RunId} (h : run ≠ some ⟨""⟩) :
    decodeRun (run.map RunId.text) = .ok run := by
  cases run with
  | none => rfl
  | some run =>
    have htext : run.text ≠ "" := fun heq => h (congrArg some (congrArg RunId.mk heq))
    show (identifier "run ID" run.text).map _ = _
    rw [identifier_ok htext]
    rfl

/-- **An agent is read back as it was written**, but for an empty identifier. -/
theorem decodeAgent_columns {record : AgentRecord} (h : record.Named) :
    decodeAgent record.columns = .ok record := by
  unfold decodeAgent AgentRecord.columns
  rw [identifier_ok h.1, decodeLifecycle_encode, decodeProcess_columns, decodeRun_columns h.2,
    wireU64_integer, wireU64_integer]
  rfl

theorem decodeAgent_unnamed {record : AgentRecord} (h : ¬ record.Named) :
    ∃ label, decodeAgent record.columns = .error (.corruptData (label ++ " cannot be empty")) := by
  unfold decodeAgent AgentRecord.columns
  by_cases hagent : record.agentId.text = ""
  · rw [hagent]
    exact ⟨"agent ID", rfl⟩
  · have hrun : record.activeRunId = some ⟨""⟩ := not_not.mp fun hne => h ⟨hagent, hne⟩
    rw [identifier_ok hagent, decodeLifecycle_encode, decodeProcess_columns, hrun]
    exact ⟨"run ID", rfl⟩

/-! ## Sessions -/

structure RawSession where
  agentId : String
  sessionId : String
  sessionFile : String
  revision : Int
  eventSequence : Int
  updatedAtMs : Int
  deriving DecidableEq, Repr

def SessionResumeRecord.columns (record : SessionResumeRecord) : RawSession where
  agentId := record.agentId.text
  sessionId := record.sessionId
  sessionFile := record.sessionFile
  revision := integer record.revision
  eventSequence := integer record.eventSequence
  updatedAtMs := integer record.updatedAtMs

def decodeSession (raw : RawSession) : Except StoreError SessionResumeRecord := do
  let agentId ← identifier "agent ID" raw.agentId
  let revision ← wireU64 raw.revision "session revision"
  let eventSequence ← wireU64 raw.eventSequence "session event sequence"
  let updatedAtMs ← wireU64 raw.updatedAtMs "session updated_at_ms"
  .ok ⟨⟨agentId⟩, raw.sessionId, raw.sessionFile, revision, eventSequence, updatedAtMs⟩

theorem decodeSession_columns {record : SessionResumeRecord} (h : record.agentId.text ≠ "") :
    decodeSession record.columns = .ok record := by
  unfold decodeSession SessionResumeRecord.columns
  rw [identifier_ok h, wireU64_integer, wireU64_integer, wireU64_integer]
  rfl

/-! ## Devices -/

structure RawDevice (δ : Type) where
  deviceId : String
  name : String
  platform : String
  /-- The six scope columns. -/
  scopes : DeviceScopes
  tokenHash : δ
  createdAtMs : Int
  lastSeenAtMs : Option Int
  revokedAtMs : Option Int

def encodePlatform : ClientPlatform → String
  | .web => "web"
  | .mobile => "mobile"
  | .desktop => "desktop"
  | .cli => "cli"
  | .service => "service"

def decodePlatform : String → Except StoreError ClientPlatform
  | "web" => .ok .web
  | "mobile" => .ok .mobile
  | "desktop" => .ok .desktop
  | "cli" => .ok .cli
  | "service" => .ok .service
  | other => .error (.corruptData ("unknown device platform " ++ other))

@[simp] theorem decodePlatform_encode (platform : ClientPlatform) :
    decodePlatform (encodePlatform platform) = .ok platform := by
  cases platform <;> rfl

section

variable {δ : Type}

def DeviceRow.columns (row : DeviceRow δ) : RawDevice δ where
  deviceId := row.record.deviceId.text
  name := row.record.name
  platform := encodePlatform row.record.platform
  scopes := row.record.scopes
  tokenHash := row.tokenHash
  createdAtMs := integer row.record.createdAtMs
  lastSeenAtMs := row.record.lastSeenAtMs.map integer
  revokedAtMs := row.record.revokedAtMs.map integer

def decodeDevice (raw : RawDevice δ) : Except StoreError DeviceRecord := do
  let deviceId ← identifier "device ID" raw.deviceId
  let platform ← decodePlatform raw.platform
  let createdAtMs ← wireU64 raw.createdAtMs "device created_at_ms"
  let lastSeenAtMs ← wireU64? raw.lastSeenAtMs "device last_seen_at_ms"
  let revokedAtMs ← wireU64? raw.revokedAtMs "device revoked_at_ms"
  .ok ⟨⟨deviceId⟩, raw.name, platform, raw.scopes, createdAtMs, lastSeenAtMs, revokedAtMs⟩

theorem decodeDevice_columns {row : DeviceRow δ} (h : row.record.deviceId.text ≠ "") :
    decodeDevice row.columns = .ok row.record := by
  unfold decodeDevice DeviceRow.columns
  rw [identifier_ok h, decodePlatform_encode, wireU64_integer, wireU64?_integer, wireU64?_integer]
  rfl

/-! ## Pairings and operations -/

structure RawPairing (δ : Type) where
  pairingId : String
  requestedName : String
  /-- The six scope columns. -/
  scopes : DeviceScopes
  secretHash : δ
  createdAtMs : Int
  expiresAtMs : Int
  consumedAtMs : Option Int

def PairingRow.columns (row : PairingRow δ) : RawPairing δ where
  pairingId := row.record.pairingId.text
  requestedName := row.record.requestedName
  scopes := row.record.scopes
  secretHash := row.secretHash
  createdAtMs := integer row.record.createdAtMs
  expiresAtMs := integer row.record.expiresAtMs
  consumedAtMs := row.record.consumedAtMs.map integer

/-- What `load_pairing_raw` makes of a row. -/
def decodePairing (raw : RawPairing δ) : Except StoreError (PairingRow δ) := do
  let pairingId ← identifier "pairing ID" raw.pairingId
  let createdAtMs ← wireU64 raw.createdAtMs "pairing created_at_ms"
  let expiresAtMs ← wireU64 raw.expiresAtMs "pairing expires_at_ms"
  let consumedAtMs ← wireU64? raw.consumedAtMs "pairing consumed_at_ms"
  .ok ⟨⟨⟨pairingId⟩, raw.requestedName, raw.scopes, createdAtMs, expiresAtMs, consumedAtMs⟩,
    raw.secretHash⟩

theorem decodePairing_columns {row : PairingRow δ} (h : row.record.pairingId.text ≠ "") :
    decodePairing row.columns = .ok row := by
  unfold decodePairing PairingRow.columns
  rw [identifier_ok h, wireU64_integer, wireU64_integer, wireU64?_integer]
  rfl

structure RawOperation (δ : Type) where
  requestHash : δ
  status : String
  outcomeCbor : Option ByteArray
  createdAtMs : Int
  completedAtMs : Option Int

def OperationStatus.text : OperationStatus → String
  | pending => "pending"
  | completed => "completed"
  | indeterminate => "indeterminate"

def OperationRow.columns (row : OperationRow δ) : RawOperation δ where
  requestHash := row.requestHash
  status := row.status.text
  outcomeCbor := row.outcomeCbor
  createdAtMs := integer row.createdAtMs
  completedAtMs := row.completedAtMs.map integer

/-- The primary key of an operation. -/
def OperationKey.columns (key : OperationKey) : String × String :=
  (key.deviceId.text, key.operationId.text)

end

end OmpRemote.Ompd
