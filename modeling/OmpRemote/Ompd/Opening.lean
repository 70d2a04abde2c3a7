import OmpRemote.Lib.Fallible
import OmpRemote.Ompd.DatabaseSteps

/-!
# Opening the database

A file over its whole life: it is opened, used and closed, any number of times, and any
statement of an opening may fail or be the last one before a crash.

- `Database.openAt`: the schema, the recovery and the server id.
- `StoreFile.step`: a file and what is done with it.
- `file_is_store`: what has been done with a file is a history of one store.
-/

namespace OmpRemote.Ompd

open Lib

/-- Where an opening fails. -/
inductive OpenFault where
  /-- The version is read. -/
  | version
  /-- A statement of the schema. -/
  | schema (statement : Fin 8)
  /-- A statement of the recovery. -/
  | recovery (statement : Nat)
  /-- The server id is looked up. -/
  | select
  | insert
  deriving DecidableEq, Repr

inductive OpenError where
  | store (error : StoreError)
  | unsupportedDatabaseVersion (version : Int)
  deriving DecidableEq, Repr

namespace Database

variable {δ : Type}

/-- `SCHEMA`, which is six tables, an index and the version, one after the other: what is
there already is left as it is. -/
def executeSchema (database : Database δ) (fault : Option OpenFault) :
    Except OpenError Unit × Database δ :=
  match fault with
  | some (.schema statement) =>
    (.error (.store .database), { database with created := max database.created statement })
  | _ => (.ok (), { database with created := 8, userVersion := 1 })

def migrate (database : Database δ) (fault : Option OpenFault) :
    Except OpenError Unit × Database δ :=
  if fault = some .version then (.error (.store .database), database)
  else if database.userVersion > 1 then
    (.error (.unsupportedDatabaseVersion database.userVersion), database)
  else if database.userVersion = 0 then database.executeSchema fault
  else (.ok (), database)

/-- The faults of the recovery; it also fails where its tables are missing. -/
def recoveryFault (database : Database δ) : Option OpenFault → Option Nat
  | some (.recovery statement) => some statement
  | _ => if database.created < 6 then some 0 else none

/-- `drawn` is a UUID drawn at random. -/
def loadOrCreateServerId (database : Database δ) (drawn : ServerId) (fault : Option OpenFault) :
    Except OpenError ServerId × Database δ :=
  if fault = some .select then (.error (.store .database), database)
  else match database.metadata.lookup "server_id" with
    | some value =>
      match identifier "server ID" value with
      | .error error => (.error (.store error), database)
      | .ok value => (.ok ⟨value⟩, database)
    | none =>
      if fault = some .insert then (.error (.store .database), database)
      else match database.metadata.insert "server_id" drawn.text with
        | none => (.error (.store .database), database)
        | some metadata => (.ok drawn, { database with metadata })

def openAt (database : Database δ) (nowMs : UInt64) (drawn : ServerId) (fault : Option OpenFault) :
    Except OpenError ServerId × Database δ :=
  match database.migrate fault with
  | (.error error, database) => (.error error, database)
  | (.ok (), database) =>
    match database.recoverInterrupted nowMs (database.recoveryFault fault) with
    | (.error error, database) => (.error (.store error), database)
    | (.ok (), database) => database.loadOrCreateServerId drawn fault

/-- The recovery of an opening, if it comes to that, as an operation of the store. -/
def recovery (database : Database δ) (nowMs : UInt64) (fault : Option OpenFault) :
    List (StoreOperation × StoreReply) :=
  match database.migrate fault with
  | (.error _, _) => []
  | (.ok (), database) =>
    [(.reopen nowMs (database.recoveryFault fault),
      .done (database.recoverInterrupted nowMs (database.recoveryFault fault)).1)]

end Database

/-- A file, and the store that is open on it. -/
structure StoreFile (δ : Type) where
  database : Database δ
  /-- The server id of the open store. -/
  server : Option ServerId
  /-- The server ids of all stores so far. -/
  opened : List ServerId
  /-- What has been done with the tables, and replied. -/
  log : List (StoreOperation × StoreReply)

inductive FileInput where
  | openAt (nowMs : UInt64) (drawn : ServerId) (fault : Option OpenFault)
  | operate (operation : StoreOperation)
  /-- The process exits, or crashes. -/
  | close

/-- The ids that are drawn are UUIDs, and so not empty. -/
def FileInput.Named : FileInput → Prop
  | .openAt _ drawn _ => drawn.text ≠ ""
  | .operate operation => operation.Named
  | .close => True

namespace StoreFile

variable {δ : Type} [DecidableEq δ]

omit [DecidableEq δ] in
def new : StoreFile δ := ⟨.new, none, [], []⟩

def step (backend : Backend δ) (file : StoreFile δ) : FileInput → StoreFile δ
  | .openAt nowMs drawn fault =>
    match file.server with
    | some _ => file
    | none =>
      let result := file.database.openAt nowMs drawn fault
      { database := result.2
        server := result.1.toOption
        opened := file.opened ++ result.1.toOption.toList
        log := file.log ++ file.database.recovery nowMs fault }
  | .operate operation =>
    match file.server with
    | none => file
    | some serverId =>
      let result := file.database.execute backend serverId operation
      { file with database := result.2, log := file.log ++ [(operation, result.1)] }
  | .close => { file with server := none }

end StoreFile

/-! ## What an opening does -/

namespace Database

variable {δ : Type} {database database' : Database δ}

/-- The file is as it was made, or has the whole schema. -/
def Versioned (database : Database δ) : Prop :=
  database.userVersion = 0 ∨ database.userVersion = 1 ∧ database.created = 8

/-- The rows are the same, but for the metadata. -/
structure SameRows (database database' : Database δ) : Prop where
  agents : database'.agents = database.agents
  sessions : database'.sessions = database.sessions
  devices : database'.devices = database.devices
  pairingSecrets : database'.pairingSecrets = database.pairingSecrets
  operations : database'.operations = database.operations

theorem SameRows.refl (database : Database δ) : SameRows database database :=
  ⟨rfl, rfl, rfl, rfl, rfl⟩

theorem SameRows.holds (h : SameRows database database') {store : Store δ}
    (hholds : database.Holds store) : database'.Holds store where
  agents := h.agents.trans hholds.agents
  sessions := h.sessions.trans hholds.sessions
  devices := h.devices.trans hholds.devices
  pairingSecrets := h.pairingSecrets.trans hholds.pairingSecrets
  operations := h.operations.trans hholds.operations
  agentsKeyed := hholds.agentsKeyed
  sessionsKeyed := hholds.sessionsKeyed
  devicesNamed := hholds.devicesNamed
  pairingsNamed := hholds.pairingsNamed

/-- **The schema is complete before the version says so**, and no row is touched. -/
theorem migrate_cases (h : database.Versioned) (fault : Option OpenFault) :
    SameRows database (database.migrate fault).2 ∧
      (database.migrate fault).2.metadata = database.metadata ∧
      (database.migrate fault).2.Versioned ∧
      ((database.migrate fault).1 = .ok () → (database.migrate fault).2.userVersion = 1) := by
  unfold migrate
  split
  · exact ⟨.refl database, rfl, h, nofun⟩
  split
  · exact ⟨.refl database, rfl, h, nofun⟩
  split
  · rename_i hfresh
    unfold executeSchema
    split
    · exact ⟨⟨rfl, rfl, rfl, rfl, rfl⟩, rfl, .inl hfresh, nofun⟩
    · exact ⟨⟨rfl, rfl, rfl, rfl, rfl⟩, rfl, .inr ⟨rfl, rfl⟩, fun _ => rfl⟩
  · rename_i hmade
    exact ⟨.refl database, rfl, h, fun _ => (h.resolve_left hmade).1⟩

/-- What only an opening writes. -/
structure Keeps (database database' : Database δ) : Prop where
  metadata : database'.metadata = database.metadata
  userVersion : database'.userVersion = database.userVersion
  created : database'.created = database.created

theorem Keeps.refl (database : Database δ) : Keeps database database := ⟨rfl, rfl, rfl⟩

theorem Keeps.versioned (h : Keeps database database') (hversioned : database.Versioned) :
    database'.Versioned := by
  unfold Versioned
  rw [h.userVersion, h.created]
  exact hversioned

theorem recoverInterrupted_keeps (database : Database δ) (nowMs : UInt64) (fault : Option Nat) :
    Keeps database (database.recoverInterrupted nowMs fault).2 := by
  unfold recoverInterrupted
  repeat' split
  all_goals exact ⟨rfl, rfl, rfl⟩

theorem statement_keeps (database : Database δ) (fault : Option Nat)
    {effect : Except StoreError (Database δ)}
    (heffect : ∀ database', effect = .ok database' → Keeps database database') :
    Keeps database (database.statement fault effect).2 := by
  unfold statement
  split
  · exact .refl database
  · split
    · exact .refl database
    · exact heffect _ rfl

section Operations

variable [DecidableEq δ] (backend : Backend δ)

theorem redeemPairing_keeps {pairingId : PairingId} {secret : PairingSecret} {nowMs : UInt64}
    {raw : PairingRecord}
    (h : database.redeemPairing backend pairingId secret nowMs = .ok (raw, database')) :
    Keeps database database' := by
  unfold redeemPairing at h
  repeat' split at h
  all_goals cases h
  exact ⟨rfl, rfl, rfl⟩

/-- No operation of an open store writes what an opening does. -/
theorem execute_keeps (database : Database δ) (serverId : ServerId) (operation : StoreOperation) :
    Keeps database (database.execute backend serverId operation).2 := by
  cases operation with
  | upsertAgent record fault =>
    refine statement_keeps database fault fun _ h => ?_
    obtain ⟨_, _, h⟩ := bind_eq_ok.mp h
    obtain ⟨_, _, h⟩ := bind_eq_ok.mp h
    cases h
    exact ⟨rfl, rfl, rfl⟩
  | upsertSession record fault =>
    refine statement_keeps database fault fun _ h => ?_
    obtain ⟨_, _, h⟩ := bind_eq_ok.mp h
    obtain ⟨_, _, h⟩ := bind_eq_ok.mp h
    obtain ⟨_, _, h⟩ := bind_eq_ok.mp h
    split at h <;> cases h
    exact ⟨rfl, rfl, rfl⟩
  | insertDevice record token fault =>
    refine statement_keeps database fault fun _ h => ?_
    obtain ⟨_, _, h⟩ := bind_eq_ok.mp h
    obtain ⟨_, _, h⟩ := bind_eq_ok.mp h
    obtain ⟨_, _, h⟩ := bind_eq_ok.mp h
    split at h <;> cases h
    exact ⟨rfl, rfl, rfl⟩
  | authenticateDevice deviceId token nowMs fault =>
    unfold execute authenticateDevice
    rw [Prod.map_snd, id]
    dsimp only
    repeat' split
    all_goals exact ⟨rfl, rfl, rfl⟩
  | revokeDevice deviceId nowMs fault =>
    unfold execute revokeDevice
    rw [Prod.map_snd, id]
    dsimp only
    repeat' split
    all_goals exact ⟨rfl, rfl, rfl⟩
  | createPairing requestedName scopes nowMs ttlMs pairingId secret fault =>
    unfold execute createPairing
    rw [Prod.map_snd, id]
    split
    · exact .refl database
    refine statement_keeps database fault fun _ h => ?_
    obtain ⟨_, _, h⟩ := bind_eq_ok.mp h
    obtain ⟨_, _, h⟩ := bind_eq_ok.mp h
    split at h <;> cases h
    exact ⟨rfl, rfl, rfl⟩
  | consumePairing pairingId secret nowMs fault =>
    unfold execute consumePairing
    rw [Prod.map_snd, id]
    split
    · exact .refl database
    cases hredeem : database.redeemPairing backend pairingId secret nowMs with
    | error error => exact .refl database
    | ok redeemed => exact redeemPairing_keeps backend hredeem
  | exchangePairing pairingId secret descriptor nowMs token deviceId fault =>
    unfold execute exchangePairing
    rw [Prod.map_snd, id]
    split
    · exact .refl database
    cases hredeem : database.redeemPairing backend pairingId secret nowMs with
    | error error => exact .refl database
    | ok redeemed =>
      have hkeeps := redeemPairing_keeps backend hredeem
      dsimp only
      split
      · exact .refl database
      split
      · exact .refl database
      · exact ⟨hkeeps.metadata, hkeeps.userVersion, hkeeps.created⟩
  | claimOperation key request nowMs fault =>
    unfold execute claimOperation
    rw [Prod.map_snd, id]
    dsimp only
    repeat' split
    all_goals exact ⟨rfl, rfl, rfl⟩
  | completeOperation key outcome nowMs fault =>
    unfold execute completeOperation
    rw [Prod.map_snd, id]
    repeat' split
    all_goals exact ⟨rfl, rfl, rfl⟩
  | pruneOperations deviceId olderThanMs maxCount fault =>
    unfold execute pruneOperations
    rw [Prod.map_snd, id]
    dsimp only
    repeat' split
    all_goals exact ⟨rfl, rfl, rfl⟩
  | reopen nowMs fault => exact recoverInterrupted_keeps database nowMs fault

end Operations

/-- What the lookup of the server id does: nothing, or it finds or keeps an id. -/
theorem loadOrCreateServerId_cases (database : Database δ) (drawn : ServerId)
    (fault : Option OpenFault) :
    (∃ error, database.loadOrCreateServerId drawn fault = (.error error, database)) ∨
      (∃ value, database.metadata.lookup "server_id" = some value ∧
        database.loadOrCreateServerId drawn fault = (.ok ⟨value⟩, database)) ∨
      ∃ metadata, database.metadata.lookup "server_id" = none ∧
        database.metadata.insert "server_id" drawn.text = some metadata ∧
        database.loadOrCreateServerId drawn fault = (.ok drawn, { database with metadata }) := by
  unfold loadOrCreateServerId
  split
  · exact .inl ⟨_, rfl⟩
  cases hvalue : database.metadata.lookup "server_id" with
  | some value =>
    dsimp only
    by_cases hempty : value = ""
    · rw [show identifier "server ID" value = .error _ from if_pos hempty]
      exact .inl ⟨_, rfl⟩
    · rw [identifier_ok hempty]
      exact .inr (.inl ⟨value, rfl, rfl⟩)
  | none =>
    dsimp only
    split
    · exact .inl ⟨_, rfl⟩
    cases hinsert : database.metadata.insert "server_id" drawn.text with
    | none => exact .inl ⟨_, rfl⟩
    | some metadata => exact .inr (.inr ⟨metadata, rfl, rfl, rfl⟩)

end Database

/-! ## The law -/

namespace StoreFile

variable {δ : Type} [DecidableEq δ] {backend : Backend δ} {file : StoreFile δ}

/-- The log is a history of the store, and the database holds what it comes to. -/
structure Recorded (backend : Backend δ) (serverId : ServerId) (database : Database δ)
    (log : List (StoreOperation × StoreReply)) : Prop where
  replies : (storeHistory backend (.create serverId) (log.map Prod.fst)).map Mealy.Event.output =
    log.map Prod.snd
  holds : database.Holds
    (Mealy.run (Store.execute backend) (.create serverId) (log.map Prod.fst))

omit [DecidableEq δ] in
theorem holds_create (serverId : ServerId) : (Database.new : Database δ).Holds (.create serverId) where
  agents := Table.image_empty.symm
  sessions := Table.image_empty.symm
  devices := Table.image_empty.symm
  pairingSecrets := Table.image_empty.symm
  operations := Table.image_empty.symm
  agentsKeyed _ _ h := by cases h
  sessionsKeyed _ _ h := by cases h
  devicesNamed _ _ h := by cases h
  pairingsNamed _ _ h := by cases h

/-- A store keeps its server id. -/
theorem serverId_run (backend : Backend δ) (serverId : ServerId) (operations : List StoreOperation) :
    (Mealy.run (Store.execute backend) (.create serverId) operations).serverId = serverId :=
  run_invariant (P := fun store : Store δ => store.serverId = serverId)
    (fun store operation h => ((store.execute_frame backend operation).serverId).trans h) rfl
    operations

/-- One operation more. -/
theorem Recorded.execute {serverId : ServerId} {database : Database δ}
    {log : List (StoreOperation × StoreReply)} (h : Recorded backend serverId database log)
    {operation : StoreOperation} (hnamed : operation.Named) :
    Recorded backend serverId (database.execute backend serverId operation).2
      (log ++ [(operation, (database.execute backend serverId operation).1)]) := by
  have hfollows := Database.execute_holds h.holds backend hnamed
  rw [serverId_run] at hfollows
  constructor
  · rw [List.map_append, List.map_append, ← h.replies]
    unfold storeHistory
    rw [Mealy.trace_append, List.map_append]
    exact congrArg (_ ++ [·]) hfollows.1.symm
  · rw [List.map_append]
    unfold Mealy.run
    rw [run_append]
    exact hfollows.2

theorem Recorded.same {serverId : ServerId} {database database' : Database δ}
    {log : List (StoreOperation × StoreReply)} (h : Recorded backend serverId database log)
    (hsame : database.SameRows database') : Recorded backend serverId database' log :=
  ⟨h.replies, hsame.holds h.holds⟩

/-- The file has a server id, its only one. -/
structure Identified (backend : Backend δ) (serverId : ServerId) (file : StoreFile δ) : Prop where
  named : serverId.text ≠ ""
  metadata : file.database.metadata.lookup "server_id" = some serverId.text
  server : ∀ id, file.server = some id → id = serverId ∧ file.database.userVersion = 1
  opened : ∀ id ∈ file.opened, id = serverId
  recorded : Recorded backend serverId file.database file.log

/-- The file has none yet, and has never been open. -/
structure Anonymous (backend : Backend δ) (file : StoreFile δ) : Prop where
  metadata : file.database.metadata.lookup "server_id" = none
  server : file.server = none
  opened : file.opened = []
  recorded : ∀ serverId, Recorded backend serverId file.database file.log

def Sound (backend : Backend δ) (file : StoreFile δ) : Prop :=
  file.database.Versioned ∧
    (Anonymous backend file ∨ ∃ serverId, Identified backend serverId file)

theorem sound_new : Sound backend (new : StoreFile δ) :=
  ⟨.inl rfl, .inl ⟨rfl, rfl, rfl, fun serverId => ⟨rfl, holds_create serverId⟩⟩⟩

/-- **What an opening comes to**: the rows are recovered or left alone, and the id is the one
in the file or, where there is none, the one drawn. -/
theorem openAt_cases (backend : Backend δ) {database : Database δ}
    (log : List (StoreOperation × StoreReply)) (hversioned : database.Versioned) (nowMs : UInt64) (drawn : ServerId)
    (fault : Option OpenFault) :
    ∃ recovered : Database δ,
      (∀ serverId, Recorded backend serverId database log →
        Recorded backend serverId recovered (log ++ database.recovery nowMs fault)) ∧
      recovered.metadata = database.metadata ∧ recovered.Versioned ∧
      ((∃ error, database.openAt nowMs drawn fault = (.error error, recovered)) ∨
        recovered.userVersion = 1 ∧
          ((∃ value, database.metadata.lookup "server_id" = some value ∧
            database.openAt nowMs drawn fault = (.ok ⟨value⟩, recovered)) ∨
          ∃ metadata, database.metadata.lookup "server_id" = none ∧
            database.metadata.insert "server_id" drawn.text = some metadata ∧
            database.openAt nowMs drawn fault = (.ok drawn, { recovered with metadata }))) := by
  obtain ⟨hsame, hmetadata, hmigrated, hmade⟩ := Database.migrate_cases hversioned fault
  unfold Database.openAt Database.recovery
  cases hmigrate : database.migrate fault with
  | mk result migrated =>
  rw [hmigrate] at hsame hmetadata hmigrated hmade
  cases result with
  | error error =>
    refine ⟨migrated, fun serverId h => ?_, hmetadata, hmigrated, .inl ⟨error, rfl⟩⟩
    rw [List.append_nil]
    exact h.same hsame
  | ok =>
    let recoveryFault := migrated.recoveryFault fault
    have hkeeps := migrated.recoverInterrupted_keeps nowMs recoveryFault
    have hmetadata := hkeeps.metadata.trans hmetadata
    refine ⟨(migrated.recoverInterrupted nowMs recoveryFault).2,
      fun serverId h => ?_, hmetadata, hkeeps.versioned hmigrated, ?_⟩
    · have hreopened : (StoreOperation.reopen nowMs recoveryFault).Named := trivial
      exact (h.same hsame).execute hreopened
    dsimp only
    cases hrecover : migrated.recoverInterrupted nowMs recoveryFault with
    | mk result recovered =>
      rw [hrecover] at hkeeps hmetadata
      cases result with
      | error error => exact .inl ⟨_, rfl⟩
      | ok =>
        have hversion := hkeeps.userVersion.trans (hmade rfl)
        have hcases := recovered.loadOrCreateServerId_cases drawn fault
        rw [hmetadata] at hcases
        rcases hcases with herror | hfound | hkept
        · exact .inl herror
        · exact .inr ⟨hversion, .inl hfound⟩
        · exact .inr ⟨hversion, .inr hkept⟩

theorem opening_sound (h : Sound backend file) (hclosed : file.server = none) {nowMs : UInt64}
    {drawn : ServerId} (hnamed : drawn.text ≠ "") (fault : Option OpenFault) :
    Sound backend (file.step backend (.openAt nowMs drawn fault)) := by
  obtain ⟨hversioned, hfile⟩ := h
  obtain ⟨recovered, hrecorded, hmetadata, hrecovered, hopen⟩ :=
    openAt_cases backend file.log hversioned nowMs drawn fault
  have hlookup : recovered.metadata.lookup "server_id" =
      file.database.metadata.lookup "server_id" := by rw [hmetadata]
  unfold step
  rw [hclosed]
  dsimp only
  rcases hopen with ⟨error, hopen⟩ | ⟨hversion, ⟨value, hvalue, hopen⟩ | ⟨metadata, hnone, hinsert, hopen⟩⟩
  · -- it fails, and there is a server id iff there was one
    rw [hopen]
    refine ⟨hrecovered, ?_⟩
    rcases hfile with h | ⟨serverId, h⟩
    · exact .inl ⟨hlookup.trans h.metadata, rfl, (List.append_nil _).trans h.opened,
        fun serverId => hrecorded serverId (h.recorded serverId)⟩
    · refine .inr ⟨serverId, h.named, hlookup.trans h.metadata, nofun, fun id hid => ?_,
        hrecorded serverId h.recorded⟩
      rw [Except.toOption, Option.toList, List.append_nil] at hid
      exact h.opened id hid
  · -- it finds the server id
    rw [hopen]
    refine ⟨hrecovered, ?_⟩
    rcases hfile with h | ⟨serverId, h⟩
    · cases hvalue.symm.trans h.metadata
    · cases hvalue.symm.trans h.metadata
      refine .inr ⟨serverId, h.named, hlookup.trans h.metadata, ?_, fun id hid => ?_,
        hrecorded serverId h.recorded⟩
      · rintro id ⟨⟩
        exact ⟨rfl, hversion⟩
      · rcases List.mem_append.mp hid with hid | hid
        · exact h.opened id hid
        · exact List.mem_singleton.mp hid
  · -- it keeps the server id that it has drawn
    rw [hopen]
    refine ⟨hrecovered, .inr ⟨drawn, hnamed, ?_, ?_, ?_, ?_⟩⟩
    · rw [Table.lookup_insert hinsert, if_pos rfl]
    · rintro id ⟨⟩
      exact ⟨rfl, hversion⟩
    · rcases hfile with h | ⟨serverId, h⟩
      · rw [h.opened]
        intro id hid
        exact List.mem_singleton.mp hid
      · cases hnone.symm.trans h.metadata
    · rcases hfile with h | ⟨serverId, h⟩
      · exact (hrecorded drawn (h.recorded drawn)).same ⟨rfl, rfl, rfl, rfl, rfl⟩
      · cases hnone.symm.trans h.metadata

theorem Sound.step (h : Sound backend file) {input : FileInput} (hnamed : input.Named) :
    Sound backend (file.step backend input) := by
  cases input with
  | openAt nowMs drawn fault =>
    cases hserver : file.server with
    | none => exact opening_sound h hserver hnamed fault
    | some serverId =>
      unfold StoreFile.step
      rw [hserver]
      exact h
  | operate operation =>
    unfold StoreFile.step
    cases hserver : file.server with
    | none => exact h
    | some serverId =>
      have hkeeps := file.database.execute_keeps backend serverId operation
      refine ⟨hkeeps.versioned h.1, ?_⟩
      rcases h.2 with h | ⟨serverId, h⟩
      · cases hserver.symm.trans h.server
      · obtain ⟨rfl, hversion⟩ := h.server _ hserver
        refine .inr ⟨_, h.named, (congrArg (·.lookup "server_id") hkeeps.metadata).trans h.metadata,
          ?_, h.opened, h.recorded.execute hnamed⟩
        rintro id ⟨⟩
        exact ⟨rfl, hkeeps.userVersion.trans hversion⟩
  | close =>
    refine ⟨h.1, ?_⟩
    rcases h.2 with h | ⟨serverId, h⟩
    · exact .inl ⟨h.metadata, rfl, h.opened, h.recorded⟩
    · exact .inr ⟨serverId, h.named, h.metadata, nofun, h.opened, h.recorded⟩

/-- In every run. -/
theorem sound_run (backend : Backend δ) {inputs : List FileInput}
    (hnamed : ∀ input ∈ inputs, input.Named) :
    Sound backend (run (StoreFile.step backend) .new inputs) :=
  run_invariant_along (P := Sound backend) (fun _ _ h hnamed => h.step hnamed) sound_new
    (.of_forall hnamed _)

/-- What has been done with a file is a history of one store, the one that its ids name. -/
theorem recorded_run (backend : Backend δ) {inputs : List FileInput}
    (hnamed : ∀ input ∈ inputs, input.Named) :
    ∃ serverId,
      let file := run (StoreFile.step backend) .new inputs
      Recorded backend serverId file.database file.log ∧ (∀ id ∈ file.opened, id = serverId) ∧
        ∀ id, file.server = some id → id = serverId ∧ file.database.userVersion = 1 := by
  obtain ⟨-, h | ⟨serverId, h⟩⟩ := sound_run backend hnamed
  · refine ⟨⟨""⟩, h.recorded ⟨""⟩, ?_, ?_⟩
    · rw [h.opened]
      exact nofun
    · rw [h.server]
      exact nofun
  · exact ⟨serverId, h.recorded, h.opened, h.server⟩

/-- A file of a newer version is left as it is, and never open. -/
structure Newer (database : Database δ) (file : StoreFile δ) : Prop where
  database : file.database = database
  server : file.server = none
  opened : file.opened = []

theorem Newer.step {database : Database δ} (h : Newer database file)
    (hversion : database.userVersion > 1) (input : FileInput) :
    Newer database (file.step backend input) := by
  cases input with
  | openAt nowMs drawn fault =>
    have hrefused : ∃ error, database.migrate fault = (.error error, database) := by
      unfold Database.migrate
      by_cases hfault : fault = some .version
      · exact ⟨_, if_pos hfault⟩
      · rw [if_neg hfault, if_pos hversion]
        exact ⟨_, rfl⟩
    obtain ⟨error, hrefused⟩ := hrefused
    unfold StoreFile.step Database.openAt
    rw [h.server, h.database]
    dsimp only
    rw [hrefused]
    exact ⟨rfl, rfl, (List.append_nil _).trans h.opened⟩
  | operate operation =>
    unfold StoreFile.step
    rw [h.server]
    exact h
  | close => exact ⟨h.database, rfl, h.opened⟩

end StoreFile

variable {δ : Type} [DecidableEq δ]

/-- A database of which only the hashes are used. -/
def hashesOnly : Backend ByteArray :=
  ⟨id, fun _ => .error "", fun _ => .error "", fun _ => .error ""⟩

/-- A newer one is never touched. -/
theorem newer_untouched (backend : Backend δ) {database : Database δ}
    (hversion : database.userVersion > 1) (inputs : List FileInput) :
    let file := run (StoreFile.step backend) ⟨database, none, [], []⟩ inputs
    file.database = database ∧ file.server = none ∧ file.opened = [] := by
  intro file
  have h : StoreFile.Newer database file :=
    run_invariant (P := StoreFile.Newer database) (fun _ input h => h.step hversion input)
      ⟨rfl, rfl, rfl⟩ inputs
  exact ⟨h.database, h.server, h.opened⟩

end OmpRemote.Ompd
