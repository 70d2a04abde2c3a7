import OmpRemote.Ompd.Incarnation
import OmpRemote.Ompd.Opening

/-!
# What the controller reads back

A controller starts from the rows of all agents. Over records they are always there; over
columns an agent with an empty id can be written, and not be read.

- `Database.startController`: `DaemonController::new`.
- `controller_starts_iff`: when it succeeds, and with which agents.
-/

namespace OmpRemote.Ompd

open Lib

inductive StartError where
  | persistence (error : StoreError)
  | alreadyExists (agentId : AgentId)
  deriving DecidableEq, Repr

namespace Database

variable {δ : Type}

/-- The agents, each with its session. -/
def recoveredAgents (database : Database δ) : Except StoreError (List AgentSnapshot) := do
  let records ← database.listAgents
  records.mapM fun record => do
    let session ← database.session record.agentId
    .ok (restoredSnapshot record.agentId record session)

/-- `AgentRegistry::restore`. -/
def restore (agents : Table AgentId AgentSnapshot) (snapshot : AgentSnapshot) :
    Except StartError (Table AgentId AgentSnapshot) :=
  match agents.insert snapshot.agentId snapshot with
  | none => .error (.alreadyExists snapshot.agentId)
  | some agents => .ok agents

def startController (database : Database δ) : Except StartError (Table AgentId AgentSnapshot) := do
  let recovered ← database.recoveredAgents.mapError .persistence
  recovered.foldlM restore .empty

/-! ## The registry -/

/-- Agents with different ids can all be restored. -/
theorem restore_all {snapshots : List AgentSnapshot} {agents : Table AgentId AgentSnapshot}
    (hdistinct : (snapshots.map AgentSnapshot.agentId).Nodup)
    (hnew : ∀ snapshot ∈ snapshots, agents.lookup snapshot.agentId = none) :
    ∃ agents', snapshots.foldlM restore agents = .ok agents' ∧
      ∀ agentId snapshot, agents'.lookup agentId = some snapshot ↔
        agents.lookup agentId = some snapshot ∨
          snapshot ∈ snapshots ∧ snapshot.agentId = agentId := by
  induction snapshots generalizing agents with
  | nil => exact ⟨agents, rfl, fun agentId snapshot => by simp⟩
  | cons head rest ih =>
    rw [List.map_cons, List.nodup_cons] at hdistinct
    obtain ⟨hhead, hrest⟩ := hdistinct
    cases hinsert : agents.insert head.agentId head with
    | none => exact absurd (hnew head List.mem_cons_self) (Table.insert_eq_none.mp hinsert)
    | some inserted =>
      have hlookup := fun agentId => Table.lookup_insert hinsert agentId
      have hnew' : ∀ snapshot ∈ rest, inserted.lookup snapshot.agentId = none := by
        intro snapshot hmem
        have hne : snapshot.agentId ≠ head.agentId := fun heq =>
          hhead (heq ▸ List.mem_map_of_mem hmem)
        rw [hlookup, if_neg hne]
        exact hnew snapshot (List.mem_cons_of_mem head hmem)
      obtain ⟨agents', hfold, hagents⟩ := ih hrest hnew'
      refine ⟨agents', ?_, fun agentId snapshot => ?_⟩
      · rw [List.foldlM_cons, restore, hinsert]
        exact hfold
      · rw [hagents, hlookup, List.mem_cons]
        by_cases hid : agentId = head.agentId
        · subst hid
          rw [if_pos rfl, hnew head List.mem_cons_self]
          constructor
          · rintro (⟨⟨⟩⟩ | ⟨hmem, heq⟩)
            · exact .inr ⟨.inl rfl, rfl⟩
            · exact .inr ⟨.inr hmem, heq⟩
          · rintro (⟨⟨⟩⟩ | ⟨rfl | hmem, heq⟩)
            · exact .inl rfl
            · exact .inr ⟨hmem, heq⟩
        · rw [if_neg hid]
          constructor
          · rintro (h | ⟨hmem, heq⟩)
            · exact .inl h
            · exact .inr ⟨.inr hmem, heq⟩
          · rintro (h | ⟨rfl | hmem, heq⟩)
            · exact .inl h
            · exact absurd heq.symm hid
            · exact .inr ⟨hmem, heq⟩

/-! ## The rows -/

variable {database : Database δ} {store : Store δ}

/-- The agents of the store, in the order of their ids. -/
def sortedAgents (store : Store δ) : List AgentRecord :=
  (store.agents.rows.map Prod.snd).mergeSort fun a b => a.agentId.text ≤ b.agentId.text

theorem mem_sortedAgents (h : Holds database store) {record : AgentRecord} :
    record ∈ sortedAgents store ↔ store.agents.lookup record.agentId = some record := by
  rw [sortedAgents, List.mem_mergeSort, List.mem_map, Table.lookup_eq_some]
  constructor
  · rintro ⟨⟨agentId, record⟩, hmem, rfl⟩
    obtain rfl := h.agentsKeyed agentId record (Table.lookup_eq_some.mpr hmem)
    exact hmem
  · intro hmem
    exact ⟨_, hmem, rfl⟩

/-- Each row is one agent's. -/
theorem sortedAgents_nodup (h : Holds database store) :
    ((sortedAgents store).map AgentRecord.agentId).Nodup := by
  have hkeys : (store.agents.rows.map Prod.snd).map AgentRecord.agentId =
      store.agents.rows.map Prod.fst := by
    rw [List.map_map]
    refine List.map_congr_left fun row hrow => ?_
    exact h.agentsKeyed row.1 row.2 (Table.lookup_eq_some.mpr hrow)
  have hperm : ((sortedAgents store).map AgentRecord.agentId).Perm
      ((store.agents.rows.map Prod.snd).map AgentRecord.agentId) :=
    (List.mergeSort_perm _ _).map _
  rw [hperm.nodup_iff, hkeys]
  exact store.agents.unique

/-- The query returns their columns. -/
theorem listAgents_eq (h : Holds database store) :
    database.listAgents = ((sortedAgents store).map AgentRecord.columns).mapM decodeAgent := by
  have hrows : database.agents.rows.map Prod.snd =
      (store.agents.rows.map Prod.snd).map AgentRecord.columns := by
    rw [h.agents, Table.image, List.map_map, List.map_map]
    rfl
  unfold listAgents sortedAgents
  rw [hrows]
  exact congrArg (List.mapM decodeAgent)
    (List.map_mergeSort (f := AgentRecord.columns) fun _ _ _ _ => rfl).symm

theorem session_holds (h : Holds database store) {agentId : AgentId} (hnamed : agentId.text ≠ "") :
    database.session agentId = .ok (store.session agentId) := by
  have hrow : database.sessions.lookup agentId.text =
      (store.sessions.lookup agentId).map SessionResumeRecord.columns := by
    rw [h.sessions, Table.lookup_image]
  unfold Database.session Store.session
  rw [hrow]
  cases hrecord : store.sessions.lookup agentId with
  | none => rfl
  | some record =>
    obtain rfl := h.sessionsKeyed agentId record hrecord
    show (decodeSession record.columns).map some = _
    rw [decodeSession_columns hnamed]
    rfl

/-! ## Starting -/

/-- The snapshots of the store's agents. -/
def snapshots (store : Store δ) : List AgentSnapshot :=
  (sortedAgents store).map fun record =>
    restoredSnapshot record.agentId record (store.session record.agentId)

theorem recoveredAgents_named (h : Holds database store)
    (hnamed : ∀ agentId record, store.agent agentId = some record → record.Named) :
    database.recoveredAgents = .ok (snapshots store) := by
  have hrecord : ∀ record ∈ sortedAgents store, record.Named := fun record hmem =>
    hnamed record.agentId record ((mem_sortedAgents h).mp hmem)
  have hlist : database.listAgents = .ok (sortedAgents store) := by
    rw [listAgents_eq h, List.mapM_map]
    refine (mapM_ok (g := id) fun record hmem => decodeAgent_columns (hrecord record hmem)).trans ?_
    rw [List.map_id]
  unfold recoveredAgents
  rw [hlist]
  refine mapM_ok fun record hmem => ?_
  rw [session_holds h (hrecord record hmem).1]
  rfl

theorem recoveredAgents_unnamed (h : Holds database store) {agentId : AgentId}
    {record : AgentRecord} (hrecord : store.agent agentId = some record)
    (hunnamed : ¬ record.Named) : ∃ error, database.recoveredAgents = .error error := by
  obtain ⟨label, hdecode⟩ := decodeAgent_unnamed hunnamed
  have hmem : record.columns ∈ (sortedAgents store).map AgentRecord.columns := by
    obtain rfl := h.agentsKeyed agentId record hrecord
    exact List.mem_map_of_mem ((mem_sortedAgents h).mpr hrecord)
  obtain ⟨error, hlist⟩ := mapM_error hmem hdecode
  unfold recoveredAgents
  rw [listAgents_eq h, hlist]
  exact ⟨error, rfl⟩

theorem eq_empty_of_le {text : String} (h : text ≤ "") : text = "" := by
  by_contra hne
  refine absurd h (not_le.mpr ?_)
  rw [String.lt_iff_toList_lt]
  cases hchars : text.toList with
  | nil => exact absurd (String.toList_eq_nil_iff.mp hchars) hne
  | cons char rest => exact List.nil_lt_cons char rest

theorem sortedAgents_sorted (store : Store δ) :
    (sortedAgents store).Pairwise fun a b => a.agentId.text ≤ b.agentId.text := by
  have hpairwise : (sortedAgents store).Pairwise fun a b =>
      decide (a.agentId.text ≤ b.agentId.text) = true := by
    refine List.pairwise_mergeSort (fun a b c hab hbc => ?_) (fun a b => ?_) _
    · exact decide_eq_true (le_trans (of_decide_eq_true hab) (of_decide_eq_true hbc))
    · rw [Bool.or_eq_true, decide_eq_true_eq, decide_eq_true_eq]
      exact le_total _ _
  exact hpairwise.imp fun h => of_decide_eq_true h

/-- The agent with the empty id is the first to be read. -/
theorem recoveredAgents_empty (h : Holds database store) {record : AgentRecord}
    (hrecord : store.agent ⟨""⟩ = some record) :
    database.recoveredAgents = .error (.corruptData "agent ID cannot be empty") := by
  have hid := h.agentsKeyed _ record hrecord
  have hmem : record ∈ sortedAgents store := by
    rw [mem_sortedAgents h, hid]
    exact hrecord
  have hsorted := sortedAgents_sorted store
  unfold recoveredAgents
  rw [listAgents_eq h]
  cases hlist : sortedAgents store with
  | nil => exact absurd (hlist ▸ hmem) List.not_mem_nil
  | cons first rest =>
    rw [hlist] at hmem hsorted
    have hempty : first.agentId.text = "" := by
      rcases List.mem_cons.mp hmem with rfl | hrest
      · rw [hid]
      · have hle := (List.pairwise_cons.mp hsorted).1 record hrest
        rw [hid] at hle
        exact eq_empty_of_le hle
    have hdecode :
        decodeAgent first.columns = .error (.corruptData "agent ID cannot be empty") := by
      unfold decodeAgent AgentRecord.columns
      rw [hempty]
      rfl
    rw [List.map_cons, List.mapM_cons, hdecode]
    rfl

theorem startController_ok (h : Holds database store)
    (hnamed : ∀ agentId record, store.agent agentId = some record → record.Named) :
    ∃ agents, database.startController = .ok agents ∧ ∀ agentId, agents.lookup agentId =
      (store.agent agentId).map fun record =>
        restoredSnapshot agentId record (store.session agentId) := by
  have hids : (snapshots store).map AgentSnapshot.agentId =
      (sortedAgents store).map AgentRecord.agentId := by
    rw [snapshots, List.map_map]
    rfl
  have hdistinct : ((snapshots store).map AgentSnapshot.agentId).Nodup := by
    rw [hids]
    exact sortedAgents_nodup h
  obtain ⟨agents, hfold, hagents⟩ := restore_all hdistinct fun _ _ => Table.lookup_empty _
  refine ⟨agents, ?_, fun agentId => ?_⟩
  · unfold startController
    rw [recoveredAgents_named h hnamed]
    exact hfold
  · ext snapshot
    rw [hagents, Option.map_eq_some_iff]
    constructor
    · rintro (⟨⟨⟩⟩ | ⟨hmem, rfl⟩)
      obtain ⟨record, hrecord, rfl⟩ := List.mem_map.mp hmem
      exact ⟨record, (mem_sortedAgents h).mp hrecord, rfl⟩
    · rintro ⟨record, hrecord, rfl⟩
      obtain rfl := h.agentsKeyed agentId record hrecord
      exact .inr ⟨List.mem_map_of_mem ((mem_sortedAgents h).mpr hrecord), rfl⟩

end Database

/-! ## Rows stay -/

namespace Store

variable {δ : Type} [DecidableEq δ] {store : Store δ}

/-- No operation removes an agent. -/
theorem agent_stays (backend : Backend δ) (operation : StoreOperation) {agentId : AgentId}
    (h : (store.agent agentId).isSome) :
    ((store.execute backend operation).2.agent agentId).isSome := by
  have hframe := store.execute_frame backend operation
  cases operation with
  | upsertAgent record fault =>
    refine statement_preserves (P := fun store => (store.agent agentId).isSome) h fun store' hs => ?_
    obtain ⟨_, -, hs⟩ := bind_eq_ok.mp hs
    obtain ⟨_, -, hs⟩ := bind_eq_ok.mp hs
    cases hs
    rw [agent, Table.lookup_upsert]
    split
    · rfl
    · exact h
  | reopen nowMs fault =>
    have hrows : ∀ nowMs, (((store.agents.mapRows fun _ => interruptAgent nowMs).lookup
        agentId)).isSome := fun nowMs => by
      rw [Table.lookup_mapRows, Option.isSome_map]
      exact h
    rw [execute, Prod.map_snd, id, recoverInterrupted]
    split
    · exact h
    split
    · exact h
    dsimp only
    split
    · exact hrows _
    · exact hrows _
  | _ =>
    rw [agent, hframe.agents (by simp [StoreOperation.tables])]
    exact h

theorem agent_stays_run (backend : Backend δ) (operations : List StoreOperation)
    {agentId : AgentId} (h : (store.agent agentId).isSome) :
    ((Mealy.run (Store.execute backend) store operations).agent agentId).isSome :=
  run_invariant (P := fun store : Store δ => (store.agent agentId).isSome)
    (fun _ operation h => agent_stays backend operation h) h operations

omit [DecidableEq δ] in
/-- An agent whose row has been written is there. -/
theorem upsertAgent_agent {record : AgentRecord} {fault : Option Nat}
    (h : (store.upsertAgent record fault).1 = .ok ()) :
    ((store.upsertAgent record fault).2.agent record.agentId).isSome := by
  unfold upsertAgent at h ⊢
  rcases statement_cases store fault _ with ⟨error, hs⟩ | ⟨store', hs, hst⟩
  · rw [hs] at h
    cases h
  · obtain ⟨_, -, hs⟩ := bind_eq_ok.mp hs
    obtain ⟨_, -, hs⟩ := bind_eq_ok.mp hs
    cases hs
    rw [hst, agent, Table.lookup_upsert, if_pos rfl]
    rfl

/-- It is from then on. -/
theorem agent_written (backend : Backend δ) {log : List (StoreOperation × StoreReply)}
    (hreplies : (storeHistory backend store (log.map Prod.fst)).map Mealy.Event.output =
      log.map Prod.snd) {record : AgentRecord} {fault : Option Nat}
    (hwritten : (.upsertAgent record fault, .done (.ok ())) ∈ log) :
    ((Mealy.run (Store.execute backend) store (log.map Prod.fst)).agent record.agentId).isSome := by
  induction log generalizing store with
  | nil => cases hwritten
  | cons entry rest ih =>
    obtain ⟨hreply, hrest⟩ := List.cons.inj hreplies
    rcases List.mem_cons.mp hwritten with rfl | hmem
    · have hok : (store.upsertAgent record fault).1 = .ok () := StoreReply.done.inj hreply
      exact agent_stays_run backend (rest.map Prod.fst) (upsertAgent_agent hok)
    · exact ih hrest hmem

end Store

variable {δ : Type} [DecidableEq δ]

/-- **The controller starts iff every agent's row can be read**, whatever has been done with
the file, and then it has just those agents. Once an agent with the empty id has been written
it never starts again. -/
theorem controller_starts_iff (backend : Backend δ) {inputs : List FileInput}
    (hnamed : ∀ input ∈ inputs, input.Named) :
    let file := run (StoreFile.step backend) .new inputs
    ∃ serverId,
      let store := Mealy.run (Store.execute backend) (.create serverId) (file.log.map Prod.fst)
      ((∃ agents, file.database.startController = .ok agents) ↔
        ∀ agentId record, store.agent agentId = some record → record.Named) ∧
      (∀ agents, file.database.startController = .ok agents → ∀ agentId,
        agents.lookup agentId = (store.agent agentId).map fun record =>
          restoredSnapshot agentId record (store.session agentId)) ∧
      ∀ record fault, (.upsertAgent record fault, .done (.ok ())) ∈ file.log →
        record.agentId = ⟨""⟩ → file.database.startController =
          .error (.persistence (.corruptData "agent ID cannot be empty")) := by
  intro file
  obtain ⟨serverId, h, -⟩ := StoreFile.recorded_run backend hnamed
  refine ⟨serverId, ?_⟩
  intro store
  have hholds : file.database.Holds store := h.holds
  have hiff : (∃ agents, file.database.startController = .ok agents) ↔
      ∀ agentId record, store.agent agentId = some record → record.Named := by
    constructor
    · rintro ⟨agents, hstart⟩ agentId record hrecord
      by_contra hunnamed
      obtain ⟨error, hread⟩ := Database.recoveredAgents_unnamed hholds hrecord hunnamed
      unfold Database.startController at hstart
      rw [hread] at hstart
      cases hstart
    · intro hall
      obtain ⟨agents, hstart, -⟩ := Database.startController_ok hholds hall
      exact ⟨agents, hstart⟩
  refine ⟨hiff, ?_, ?_⟩
  · intro agents hstart
    obtain ⟨agents', hstart', hagents⟩ :=
      Database.startController_ok hholds (hiff.mp ⟨agents, hstart⟩)
    cases hstart.symm.trans hstart'
    exact hagents
  · intro record fault hwritten hempty
    have hsome := Store.agent_written backend h.replies hwritten
    rw [hempty] at hsome
    obtain ⟨found, hfound⟩ := Option.isSome_iff_exists.mp hsome
    unfold Database.startController
    rw [Database.recoveredAgents_empty hholds hfound]
    rfl

/-- An agent with an empty id is launched, and the daemon restarted. -/
def bricked : List FileInput :=
  [.openAt 0 ⟨"server"⟩ none,
    .operate (.upsertAgent ⟨⟨"agent"⟩, .starting, some 7, none, 1, 1⟩ none),
    .operate (.upsertAgent ⟨⟨""⟩, .starting, some 8, none, 2, 2⟩ none), .close,
    .openAt 3 ⟨"other"⟩ none]

theorem controller_starts_iff_bricked :
    (run (StoreFile.step hashesOnly) .new bricked).server = some ⟨"server"⟩ ∧
      (run (StoreFile.step hashesOnly) .new bricked).database.startController =
        .error (.persistence (.corruptData "agent ID cannot be empty")) := by
  have hserver : (run (StoreFile.step hashesOnly) .new bricked).server = some ⟨"server"⟩ := by
    decide +kernel
  have hwritten : (run (StoreFile.step hashesOnly) .new bricked).log[2]? =
      some (.upsertAgent ⟨⟨""⟩, .starting, some 8, none, 2, 2⟩ none, .done (.ok ())) := by rfl
  have hnamed : ∀ input ∈ bricked, input.Named := by
    simp [bricked, FileInput.Named, StoreOperation.Named]
  obtain ⟨serverId, -, -, hnever⟩ := controller_starts_iff hashesOnly hnamed
  exact ⟨hserver, hnever _ _ (List.mem_of_getElem? hwritten) rfl⟩

end OmpRemote.Ompd
