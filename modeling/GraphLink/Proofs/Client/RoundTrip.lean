import GraphLink.Proofs.Client.Calls
import GraphLink.Proofs.Config.Layering

/-! # Verifying one server

    A server is verified by one query over a session that fetches everything at once.  The caller's
    own number of records to fetch is overwritten before anything looks at it, so it makes no
    difference, not even if it is no number (`SessionConfig.consumeOver_insert_fetchSize`).

    What is called is then the lease of that session, and what is answered is read off the two
    things that can go wrong on the way and the number of records that come back
    (`Backend.singleServer`).  `Driver.verify_roundTrip` puts the parts together. -/

namespace GraphLink

-- ── The number of records to fetch ─────────────────────────────────

/-- An entry for the number of records to fetch changes nothing else. -/
theorem WorkspaceConfig.overlaid_insert_fetchSize (base : WorkspaceConfig) (o : Options)
    (n : Int64) :
    base.overlaid (o.insert fetchSizeKey (.int n)) = { base.overlaid o with fetchSize := n } := by
  simp [overlaid, Options.valueOr_insert, fetchSizeKey, Value.asInt]

namespace SessionConfig

/-- The configuration of a session that fetches all records at once. -/
def fetchingAll (c : SessionConfig) : SessionConfig :=
  { c with workspace := { c.workspace with fetchSize := -1 } }

/-- **THE CALLER'S NUMBER OF RECORDS IS NOT LOOKED AT**: the rest of the options decides whether
    there is a session, and what it is but for that number. -/
theorem consumeOver_insert_fetchSize (W : WorkspaceConfig) (o : Options) :
    consumeOver W (o.insert WorkspaceConfig.fetchSizeKey (.int (-1)))
      = (consumeOver W (o.erase WorkspaceConfig.fetchSizeKey)).map fetchingAll := by
  have hoverwritten : o.insert WorkspaceConfig.fetchSizeKey (.int (-1))
      = SortedMap.insert (o.erase WorkspaceConfig.fetchSizeKey) WorkspaceConfig.fetchSizeKey
          (.int (-1)) :=
    SortedMap.insert_congr (fun q hq => (SortedMap.get?_erase_of_ne o hq).symm) _
  have habsent : (o.erase WorkspaceConfig.fetchSizeKey).get? WorkspaceConfig.fetchSizeKey
      = none := by
    rw [SortedMap.get?_erase, if_pos rfl]
  have hoverlaid (base : SessionConfig) (o : Options) :
      base.overlaid (o.insert WorkspaceConfig.fetchSizeKey (.int (-1)))
        = (base.overlaid o).fetchingAll := by
    rw [overlaid, WorkspaceConfig.overlaid_insert_fetchSize, Options.valueOr_insert,
      Options.valueOr_insert]
    rfl
  rw [hoverwritten]
  refine Layer.consumeOver_insert nodup_keys_layer (by decide) habsent (by decide) ?_
  rw [valueOver_layer, valueOver_layer, hoverlaid]

end SessionConfig

-- ── One record ─────────────────────────────────────────────────────

namespace QueryResult

variable {r : QueryResult}

/-- A result with one record is single. -/
theorem single_of_length_eq_one (h : r.records.length = 1) : ∃ record, r.single = .ok record := by
  obtain ⟨record, hrecords⟩ := List.length_eq_one_iff.mp h
  refine ⟨record, ?_⟩
  rw [single, hrecords]

/-- A result with no record, or more than one, is not single. -/
theorem single_of_length_ne_one (h : r.records.length ≠ 1) :
    ∃ detail, r.single = .error (.notSingle detail) := by
  rw [single]
  cases hrecords : r.records with
  | nil => exact ⟨_, rfl⟩
  | cons first rest =>
      cases rest with
      | nil =>
          rw [hrecords] at h
          exact absurd rfl h
      | cons second rest => exact ⟨_, rfl⟩

end QueryResult

-- ── The way to the server and back ─────────────────────────────────

namespace Backend

variable {α : Type} {b : Backend} {pool : Nat} {mode : AccessMode} {config : SessionConfig}

/-- If no connection is granted, the answer is the error of asking for it. -/
theorem answer_withConnection_of_refused {e : Error} (h : b.acquireError = some e)
    (use : Report α) : (b.withConnection pool mode config use).answer = .error e := by
  rw [withConnection, Report.bind_of_error (answer_acquire_of_refused h)]

/-- If a connection is granted, the answer is that of its use. -/
theorem answer_withConnection_of_granted (h : b.acquireError = none) (use : Report α) :
    (b.withConnection pool mode config use).answer = use.answer := by
  rw [withConnection, Report.bind_of_ok (answer_acquire_of_granted h)]
  rfl

/-- The server of a query for a single record, or the first thing that goes wrong on the way. -/
def singleServer (b : Backend) (config : SessionConfig) : Except Error ServerInfo :=
  (outcome b.acquireError ()).bind (fun _ =>
    (outcome b.queryError (b.result config)).bind (fun result =>
      result.single.map (fun _ => result.server)))

/-- The first thing that can go wrong is that no connection is granted. -/
theorem singleServer_of_refused {e : Error} (h : b.acquireError = some e)
    (config : SessionConfig) : b.singleServer config = .error e := by
  rw [singleServer, h]
  rfl

theorem singleServer_of_granted (h : b.acquireError = none) (config : SessionConfig) :
    b.singleServer config
      = (outcome b.queryError (b.result config)).bind (fun result =>
          result.single.map (fun _ => result.server)) := by
  rw [singleServer, h]
  rfl

/-- The second is that the query fails. -/
theorem singleServer_of_failed {e : Error} (hgranted : b.acquireError = none)
    (h : b.queryError = some e) (config : SessionConfig) : b.singleServer config = .error e := by
  rw [singleServer_of_granted hgranted, h]
  rfl

theorem singleServer_of_answered (hgranted : b.acquireError = none) (h : b.queryError = none)
    (config : SessionConfig) :
    b.singleServer config
      = (b.result config).single.map (fun _ => (b.result config).server) := by
  rw [singleServer_of_granted hgranted, h]
  rfl

/-- The third is that the query does not come back with one record. -/
theorem singleServer_of_length_ne_one (hgranted : b.acquireError = none)
    (hanswered : b.queryError = none) (h : (b.result config).records.length ≠ 1) :
    ∃ detail, b.singleServer config = .error (.notSingle detail) := by
  obtain ⟨detail, hsingle⟩ := QueryResult.single_of_length_ne_one h
  refine ⟨detail, ?_⟩
  rw [singleServer_of_answered hgranted hanswered, hsingle]
  rfl

/-- **A SERVER IS FOUND EXACTLY IF** nothing goes wrong and one record comes back. -/
theorem singleServer_eq_ok_iff {server : ServerInfo} :
    b.singleServer config = .ok server
      ↔ b.acquireError = none ∧ b.queryError = none ∧ (b.result config).records.length = 1
        ∧ server = (b.result config).server := by
  constructor
  · intro h
    -- Whatever goes wrong answers an error, so an answer leaves only the last case.
    cases hacquire : b.acquireError with
    | some e =>
        rw [singleServer_of_refused hacquire] at h
        cases h
    | none =>
        cases hquery : b.queryError with
        | some e =>
            rw [singleServer_of_failed hacquire hquery] at h
            cases h
        | none =>
            by_cases hlength : (b.result config).records.length = 1
            · obtain ⟨record, hsingle⟩ := QueryResult.single_of_length_eq_one hlength
              rw [singleServer_of_answered hacquire hquery, hsingle] at h
              cases h
              exact ⟨rfl, rfl, hlength, rfl⟩
            · obtain ⟨detail, hserver⟩ := singleServer_of_length_ne_one hacquire hquery hlength
              rw [hserver] at h
              cases h
  · rintro ⟨hacquire, hquery, hlength, rfl⟩
    obtain ⟨record, hsingle⟩ := QueryResult.single_of_length_eq_one hlength
    rw [singleServer_of_answered hacquire hquery, hsingle]
    rfl

end Backend

namespace Session

variable {s : Session} {b : Backend}

/-- An open session runs its query on a connection of its pool. -/
theorem run_of_open (h : s.isOpen = true) (b : Backend) (query : String) :
    s.run b query = b.withConnection s.pool s.config.defaultAccessMode s.config
      (b.run s.pool query s.config) := by
  rw [run, ensureOpen, if_pos h]
  rfl

/-- What an open session calls: a connection, and if it is granted the query and the release. -/
theorem calls_run_of_open (h : s.isOpen = true) (b : Backend) (query : String) :
    (s.run b query).calls
      = Backend.acquireCall s.pool s.config.defaultAccessMode s.config
        :: if b.acquireError = none then [.run s.pool query s.config, .release s.pool] else [] := by
  rw [run_of_open h, Backend.calls_withConnection]
  by_cases hgranted : b.acquireError = none
  · rw [if_pos hgranted, if_pos hgranted]
    rfl
  · rw [if_neg hgranted, if_neg hgranted]

/-- The first error on the way, or the result. -/
theorem answer_run_of_open (h : s.isOpen = true) (b : Backend) (query : String) :
    (s.run b query).answer
      = (Backend.outcome b.acquireError ()).bind
          (fun _ => Backend.outcome b.queryError (b.result s.config)) := by
  rw [run_of_open h]
  cases hacquire : b.acquireError with
  | some e => exact Backend.answer_withConnection_of_refused hacquire _
  | none => exact Backend.answer_withConnection_of_granted hacquire _

end Session

namespace Driver

variable {d : Driver} {o : Options} {address : Address} {s : Session}

/-- Verifying a server answers what its one query comes to. -/
theorem answer_verifyServer
    (h : d.session (o.insert WorkspaceConfig.fetchSizeKey (.int (-1))) = .ok s) (b : Backend) :
    (d.verifyServer b o).answer = b.singleServer s.config := by
  obtain ⟨-, -, hopen, -⟩ := session_eq_ok h
  rw [verifyServer_of_session h, Report.answer_bind, Session.answer_run_of_open hopen,
    Backend.singleServer]
  cases Backend.outcome b.acquireError () with
  | error e => rfl
  | ok _ =>
      cases Backend.outcome b.queryError (b.result s.config) with
      | error e => rfl
      | ok result =>
          show ((Report.ofExcept result.single).bind _).answer = result.single.map _
          cases result.single <;> rfl

/-- The session of an open driver that fetches everything, by the rest of the options. -/
theorem session_insert_fetchSize (hopen : d.isOpen = true) (o : Options) :
    d.session (o.insert WorkspaceConfig.fetchSizeKey (.int (-1)))
      = ((SessionConfig.consumeOver d.workspace (o.erase WorkspaceConfig.fetchSizeKey)).mapError
          Options.Fault.toError).map (fun c => { pool := d.pool, config := c.fetchingAll }) := by
  rw [session, ensureOpen, if_pos hopen, SessionConfig.consumeOver_insert_fetchSize]
  cases SessionConfig.consumeOver d.workspace (o.erase WorkspaceConfig.fetchSizeKey) <;> rfl

theorem verify_eq (hdirect : d.endpoint = .direct address) (b : Backend) (o : Options) :
    d.verify b o = Connectivity.server <$> d.verifyServer b o := by
  rw [verify, hdirect]

/-- **VERIFYING A SERVER IS ONE ROUND TRIP.**  The caller's number of records to fetch makes no
    difference.  A closed driver is refused, and so are other options that make no session, and
    nothing is called.  If they make one, a connection is asked for under the session's
    configuration; if it is granted, the one query is run, with everything fetched at once, and the
    connection is given back.  The answer is the server of the result exactly if both succeed and
    one record comes back; it is the first error if there is one. -/
theorem verify_roundTrip (hdirect : d.endpoint = .direct address) (b : Backend) (o : Options) :
    (∀ o' : Options, (∀ q, q ≠ "fetch_size" → o'.get? q = o.get? q) →
        d.verify b o' = d.verify b o)
      ∧ (d.isOpen = false → d.verify b o = .fail (.session "Driver is closed"))
      ∧ (d.isOpen = true → ∀ fault,
          SessionConfig.consumeOver d.workspace (o.erase "fetch_size") = .error fault →
          d.verify b o = .fail fault.toError)
      ∧ (d.isOpen = true → ∀ c,
          SessionConfig.consumeOver d.workspace (o.erase "fetch_size") = .ok c →
          (d.verify b o).calls
              = .acquire d.pool c.defaultAccessMode c.database
                  c.workspace.connectionAcquisitionTimeout
                :: (if b.acquireError = none
                    then [.run d.pool "RETURN 1 AS x" c.fetchingAll, .release d.pool] else [])
            ∧ (∀ e, b.acquireError = some e → (d.verify b o).answer = .error e)
            ∧ (b.acquireError = none → ∀ e, b.queryError = some e →
                (d.verify b o).answer = .error e)
            ∧ (b.acquireError = none → b.queryError = none →
                (b.result c.fetchingAll).records.length ≠ 1 →
                ∃ detail, (d.verify b o).answer = .error (.notSingle detail))
            ∧ ∀ found, (d.verify b o).answer = .ok found
                ↔ b.acquireError = none ∧ b.queryError = none
                  ∧ (b.result c.fetchingAll).records.length = 1
                  ∧ found = .server (b.result c.fetchingAll).server) := by
  refine ⟨?_, fun hclosed => verify_of_closed hclosed b o, ?_, ?_⟩
  -- The options that the verification goes on with are the same: it sets the number of records
  -- itself.
  · intro o' ho'
    have hsame : o'.insert WorkspaceConfig.fetchSizeKey (.int (-1))
        = o.insert WorkspaceConfig.fetchSizeKey (.int (-1)) := SortedMap.insert_congr ho' _
    rw [verify_eq hdirect, verify_eq hdirect, verifyServer, verifyServer, hsame]
  -- The hypothesis is said again with the name of the key, which the lemmas speak of.
  · intro hopen fault
      (hfault : SessionConfig.consumeOver d.workspace (o.erase WorkspaceConfig.fetchSizeKey) = _)
    have hsession := session_insert_fetchSize hopen o
    rw [hfault] at hsession
    rw [verify_eq hdirect, verifyServer, ensureOpen, if_pos hopen, hsession]
    rfl
  · intro hopen c
      (hc : SessionConfig.consumeOver d.workspace (o.erase WorkspaceConfig.fetchSizeKey) = _)
    have hsession := session_insert_fetchSize hopen o
    rw [hc] at hsession
    rw [verify_eq hdirect, Report.calls_map, Report.answer_map, calls_verifyServer hsession,
      answer_verifyServer hsession]
    -- From here on all is up to the backend: a connection, then the query, then its one record.
    refine ⟨Session.calls_run_of_open rfl b verificationQuery, ?_, ?_, ?_, ?_⟩
    · intro e hacquire
      rw [Backend.singleServer_of_refused hacquire]
      rfl
    · intro hacquire e hquery
      rw [Backend.singleServer_of_failed hacquire hquery]
      rfl
    · intro hacquire hquery hlength
      obtain ⟨detail, hserver⟩ := Backend.singleServer_of_length_ne_one hacquire hquery hlength
      refine ⟨detail, ?_⟩
      rw [hserver]
      rfl
    · intro found
      constructor
      · intro hfound
        cases hserver : b.singleServer c.fetchingAll with
        | error e =>
            rw [hserver] at hfound
            cases hfound
        | ok server =>
            rw [hserver] at hfound
            cases hfound
            obtain ⟨hacquire, hquery, hlength, rfl⟩ := Backend.singleServer_eq_ok_iff.mp hserver
            exact ⟨hacquire, hquery, hlength, rfl⟩
      · rintro ⟨hacquire, hquery, hlength, rfl⟩
        have hserver := Backend.singleServer_eq_ok_iff.mpr ⟨hacquire, hquery, hlength, rfl⟩
        rw [hserver]
        rfl

/-- A driver of its own for the server that backends begin with. -/
def directDriver : Driver where
  pool := 0
  endpoint := .direct ⟨"db", 7687⟩
  config := ⟨{}, {}⟩

/-- The options of a database, with a number of records that is none. -/
def moviesOptions : Options :=
  SortedMap.ofList [("database", .string "movies"), ("fetch_size", .string "many")]

/-- A number of records that is none does not keep the query from being run. -/
theorem verify_roundTrip_movies :
    (directDriver.verify {} moviesOptions).answer
        = .ok (.server ⟨⟨"db", 7687⟩, "Neo4j/5.13.0", "5.4"⟩)
      ∧ (directDriver.verify {} moviesOptions).calls
        = [.acquire 0 .write (some "movies") (.seconds 60),
          .run 0 "RETURN 1 AS x"
            { workspace := { database := some "movies", fetchSize := -1 } },
          .release 0] := by
  have hdirect : directDriver.endpoint = .direct ⟨"db", 7687⟩ := rfl
  have hconfig : SessionConfig.consumeOver directDriver.workspace
      (moviesOptions.erase "fetch_size")
        = .ok { workspace := { database := some "movies" } } := rfl
  obtain ⟨-, -, -, hlayered⟩ := verify_roundTrip hdirect {} moviesOptions
  obtain ⟨hcalls, -, -, -, hok⟩ := hlayered rfl _ hconfig
  refine ⟨(hok _).mpr ⟨rfl, rfl, rfl, rfl⟩, hcalls⟩

end Driver
end GraphLink
