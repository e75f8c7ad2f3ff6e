import SelectiveDisclosure.Proofs.Issuance
import SelectiveDisclosure.Proofs.QuietCommands

/-!
Issuing that fails. A credential and the ledger with its attestation are complete before anything is
written, so all that can go wrong in making them goes wrong with the snapshot as it was. The
snapshot is written first and the credential after it: if only the latter is refused, the
attestation of a credential that nobody has stays in the snapshot.
-/

namespace SelectiveDisclosure.Command

section

variable {m : Type → Type} [Monad m]

def put (host : Host m) (context path text : String) : Action m Unit := do
  if let some fault ← host.write path text then
    throw ⟨[context], .file fault⟩

/-- What there is before anything is written: the ledger as it was found, the attestation that goes
into it, and the credential that is attested. -/
structure Prepared where
  path : String
  found : Ledger
  block : Hash256
  timestamp : UInt64
  attestation : Attestation
  credential : VerifiableCredential

def Prepared.ledger (p : Prepared) : Ledger := p.found.record p.block p.timestamp p.attestation

def Prepared.attest (host : Host m) (p : Prepared) : Action m Unit :=
  put host s!"failed to write snapshot: {p.path}" p.path p.ledger.toJson.indented

def prepare (host : Host m) (around : Surroundings) (config : Config) (a : IssueArguments) :
    Action m Prepared := do
  let path ← snapshotPath config a.chain
  let found ← openLedger host path a.genesis
  let input ← readInput host a
  let unfinalized ← within "failed to build credential" .verification input.toCredential
  let begun ← within "failed to initialize proof" .verification
    (unfinalized.initializeProof around.random)
  let timestamp ← timestampOr a.timestamp around.now
  let block := blockOf begun.2.rootHash timestamp
  let ended ← within "failed to finalize proof" .verification
    (unfinalized.finalizeProof begun.1 { block, timestamp, genesis := found.genesis })
  return {
    path, found, block, timestamp
    credential := ended.1
    attestation := {
      claimHash := begun.2.rootHash
      ctypeHash := begun.2.ctypeHash
      owner := input.issuer
      delegationId := begun.2.authorization.map (·.nodeId)
      revoked := false } }

/-- Nothing is written until all is prepared. -/
theorem runIssue_eq [LawfulMonad m] (host : Host m) (around : Surroundings) (config : Config)
    (a : IssueArguments) : runIssue host around config a = (do
      let p ← prepare host around config a
      p.attest host
      writeJson host p.credential.toJson a.out) := by
  rw [runIssue, issue, prepare]
  simp only [bind_assoc, pure_bind]
  refine bind_congr fun path => bind_congr fun found => bind_congr fun input =>
    bind_congr fun unfinalized => bind_congr fun begun => bind_congr fun timestamp =>
    bind_congr fun ended => ?_
  rw [Prepared.attest, put, bind_assoc]
  refine bind_congr fun fault => ?_
  cases fault with
  | none => rw [pure_bind, pure_bind]
  | some fault => simp only [bind_assoc, pure_bind]

end

variable {σ : Type} {host : Host (StateM σ)} {around : Surroundings} {config : Config}
  {a : IssueArguments} {s t : σ} {e : CommandError} {p : Prepared}

section Put

variable {context path text : String}

theorem outcome_attempted {x : StateM σ (Option FileFault)} {fault? : Option FileFault}
    (attempted : x.run s = (fault?, t)) (failure : FileFault → CommandError) :
    outcome (do if let some fault ← (liftM x : Action (StateM σ) _) then throw (failure fault)) s
      = (match fault? with
        | none => .ok ()
        | some fault => .error (failure fault), t) := by
  have lifted : outcome (liftM x : Action (StateM σ) _) s = (.ok fault?, t) := by
    rw [outcome_lift, attempted]
  rw [outcome_bind_ok lifted]
  cases fault? with
  | none => rfl
  | some fault => rfl

theorem outcome_put_written (written : (host.write path text).run s = (none, t)) :
    outcome (put host context path text) s = (.ok (), t) :=
  outcome_attempted written _

theorem outcome_put_refused {fault : FileFault}
    (refused : (host.write path text).run s = (some fault, t)) :
    outcome (put host context path text) s = (.error ⟨[context], .file fault⟩, t) :=
  outcome_attempted refused _

inductive Refused (host : Host (StateM σ)) (s t : σ) (text : String) :
    Option String → CommandError → Prop where
  | file {out : String} {fault : FileFault}
      (refused : (host.write out text).run s = (some fault, t)) :
      Refused host s t text (some out) ⟨[s!"failed to write file: {out}"], .file fault⟩
  | output {fault : FileFault} (refused : (host.print text).run s = (some fault, t)) :
      Refused host s t text none ⟨[], .output fault⟩

theorem outcome_printOut_printed (printed : (host.print text).run s = (none, t)) :
    outcome (printOut host text) s = (.ok (), t) :=
  outcome_attempted printed _

theorem outcome_printOut_refused {fault : FileFault}
    (refused : (host.print text).run s = (some fault, t)) :
    outcome (printOut host text) s = (.error ⟨[], .output fault⟩, t) :=
  outcome_attempted refused _

theorem outcome_writeJson_error_iff {j : Json} {out : Option String} :
    outcome (writeJson host j out) s = (.error e, t)
      ↔ Refused host s t (j.indented ++ "\n") out e := by
  constructor
  · intro failed
    cases out with
    | none =>
      change outcome (printOut host (j.indented ++ "\n")) s = _ at failed
      rcases made : (host.print (j.indented ++ "\n")).run s with ⟨_ | fault, r⟩
      · rw [outcome_printOut_printed made] at failed
        cases failed
      · rw [outcome_printOut_refused made] at failed
        cases failed
        exact .output made
    | some out =>
      change outcome (put host s!"failed to write file: {out}" out (j.indented ++ "\n")) s = _
        at failed
      rcases made : (host.write out (j.indented ++ "\n")).run s with ⟨_ | fault, r⟩
      · rw [outcome_put_written made] at failed
        cases failed
      · rw [outcome_put_refused made] at failed
        cases failed
        exact .file made
  · intro refused
    cases refused with
    | file made => exact outcome_put_refused made
    | output made => exact outcome_printOut_refused made

end Put

theorem Quiet.prepare (steady : host.Steady) : Quiet (prepare host around config a) :=
  .bind (.snapshotPath _ _) fun _ => .bind (steady.openLedger _ _) fun _ =>
    .bind (steady.readInput a) fun _ => .bind (.within _ _ _) fun _ =>
      .bind (.within _ _ _) fun _ => .bind (.timestampOr _ _) fun _ =>
        .bind (.within _ _ _) fun _ => .pure _

/-- The attestation is one of the credential, and it goes into the ledger of the snapshot. -/
structure Prepared.Fits (host : Host (StateM σ)) (config : Config) (a : IssueArguments) (s : σ)
    (p : Prepared) : Prop where
  configured : (config.withFlags a.chain none).chainSnapshot = some p.path
  found : outcome (openLedger host p.path a.genesis) s = (.ok p.found, s)
  identity : p.credential.id = some ⟨p.attestation.claimHash⟩
  issuer : p.credential.issuer = p.attestation.owner
  ctype : p.credential.schema.id = ⟨p.attestation.ctypeHash⟩

theorem fits_of_prepared (steady : host.Steady)
    (prepared : outcome (prepare host around config a) s = (.ok p, t)) :
    p.Fits host config a s := by
  rw [prepare] at prepared
  simp only [outcome_bind_ok_iff, outcome_within_ok_iff, outcome_snapshotPath_ok_iff,
    outcome_pure_ok_iff] at prepared
  obtain ⟨path, _, ⟨configured, rfl⟩, found, r, opened, input, _, _, unfinalized, _, ⟨built, rfl⟩,
    ⟨proof, request⟩, _, ⟨begun, rfl⟩, timestamp, _, _, ⟨vc, final⟩, _, ⟨ended, rfl⟩, rfl, rfl⟩ :=
    prepared
  obtain rfl := (steady.openLedger path a.genesis).eq opened
  obtain ⟨_, entries, _, rfl⟩ := (CredentialInput.toCredential_ok_iff input _).mp built
  obtain ⟨_, statements, _, made, _, rfl⟩ :=
    (VerifiableCredential.initializeProof_ok_iff ..).mp begun
  obtain ⟨statements', _, made', _, rfl⟩ := VerifiableCredential.exists_of_issued begun ended
  obtain rfl : statements' = statements := Except.ok.inj (made'.symm.trans made)
  exact ⟨configured, opened, rfl, rfl, rfl⟩

/-- The snapshot was written, and then the credential was refused where it was to go. A file that
refuses it leaves everything else as the snapshot left it. -/
structure Undelivered (host : Host (StateM σ)) (config : Config) (a : IssueArguments) (s r t : σ)
    (e : CommandError) (p : Prepared) : Prop where
  fits : p.Fits host config a s
  recorded : (host.write p.path p.ledger.toJson.indented).run s = (none, r)
  refused : Refused host r t (p.credential.toJson.indented ++ "\n") a.out e
  kept : a.out.isSome → t = r

/-- Whatever makes issuing fail, nothing has changed, unless the credential was complete, its
attestation is in the snapshot, and the credential could not be delivered. -/
theorem unchanged_or_undelivered (steady : host.Steady)
    (failed : outcome (runIssue host around config a) s = (.error e, t)) :
    t = s ∨ ∃ p r, Undelivered host config a s r t e p := by
  rw [runIssue_eq] at failed
  rcases prepared : outcome (prepare host around config a) s with ⟨_ | p, u⟩
  · rw [outcome_bind_error prepared] at failed
    cases failed
    exact .inl ((Quiet.prepare steady).eq prepared)
  obtain rfl := (Quiet.prepare steady).eq prepared
  rw [outcome_bind_ok prepared, Prepared.attest] at failed
  rcases recorded : (host.write p.path p.ledger.toJson.indented).run u with ⟨_ | fault, r⟩
  · rw [outcome_bind_ok (outcome_put_written recorded)] at failed
    have refused := outcome_writeJson_error_iff.mp failed
    refine .inr ⟨p, r, fits_of_prepared steady prepared, recorded, refused, ?_⟩
    intro asked
    obtain ⟨out, given⟩ := Option.isSome_iff_exists.mp asked
    rw [given] at refused
    cases refused with
    | file made => exact steady.write made
  · rw [outcome_bind_error (outcome_put_refused recorded)] at failed
    cases failed
    exact .inl (steady.write recorded)

theorem exists_prepared (around : Surroundings) {path : String} {found : Ledger}
    {input : CredentialInput} {c : VerifiableCredential} {millis : UInt64} {issued : Timestamp}
    (configured : (config.withFlags a.chain none).chainSnapshot = some path)
    (opened : outcome (openLedger host path a.genesis) s = (.ok found, s))
    (read : outcome (readInput host a) s = (.ok input, s)) (built : input.toCredential = .ok c)
    (timed : a.timestamp = some millis)
    (dated : Timestamp.ofMillis? millis.toNat = some issued) :
    ∃ p, outcome (prepare host around config a) s = (.ok p, s) ∧ p.path = path := by
  obtain ⟨unreserved, entries, entriesRead, rfl⟩ :=
    (CredentialInput.toCredential_ok_iff input c).mp built
  obtain ⟨statements, made⟩ := CredentialInput.exists_normalizeClaims unreserved
  have single := (VerifiableCredential.delegation_ok_iff (input.credential entries) _).mpr
    (CredentialInput.delegationIds entriesRead)
  have begun := (VerifiableCredential.initializeProof_ok_iff (input.credential entries)
    around.random _ _).mpr ⟨_, statements, single, made, rfl, rfl⟩
  have time : outcome (timestampOr a.timestamp around.now) s = (.ok millis, s) := by
    rw [timed]
    rfl
  have ended (block : Hash256) := VerifiableCredential.finalizeProof_toProof
    (input.credential entries) (Opening.drawn statements around.random)
    (show Timestamp.ofMillis? (Inclusion.mk block millis found.genesis).timestamp.toNat
      = some issued from dated)
  rw [prepare, outcome_bind_ok (outcome_snapshotPath_ok_iff.mpr ⟨configured, rfl⟩),
    outcome_bind_ok opened, outcome_bind_ok read,
    outcome_bind_ok (outcome_within_ok_iff.mpr ⟨built, rfl⟩),
    outcome_bind_ok (outcome_within_ok_iff.mpr ⟨begun, rfl⟩), outcome_bind_ok time,
    outcome_bind_ok (outcome_within_ok_iff.mpr ⟨ended _, rfl⟩)]
  exact ⟨_, rfl, rfl⟩

def sampleWorkspace : Workspace where
  files := OrderedMap.ofList [("claims.json", "{}"), ("ctype.json", "{}")]
  printed := ""

def sampleHost (closed : Option FileFault) : Host (StateM Workspace) :=
  { Workspace.host with
    print := fun text => match closed with
      | none => Workspace.host.print text
      | some fault => return some fault }

def sampleArguments (out : Option String) : IssueArguments where
  ctype := "ctype.json"
  claims := "claims.json"
  subject := "did:kilt:holder"
  issuer := "did:kilt:issuer"
  legitimations := []
  delegation := none
  chain := some "chain.json"
  genesis := some "0x0505050505050505050505050505050505050505050505050505050505050505"
  timestamp := some 1700000000000
  out

def sampleSurroundings : Surroundings := ⟨fun _ => 0, 0⟩

def sampleInput : CredentialInput :=
  { CredentialInput.sample .empty [] none with ctypeHash := CType.hash ⟨.obj []⟩ }

def sampleRecorded (text : String) : Workspace :=
  { sampleWorkspace with files := sampleWorkspace.files.insert "chain.json" text }

theorem sampleRecorded_ne (text : String) : sampleRecorded text ≠ sampleWorkspace := by
  intro same
  have read : (sampleRecorded text).read "chain.json" = sampleWorkspace.read "chain.json" := by
    rw [same]
  change Except.ok text = .error FileFault.missing at read
  contradiction

theorem steady_sampleHost (closed : Option FileFault) : (sampleHost closed).Steady where
  isThere := Workspace.steady.isThere
  read := Workspace.steady.read
  write := Workspace.steady.write

theorem exists_sample_outcome {closed : Option FileFault} {out : Option String}
    (read : outcome (readInput (sampleHost closed) (sampleArguments out)) sampleWorkspace
      = (.ok sampleInput, sampleWorkspace))
    (refused : ∀ recorded text, Refused (sampleHost closed) (sampleRecorded recorded)
      (sampleRecorded recorded) text out e) :
    ∃ recorded, outcome (runIssue (sampleHost closed) sampleSurroundings .standard
      (sampleArguments out)) sampleWorkspace = (.error e, sampleRecorded recorded) := by
  have plain : sampleInput.toCredential = .ok (sampleInput.credential []) :=
    (CredentialInput.toCredential_ok_iff _ _).mpr ⟨nofun, [], .nil, rfl⟩
  have configured : (Config.standard.withFlags (sampleArguments out).chain none).chainSnapshot
      = some "chain.json" := rfl
  have opened : outcome (openLedger (sampleHost closed) "chain.json"
      (sampleArguments out).genesis) sampleWorkspace
      = (.ok (.new ⟨List.replicate 32 5, rfl⟩), sampleWorkspace) := rfl
  obtain ⟨p, prepared, path⟩ :=
    exists_prepared sampleSurroundings configured opened read plain rfl rfl
  have recorded : ((sampleHost closed).write p.path p.ledger.toJson.indented).run sampleWorkspace
      = (none, sampleRecorded p.ledger.toJson.indented) := by
    rw [path]
    rfl
  refine ⟨p.ledger.toJson.indented, ?_⟩
  rw [runIssue_eq, outcome_bind_ok prepared, Prepared.attest,
    outcome_bind_ok (outcome_put_written recorded)]
  exact outcome_writeJson_error_iff.mpr (refused _ _)

theorem exists_sample_refused_by_file : ∃ recorded, outcome (runIssue (sampleHost none)
    sampleSurroundings .standard (sampleArguments (some "missing/vc.json"))) sampleWorkspace
      = (.error ⟨["failed to write file: missing/vc.json"], .file .missing⟩,
        sampleRecorded recorded) :=
  exists_sample_outcome rfl fun _ _ => .file rfl

def brokenPipe : FileFault := .other "Broken pipe (os error 32)"

theorem exists_sample_refused_by_output : ∃ recorded, outcome (runIssue
    (sampleHost (some brokenPipe)) sampleSurroundings .standard (sampleArguments none))
      sampleWorkspace = (.error ⟨[], .output brokenPipe⟩, sampleRecorded recorded) :=
  exists_sample_outcome rfl fun _ _ => .output rfl

theorem sample_undelivered : ∃ e f w v,
    outcome (runIssue (sampleHost none) sampleSurroundings .standard
      (sampleArguments (some "missing/vc.json"))) sampleWorkspace = (.error e, w)
    ∧ outcome (runIssue (sampleHost (some brokenPipe))
      sampleSurroundings .standard (sampleArguments none)) sampleWorkspace = (.error f, v)
    ∧ e.isBreakdown = false ∧ f.isBreakdown = true
    ∧ (∃ p r, Undelivered (sampleHost none) .standard (sampleArguments (some "missing/vc.json"))
      sampleWorkspace r w e p)
    ∧ ∃ p r, Undelivered (sampleHost (some brokenPipe)) .standard
      (sampleArguments none) sampleWorkspace r v f p := by
  obtain ⟨text, byFile⟩ := exists_sample_refused_by_file
  obtain ⟨text', byOutput⟩ := exists_sample_refused_by_output
  refine ⟨_, _, _, _, byFile, byOutput, rfl, rfl, ?_, ?_⟩
  · exact (unchanged_or_undelivered (steady_sampleHost _) byFile).resolve_left
      (sampleRecorded_ne text)
  · exact (unchanged_or_undelivered (steady_sampleHost _) byOutput).resolve_left
      (sampleRecorded_ne text')

/-- Writes that fail change nothing here either, and still there is a snapshot after issuing has
failed where there was none before. -/
theorem snapshot_left_behind : Workspace.host.Steady
    ∧ (Config.standard.withFlags (some "chain.json") none).chainSnapshot = some "chain.json"
    ∧ sampleWorkspace.read "chain.json" = .error FileFault.missing
    ∧ ∃ e w text, outcome (runIssue Workspace.host sampleSurroundings .standard
        (sampleArguments (some "missing/vc.json"))) sampleWorkspace = (.error e, w)
      ∧ e.isBreakdown = false ∧ w.read "chain.json" = .ok text := by
  obtain ⟨text, failed⟩ := exists_sample_refused_by_file
  exact ⟨Workspace.steady, rfl, rfl, _, _, text, failed, rfl, rfl⟩

end SelectiveDisclosure.Command
