import SelectiveDisclosure.Command.Attested
import SelectiveDisclosure.Command.Workspace

/-!
Parts of commands that change nothing. A host has a state, which reading does not change and which
a failed write leaves as it was. Everything that a command does before it writes is then quiet: it
may fail at any point, and the state is the one it started in.
-/

namespace SelectiveDisclosure.Command

variable {σ ε α β : Type}

def outcome (x : Action (StateM σ) α) (s : σ) : Except CommandError α × σ := (ExceptT.run x).run s

/-- An action that changes nothing, whatever its result. -/
def Quiet (x : Action (StateM σ) α) : Prop := ∀ s, (outcome x s).2 = s

section Rules

variable {x : Action (StateM σ) α} {f : α → Action (StateM σ) β} {s t : σ} {e : CommandError}

theorem outcome_lift (y : StateM σ α) (s : σ) :
    outcome (liftM y : Action (StateM σ) α) s = (.ok (y.run s).1, (y.run s).2) := rfl

theorem outcome_bind_ok {a : α} (first : outcome x s = (.ok a, t)) :
    outcome (x >>= f) s = outcome (f a) t := by
  rw [outcome] at first
  rw [outcome, ExceptT.run_bind, StateT.run_bind, first]
  rfl

theorem outcome_bind_error (first : outcome x s = (.error e, t)) :
    outcome (x >>= f) s = (.error e, t) := by
  rw [outcome] at first
  rw [outcome, ExceptT.run_bind, StateT.run_bind, first]
  rfl

theorem outcome_bind_ok_iff {b : β} : outcome (x >>= f) s = (.ok b, t)
    ↔ ∃ a r, outcome x s = (.ok a, r) ∧ outcome (f a) r = (.ok b, t) := by
  constructor
  · intro done
    rcases made : outcome x s with ⟨_ | a, r⟩
    · rw [outcome_bind_error made] at done
      cases done
    · rw [outcome_bind_ok made] at done
      exact ⟨a, r, rfl, done⟩
  · rintro ⟨a, r, first, rest⟩
    rw [outcome_bind_ok first, rest]

theorem outcome_pure_ok_iff {a b : α} :
    outcome (pure a : Action (StateM σ) α) s = (.ok b, t) ↔ a = b ∧ s = t := by
  show (Except.ok a, s) = _ ↔ _
  simp

theorem outcome_within_ok_iff {context : String} {cause : ε → Cause} {r : Except ε α} {a : α} :
    outcome (within context cause r : Action (StateM σ) α) s = (.ok a, t) ↔ r = .ok a ∧ s = t := by
  cases r with
  | error e => exact ⟨nofun, nofun⟩
  | ok b =>
    rw [within, outcome_pure_ok_iff, Except.ok.injEq]

namespace Quiet

theorem eq (quiet : Quiet x) {r : Except CommandError α} (made : outcome x s = (r, t)) : t = s := by
  have kept := quiet s
  rwa [made] at kept

theorem pure (a : α) : Quiet (pure a : Action (StateM σ) α) := fun _ => rfl

theorem throw (e : CommandError) : Quiet (throw e : Action (StateM σ) α) := fun _ => rfl

theorem lift {y : StateM σ α} (kept : ∀ s, (y.run s).2 = s) :
    Quiet (liftM y : Action (StateM σ) α) := kept

theorem bind (first : Quiet x) (rest : ∀ a, Quiet (f a)) : Quiet (x >>= f) := by
  intro s
  rcases made : outcome x s with ⟨_ | a, t⟩
  · rw [outcome_bind_error made]
    exact first.eq made
  · obtain rfl := first.eq made
    rw [outcome_bind_ok made]
    exact rest a t

theorem within (context : String) (cause : ε → Cause) (r : Except ε α) :
    Quiet (within context cause r : Action (StateM σ) α) := by
  cases r with
  | error e => exact throw _
  | ok a => exact pure a

theorem mapM {g : α → Action (StateM σ) β} (each : ∀ a, Quiet (g a)) (as : List α) :
    Quiet (as.mapM g) := by
  induction as with
  | nil => exact pure []
  | cons a as ih =>
    rw [List.mapM_cons]
    exact (each a).bind fun _ => ih.bind fun _ => pure _

theorem mapM_option {g : α → Action (StateM σ) β} (each : ∀ a, Quiet (g a)) (a? : Option α) :
    Quiet (a?.mapM g) := by
  cases a? with
  | none => exact pure none
  | some a => exact (each a).bind fun b => pure (some b)

end Quiet

end Rules

/-- A host on which looking at files changes nothing, and neither does a write that fails. -/
structure Host.Steady (host : Host (StateM σ)) : Prop where
  isThere (path : String) (s : σ) : ((host.isThere path).run s).2 = s
  read (path : String) (s : σ) : ((host.read path).run s).2 = s
  write {path text : String} {s t : σ} {fault : FileFault}
    (failed : (host.write path text).run s = (some fault, t)) : t = s

theorem Workspace.steady : Workspace.host.Steady where
  isThere _ _ := rfl
  read _ _ := rfl
  write := by
    intro path text w w' fault failed
    have written : w.write path text = (w', some fault) :=
      Prod.ext (congrArg Prod.snd failed) (congrArg Prod.fst failed)
    rw [Workspace.write] at written
    grind

namespace Host.Steady

variable {host : Host (StateM σ)} (steady : host.Steady)

include steady

theorem readJson (path : String) : Quiet (readJson host path) := by
  refine .bind (.lift (steady.read path)) fun text => .bind (.within _ _ text) fun _ => ?_
  split
  · exact .pure _
  · exact .throw _

theorem loadLedger (path : String) : Quiet (loadLedger host path) :=
  .bind (.lift (steady.read path)) fun text => .bind (.within _ _ text) fun _ => .within _ _ _

theorem openLedger (path : String) (genesis : Option String) :
    Quiet (openLedger host path genesis) := by
  refine .bind (.lift (steady.isThere path)) fun there => ?_
  cases there with
  | true => exact steady.loadLedger path
  | false =>
    cases genesis with
    | none => exact .throw _
    | some genesis => exact .bind (.within _ _ _) fun _ => .pure _

theorem readCredential (context path : String) : Quiet (readCredential host context path) :=
  .bind (steady.readJson path) fun _ => .within _ _ _

theorem readInput (a : IssueArguments) : Quiet (readInput host a) := by
  refine .bind (steady.readJson _) fun ctype => .bind (steady.readJson _) fun claims => ?_
  split
  · refine .bind (.within _ _ _) fun issuer => .bind (.mapM ?_ _) fun legitimations => ?_
    · exact steady.readCredential _
    · refine .bind (.mapM_option ?_ _) fun delegation => .bind (.within _ _ _) fun subject => ?_
      · exact fun _ => .within _ _ _
      · exact .pure _
  · exact .throw _

end Host.Steady

theorem Quiet.snapshotPath (config : Config) (chain : Option String) :
    Quiet (snapshotPath config chain : Action (StateM σ) String) := by
  unfold Command.snapshotPath
  split
  · exact .pure _
  · exact .throw _

theorem Quiet.timestampOr (given : Option UInt64) (now : Int) :
    Quiet (timestampOr given now : Action (StateM σ) UInt64) := by
  unfold Command.timestampOr
  split
  · exact .pure _
  · split
    · exact .pure _
    · exact .throw _

theorem outcome_snapshotPath_ok_iff {config : Config} {chain : Option String} {path : String}
    {s t : σ} : outcome (snapshotPath config chain) s = (.ok path, t)
      ↔ (config.withFlags chain none).chainSnapshot = some path ∧ s = t := by
  rw [snapshotPath]
  split
  · rename_i found
    rw [outcome_pure_ok_iff, found, Option.some.injEq]
  · rename_i missing
    rw [missing]
    exact ⟨nofun, nofun⟩

end SelectiveDisclosure.Command
