import SelectiveDisclosure.Attested.Document
import SelectiveDisclosure.Proofs.WorkArea
import SelectiveDisclosure.Proofs.WrittenFields

namespace SelectiveDisclosure

open Json (RecordForm Setting)
open Json.Decoder (fill)

/-- A text that would be an id of a credential or of a delegation node, and whose digits overrun the
work area. -/
def IdOverruns (text : String) : Prop :=
  ∃ digits, (Text.behind? CredentialId.head text = some digits
    ∨ Text.behind? DelegationId.head text = some digits) ∧ Base58.Overruns digits

namespace Identifier

theorem credentialId_breaks (text : String) :
    BreaksOnlyIf IdentifierError.isBreakdown (IdOverruns text) (CredentialId.parse text) := by
  rw [CredentialId.parse]
  split
  · rename_i digits behind
    refine .mapError (.map ?_) fun _ bad => bad
    exact (Hash256.ofBase58_breaks digits).mono fun overruns => ⟨digits, .inl behind, overruns⟩
  · exact .error rfl

theorem delegationId_breaks (text : String) :
    BreaksOnlyIf IdentifierError.isBreakdown (IdOverruns text) (DelegationId.parse text) := by
  rw [DelegationId.parse]
  split
  · rename_i digits behind
    refine .mapError (.map ?_) fun _ bad => bad
    exact (Hash256.ofBase58_breaks digits).mono fun overruns => ⟨digits, .inr behind, overruns⟩
  · exact .error rfl

theorem hex_breaks {cause : Prop} (text : String) :
    BreaksOnlyIf EncodingError.isBreakdown cause (Hash256.ofHex text) := by
  refine .bind ?_ fun bytes _ => FixedBytes.ofList_breaks 32 bytes
  rw [Hex.decodeMarked]
  split
  · exact .passOn fun _ => rfl
  · exact .error rfl

theorem ctypeId_breaks {cause : Prop} (text : String) :
    BreaksOnlyIf IdentifierError.isBreakdown cause (CTypeId.parse text) := by
  rw [CTypeId.parse]
  split
  · exact (hex_breaks _).map.mapError fun _ bad => bad
  · exact .error rfl

theorem did_breaks {cause : Prop} (text : String) :
    BreaksOnlyIf IdentifierError.isBreakdown cause (Did.parse text) := by
  rw [Did.parse]
  split
  · exact .ok _
  · exact .error rfl

theorem chainId_breaks {cause : Prop} (text : String) :
    BreaksOnlyIf IdentifierError.isBreakdown cause (ChainId.parse text) := by
  rw [ChainId.parse]
  split
  · exact .error rfl
  · split
    · exact .error rfl
    · exact .ok _

theorem not_overruns_of_short {most : Nat} {isAllowed : Char → Bool} {cs : List Char}
    (short : most ≤ Base58.capacity) (clean : ChainId.referenceFault? most isAllowed cs = none) :
    ¬ Base58.Overruns (String.ofList cs) := by
  intro overruns
  have long := overruns.long
  rw [ChainId.referenceFault?] at clean
  split at clean
  · contradiction
  · split at clean
    · contradiction
    · rename_i bound
      rw [ChainId.length_utf8] at long
      omega

theorem statusId_breaks {cause : Prop} (text : String) :
    BreaksOnlyIf IdentifierError.isBreakdown cause (AttestationStatusId.parse text) := by
  rw [AttestationStatusId.parse]
  dsimp only
  split
  · refine .bind (chainId_breaks _) fun chain _ => ?_
    split
    · exact .error rfl
    · split
      · exact .error rfl
      · rename_i token _ _ _ _ clean
        refine .bind ?_ fun rootHash _ => .ok _
        have short := not_overruns_of_short (by decide) (Option.or_eq_none_iff.mp clean).2
        refine .mapError ?_ fun _ bad => bad
        exact (Hash256.ofBase58_breaks _).mono fun overruns => absurd overruns short
  · exact .error rfl

end Identifier

inductive Json.Holds (text : String) : Json → Prop where
  | here : Holds text (.str text)
  | item {items : List Json} {j : Json} (there : j ∈ items) (inside : Holds text j) :
      Holds text (.arr items)
  | member {members : List (String × Json)} {name : String} {j : Json}
      (there : (name, j) ∈ members) (inside : Holds text j) : Holds text (.obj members)

def Json.Mentions (bad : String → Prop) (j : Json) : Prop := ∃ text, j.Holds text ∧ bad text

namespace Json.Mentions

variable {bad : String → Prop}

theorem item {items : List Json} {j : Json} (inside : j.Mentions bad) (there : j ∈ items) :
    (Json.arr items).Mentions bad :=
  inside.imp fun _ held => ⟨.item there held.1, held.2⟩

theorem member {members : List (String × Json)} {m : String × Json} (inside : m.2.Mentions bad)
    (there : m ∈ members) : (Json.obj members).Mentions bad :=
  inside.imp fun _ held => ⟨.member there held.1, held.2⟩

theorem cons {items : List Json} (inside : (Json.arr items).Mentions bad) (j : Json) :
    (Json.arr (j :: items)).Mentions bad := by
  obtain ⟨text, held, holds⟩ := inside
  cases held with
  | item there below => exact ⟨text, .item (List.mem_cons_of_mem j there) below, holds⟩

end Json.Mentions

/-- A decoder that breaks down only on documents with a certain kind of text. -/
def Decoder.Sturdy {α : Type} (bad : String → Prop) (item : Decoder α) : Prop :=
  ∀ j, BreaksOnlyIf DocumentError.isBreakdown (j.Mentions bad) (item j)

namespace Decoder

variable {α δ : Type} {bad : String → Prop}

theorem string_sturdy : Sturdy bad Json.Decoder.string := by
  rintro ⟨⟩ <;> first | exact .ok _ | exact .error rfl

theorem boolean_sturdy : Sturdy bad Json.Decoder.boolean := by
  rintro ⟨⟩ <;> first | exact .ok _ | exact .error rfl

theorem members_sturdy : Sturdy bad Json.Decoder.members := by
  rintro ⟨⟩ <;> first | exact .ok _ | exact .error rfl

theorem read_sturdy {parse : String → Except TextError α}
    (each : ∀ text, BreaksOnlyIf TextError.isBreakdown (bad text) (parse text)) :
    Sturdy bad (Json.Decoder.read parse) := by
  intro j
  cases j with
  | str text =>
    refine .mapError ((each text).mono ?_) fun _ bad => bad
    exact fun overruns => ⟨text, .here, overruns⟩
  | _ => exact .error rfl

theorem did_sturdy : Sturdy bad did :=
  read_sturdy fun text => .mapError (Identifier.did_breaks text) fun _ bad => bad

theorem ctypeId_sturdy : Sturdy bad ctypeId :=
  read_sturdy fun text => .mapError (Identifier.ctypeId_breaks text) fun _ bad => bad

theorem credentialId_sturdy : Sturdy IdOverruns credentialId :=
  read_sturdy fun text => .mapError (Identifier.credentialId_breaks text) fun _ bad => bad

theorem delegationId_sturdy : Sturdy IdOverruns delegationId :=
  read_sturdy fun text => .mapError (Identifier.delegationId_breaks text) fun _ bad => bad

theorem statusId_sturdy : Sturdy bad statusId :=
  read_sturdy fun text => .mapError (Identifier.statusId_breaks text) fun _ bad => bad

theorem timestamp_sturdy : Sturdy bad timestamp := read_sturdy fun _ => .passOn fun _ => rfl

theorem optional_sturdy {item : Decoder α} (sturdy : Sturdy bad item) :
    Sturdy bad (Json.Decoder.optional item) := by
  intro j
  cases j with
  | null => exact .ok none
  | _ => exact (sturdy _).map

theorem list_sturdy {item : Decoder α} (sturdy : Sturdy bad item) :
    Sturdy bad (Json.Decoder.list item) := by
  intro j
  cases j with
  | arr items => exact .mapM fun j there => (sturdy j).mono fun held => held.item there
  | _ => exact .error rfl

theorem fill_sturdy {item : Decoder α} (sturdy : Sturdy bad item) (name : String)
    (place : Option α) : Sturdy bad (fill name place item) := by
  intro j
  cases place with
  | some _ => exact .error rfl
  | none => exact (sturdy j).map

theorem checkCount_breaks {cause : Prop} (form : RecordForm) (setting : Setting) (count : Nat) :
    BreaksOnlyIf DocumentError.isBreakdown cause (form.checkCount setting count) := by
  unfold RecordForm.checkCount
  split
  · exact .ok ()
  · cases setting <;> exact .error rfl

theorem require_breaks {cause : Prop} {absent : String → DocumentError}
    (refused : ∀ name, DocumentError.isBreakdown (absent name) = false) (name : String)
    (place : Option α) :
    BreaksOnlyIf DocumentError.isBreakdown cause (RecordForm.require absent name place) := by
  cases place with
  | some a => exact .ok a
  | none => exact .error (refused name)

theorem record_sturdy {form : RecordForm} {setting : Setting} {draft : δ}
    {put : δ → String → Json → Except DocumentError δ}
    {finish : (String → DocumentError) → δ → Except DocumentError α}
    (fields : ∀ d name, Sturdy bad (put d name))
    (finished : ∀ {cause : Prop} absent d,
      (∀ name, DocumentError.isBreakdown (absent name) = false) →
        BreaksOnlyIf DocumentError.isBreakdown cause (finish absent d)) :
    Sturdy bad (form.decode setting draft put finish) := by
  intro j
  cases j with
  | obj members =>
    refine .bind (.foldlM (fun m there d => ?_) draft) fun d _ => finished _ d fun _ => rfl
    exact (fields d m.1 m.2).mono fun held => held.member there
  | arr items =>
    refine .bind (.foldlM (fun m there d => ?_) draft) fun d _ =>
      .bind (finished _ d fun _ => rfl) fun record _ =>
        .bind (checkCount_breaks form setting items.length) fun _ _ => .ok record
    exact (fields d m.1 m.2).mono fun held => held.item (List.of_mem_zip there).2
  | _ => exact .error rfl

end Decoder

open Decoder

theorem AttestationProof.texts_sturdy {bad : String → Prop} :
    Sturdy bad AttestationProof.texts :=
  list_sturdy string_sturdy

theorem AttestationProof.texts_written (ts : List String) :
    AttestationProof.texts (.arr (ts.map .str)) = .ok ts :=
  Decoder.list_written fun t _ => Decoder.string_written t

theorem AttestationProof.decode_toJson (setting : Setting) (p : AttestationProof) :
    AttestationProof.decode setting p.toJson = .ok p := by
  have commitments (d : Draft) (free : d.commitments = none) : d.put "commitments"
      (.arr (p.commitments.map .str)) = .ok { d with commitments := some p.commitments } :=
    Decoder.fill_free free (texts_written p.commitments) _
      fun o => ({ d with commitments := o } : Draft)
  have salts (d : Draft) (free : d.salts = none) : d.put "salt"
      (.arr (p.salts.map .str)) = .ok { d with salts := some p.salts } :=
    Decoder.fill_free free (texts_written p.salts) _ fun o => ({ d with salts := o } : Draft)
  have type (d : Draft) (free : d.proofType = none) :
      d.put "type" (.str p.proofType) = .ok { d with proofType := some p.proofType } :=
    Decoder.fill_free free (Decoder.string_written p.proofType) _
      fun o => ({ d with proofType := o } : Draft)
  have block (d : Draft) (free : d.block = none) :
      d.put "block" (.str p.block) = .ok { d with block := some p.block } :=
    Decoder.fill_free free (Decoder.string_written p.block) _
      fun o => ({ d with block := o } : Draft)
  rw [decode, toJson, RecordForm.decode]
  simp only [List.foldlM_cons, type, block, commitments, salts, Outcome.ok_bind]
  rfl

theorem AttestationProof.decode_sturdy {bad : String → Prop} (setting : Setting) :
    Sturdy bad (AttestationProof.decode setting) := by
  refine record_sturdy (fun d name j => ?_) fun absent d refused => ?_
  · unfold Draft.put
    split
    · exact .bind (fill_sturdy string_sturdy _ _ j) fun _ _ => .ok _
    · exact .bind (fill_sturdy string_sturdy _ _ j) fun _ _ => .ok _
    · exact .bind (fill_sturdy texts_sturdy _ _ j) fun _ _ => .ok _
    · exact .bind (fill_sturdy texts_sturdy _ _ j) fun _ _ => .ok _
    · exact .ok d
  · exact .bind (require_breaks refused _ _) fun _ _ =>
      .bind (require_breaks refused _ _) fun _ _ => .bind (require_breaks refused _ _) fun _ _ =>
        .bind (require_breaks refused _ _) fun _ _ => .ok _

theorem AttestationProof.decode_breaks {cause : Prop} (setting : Setting) (j : Json) :
    BreaksOnlyIf DocumentError.isBreakdown cause (AttestationProof.decode setting j) := by
  have only : BreaksOnlyIf DocumentError.isBreakdown (j.Mentions fun _ => False)
      (AttestationProof.decode setting j) := AttestationProof.decode_sturdy setting j
  exact only.mono fun ⟨_, _, never⟩ => False.elim never

theorem SchemaReference.decode_sturdy {bad : String → Prop} (setting : Setting) :
    Sturdy bad (SchemaReference.decode setting) := by
  refine record_sturdy (fun d name j => ?_) fun absent d refused => ?_
  · unfold put
    split
    · exact .bind (fill_sturdy ctypeId_sturdy _ _ j) fun _ _ => .ok _
    · exact .bind (fill_sturdy string_sturdy _ _ j) fun _ _ => .ok _
    · exact .ok d
  · exact .bind (require_breaks refused _ _) fun _ _ =>
      .bind (require_breaks refused _ _) fun _ _ => .ok _

theorem StatusReference.decode_sturdy {bad : String → Prop} (setting : Setting) :
    Sturdy bad (StatusReference.decode setting) := by
  refine record_sturdy (fun d name j => ?_) fun absent d refused => ?_
  · unfold put
    split
    · exact .bind (fill_sturdy statusId_sturdy _ _ j) fun _ _ => .ok _
    · exact .bind (fill_sturdy string_sturdy _ _ j) fun _ _ => .ok _
    · exact .ok d
  · exact .bind (require_breaks refused _ _) fun _ _ =>
      .bind (require_breaks refused _ _) fun _ _ => .ok _

namespace VerifiableCredential

theorem put_sturdy (setting : Setting) (d : Draft) (name : String) :
    Sturdy IdOverruns (d.put setting name) := by
  intro j
  unfold Draft.put
  split
  · exact .bind (fill_sturdy AttestationProof.texts_sturdy _ _ j) fun _ _ => .ok _
  · exact .bind (fill_sturdy AttestationProof.texts_sturdy _ _ j) fun _ _ => .ok _
  · exact .bind (fill_sturdy (optional_sturdy credentialId_sturdy) _ _ j) fun _ _ => .ok _
  · exact .bind (fill_sturdy members_sturdy _ _ j) fun _ _ => .ok _
  · exact .bind (fill_sturdy (SchemaReference.decode_sturdy setting) _ _ j) fun _ _ => .ok _
  · exact .bind (fill_sturdy (optional_sturdy (StatusReference.decode_sturdy setting)) _ _ j)
      fun _ _ => .ok _
  · exact .bind (fill_sturdy did_sturdy _ _ j) fun _ _ => .ok _
  · exact .bind (fill_sturdy (optional_sturdy timestamp_sturdy) _ _ j) fun _ _ => .ok _
  · exact .bind (fill_sturdy boolean_sturdy _ _ j) fun _ _ => .ok _
  · exact .bind (fill_sturdy (optional_sturdy (AttestationProof.decode_sturdy setting)) _ _ j)
      fun _ _ => .ok _
  · exact .ok d

theorem putTrustModel_breaks {cause : Prop}
    {r : Except DocumentError (List (TrustEntry VerifiableCredential))}
    (only : BreaksOnlyIf DocumentError.isBreakdown cause r) (d : Draft) :
    BreaksOnlyIf DocumentError.isBreakdown cause (d.putTrustModel r) := by
  unfold Draft.putTrustModel
  split
  · exact .error rfl
  · exact .bind only fun _ _ => .ok _

theorem finish_breaks {cause : Prop} {absent : String → DocumentError}
    (refused : ∀ name, DocumentError.isBreakdown (absent name) = false) (d : Draft) :
    BreaksOnlyIf DocumentError.isBreakdown cause (d.finish absent) :=
  .bind (require_breaks refused _ _) fun _ _ => .bind (require_breaks refused _ _) fun _ _ =>
    .bind (require_breaks refused _ _) fun _ _ => .bind (require_breaks refused _ _) fun _ _ =>
    .bind (require_breaks refused _ _) fun _ _ => .bind (require_breaks refused _ _) fun _ _ =>
    .ok _

theorem decodeKind_breaks {cause : Prop} (setting : Setting) (j : Json) :
    BreaksOnlyIf DocumentError.isBreakdown cause (decodeKind setting j) := by
  unfold decodeKind
  repeat' split
  all_goals first | exact .ok _ | exact .error rfl

theorem findKind_breaks {cause : Prop} (setting : Setting) (kind : Option EntryKind)
    (members : List (String × Json)) :
    BreaksOnlyIf DocumentError.isBreakdown cause (findKind setting kind members) := by
  induction members generalizing kind with
  | nil => cases kind <;> first | exact .ok _ | exact .error rfl
  | cons m members ih =>
    unfold findKind
    split
    · split
      · exact .error rfl
      · exact .bind (decodeKind_breaks setting m.2) fun kind _ => ih (some kind)
    · exact ih kind

theorem delegation_sturdy (d : DelegationDraft) (name : String) :
    Sturdy IdOverruns (d.put name) := by
  intro j
  unfold DelegationDraft.put
  split
  · exact .bind (fill_sturdy delegationId_sturdy _ _ j) fun _ _ => .ok _
  · exact .bind (fill_sturdy (optional_sturdy (list_sturdy did_sturdy)) _ _ j) fun _ _ => .ok _
  · exact .ok d

theorem putCredential_breaks {cause : Prop} {r : Except DocumentError (Option VerifiableCredential)}
    (only : BreaksOnlyIf DocumentError.isBreakdown cause r) (d : LegitimationDraft) :
    BreaksOnlyIf DocumentError.isBreakdown cause (d.putCredential r) := by
  unfold LegitimationDraft.putCredential
  split
  · exact .error rfl
  · exact .bind only fun _ _ => .ok _

theorem nullOr_breaks {α : Type} {cause : Prop} {r : Except DocumentError α}
    (only : BreaksOnlyIf DocumentError.isBreakdown cause r) (j : Json) :
    BreaksOnlyIf DocumentError.isBreakdown cause (nullOr j r) := by
  unfold nullOr
  split
  · exact .ok none
  · exact only.map

mutual

theorem decodeIn_sturdy (setting : Setting) : ∀ j : Json,
    BreaksOnlyIf DocumentError.isBreakdown (j.Mentions IdOverruns) (decodeIn setting j)
  | .obj members => by
    rw [decodeIn]
    refine .bind ((decodeMembers_breaks setting {} members).mono ?_) fun d _ =>
      finish_breaks (fun _ => rfl) d
    rintro ⟨m, there, held⟩
    exact held.member there
  | .arr items => by
    rw [decodeIn]
    refine .bind ((decodeItems_breaks setting {} form.fields items).mono ?_) fun d _ =>
      .bind (finish_breaks (fun _ => rfl) d) fun c _ =>
        .bind (checkCount_breaks form setting items.length) fun _ _ => .ok c
    rintro ⟨j, there, held⟩
    exact held.item there
  | .null => .error rfl
  | .bool _ => .error rfl
  | .int _ => .error rfl
  | .float _ => .error rfl
  | .str _ => .error rfl

theorem decodeMembers_breaks (setting : Setting) (d : Draft) : ∀ members : List (String × Json),
    BreaksOnlyIf DocumentError.isBreakdown (∃ m ∈ members, m.2.Mentions IdOverruns)
      (decodeMembers setting d members)
  | [] => .ok d
  | (name, j) :: rest => by
    rw [decodeMembers]
    split
    · refine .bind (.head ?_ rest) fun d _ => .tail (decodeMembers_breaks setting d rest) _
      exact putTrustModel_breaks (decodeEntries_sturdy setting j) d
    · refine .bind (.head ?_ rest) fun d _ => .tail (decodeMembers_breaks setting d rest) _
      exact put_sturdy setting d name j

theorem decodeItems_breaks (setting : Setting) (d : Draft) : ∀ (names : List String)
    (items : List Json), BreaksOnlyIf DocumentError.isBreakdown (∃ j ∈ items, j.Mentions IdOverruns)
      (decodeItems setting d names items)
  | name :: names, j :: rest => by
    rw [decodeItems]
    split
    · exact .bind (.head (putTrustModel_breaks (decodeEntries_sturdy setting j) d) rest)
        fun d _ => .tail (decodeItems_breaks setting d names rest) _
    · exact .bind (.head (put_sturdy setting d name j) rest)
        fun d _ => .tail (decodeItems_breaks setting d names rest) _
  | [], _ => by
    rw [decodeItems]
    exact .ok d
    nofun
  | _ :: _, [] => .ok d

theorem decodeEntries_sturdy (setting : Setting) : ∀ j : Json,
    BreaksOnlyIf DocumentError.isBreakdown (j.Mentions IdOverruns) (decodeEntries setting j)
  | .arr items => by
    rw [decodeEntries]
    refine (decodeAllEntries_breaks setting items).mono ?_
    rintro ⟨j, there, held⟩
    exact held.item there
  | .null => .error rfl
  | .bool _ => .error rfl
  | .int _ => .error rfl
  | .float _ => .error rfl
  | .str _ => .error rfl
  | .obj _ => .error rfl

theorem decodeAllEntries_breaks (setting : Setting) : ∀ items : List Json,
    BreaksOnlyIf DocumentError.isBreakdown (∃ j ∈ items, j.Mentions IdOverruns)
      (decodeAllEntries setting items)
  | [] => .ok []
  | j :: rest => by
    rw [decodeAllEntries]
    exact .bind (.head (decodeEntry_sturdy setting j) rest) fun _ _ =>
      .bind (.tail (decodeAllEntries_breaks setting rest) j) fun _ _ => .ok _

theorem decodeEntry_sturdy (setting : Setting) : ∀ j : Json,
    BreaksOnlyIf DocumentError.isBreakdown (j.Mentions IdOverruns) (decodeEntry setting j)
  | .obj members => by
    rw [decodeEntry]
    refine .bind (findKind_breaks setting none members) fun kind _ => ?_
    cases kind with
    | legitimation =>
      refine .bind ((decodeLegitimationMembers_breaks {} members).mono ?_) fun d _ =>
        .bind (require_breaks (fun _ => rfl) _ d.id) fun _ _ => .ok _
      rintro ⟨m, there, held⟩
      exact held.member there
    | delegation =>
      refine .bind (.foldlM (fun m there d => ?_) _) fun d _ =>
        .bind (require_breaks (fun _ => rfl) _ d.id) fun _ _ => .ok _
      have present := List.mem_of_mem_filter there
      exact (delegation_sturdy d m.1 m.2).mono fun held => held.member present
  | .arr [] => .error rfl
  | .arr (kind :: items) => by
    rw [decodeEntry]
    refine .bind (decodeKind_breaks setting kind) fun kind _ => ?_
    cases kind with
    | legitimation =>
      refine .bind ((decodeLegitimationItems_breaks items).mono ?_) fun d _ =>
        .bind (.bind (require_breaks (fun _ => rfl) _ d.id) fun _ _ => .ok _) fun e _ =>
          .bind (checkCount_breaks _ .setAside items.length) fun _ _ => .ok e
      rintro ⟨j, there, held⟩
      exact held.item (List.mem_cons_of_mem _ there)
    | delegation =>
      refine (record_sturdy delegation_sturdy (fun absent d refused => ?_) (.arr items)).mono ?_
      · exact .bind (require_breaks refused _ d.id) fun _ _ => .ok _
      · exact fun held => held.cons kind
  | .null => .error rfl
  | .bool _ => .error rfl
  | .int _ => .error rfl
  | .float _ => .error rfl
  | .str _ => .error rfl

theorem decodeLegitimationMembers_breaks (d : LegitimationDraft) :
    ∀ members : List (String × Json), BreaksOnlyIf DocumentError.isBreakdown
      (∃ m ∈ members, m.2.Mentions IdOverruns) (decodeLegitimationMembers d members)
  | [] => .ok d
  | (name, j) :: rest => by
    rw [decodeLegitimationMembers]
    split
    · refine .bind (.head ?_ rest) fun _ _ => .tail (decodeLegitimationMembers_breaks _ rest) _
      exact fill_sturdy credentialId_sturdy name d.id j
    · split
      · refine .bind (.head ?_ rest) fun d _ => .tail (decodeLegitimationMembers_breaks d rest) _
        exact putCredential_breaks (nullOr_breaks (decodeIn_sturdy .setAside j) j) d
      · exact .tail (decodeLegitimationMembers_breaks d rest) _

theorem decodeLegitimationItems_breaks : ∀ items : List Json,
    BreaksOnlyIf DocumentError.isBreakdown (∃ j ∈ items, j.Mentions IdOverruns)
      (decodeLegitimationItems items)
  | [] => by
    rw [decodeLegitimationItems]
    exact .ok _
  | [id] => by
    rw [decodeLegitimationItems]
    exact .bind (.head (credentialId_sturdy id) []) fun _ _ => .ok _
  | id :: c :: rest => by
    rw [decodeLegitimationItems]
    exact .bind (.head (credentialId_sturdy id) _) fun _ _ =>
      .bind (.tail (.head (nullOr_breaks (decodeIn_sturdy .setAside c) c) rest) id)
        fun _ _ => .ok _

end

end VerifiableCredential

end SelectiveDisclosure
