import SelectiveDisclosure.Proofs.Consistency
import SelectiveDisclosure.Proofs.IdentifierSpelling

/-!
The texts that are read as chain ids and as ids of attestations on a chain, by their parts. Lengths
are counted in characters here and in bytes where the rules are checked; both counts agree once all
characters are allowed ones. The grammar sets no limit to the length of a root hash in base 58: the
limit that is checked follows from the number of its bytes.
-/

namespace SelectiveDisclosure

open Outcome

structure Text.Word (least most : Nat) (isAllowed : Char → Prop) (s : String) : Prop where
  least_le : least ≤ s.length
  le_most : s.length ≤ most
  allowed : ∀ c ∈ s.toList, isAllowed c

theorem Hex.encode_injective {a b : List UInt8} (same : encode a = encode b) : a = b := by
  have read := congrArg decodeMarked (congrArg ("0x" ++ ·) same)
  change decodeMarked (encodeMarked a) = decodeMarked (encodeMarked b) at read
  rw [decodeMarked_encodeMarked, decodeMarked_encodeMarked] at read
  exact Except.ok.inj read

namespace ChainId

def SpaceChar (c : Char) : Prop := 'a' ≤ c ∧ c ≤ 'z' ∨ '0' ≤ c ∧ c ≤ '9' ∨ c = '-'

def ReferenceChar (c : Char) : Prop := 'A' ≤ c ∧ c ≤ 'Z' ∨ c = '_' ∨ SpaceChar c

/-- The parts that a chain id has by its grammar. -/
structure Parts where
  space : String
  reference : String
  space_word : Text.Word 3 8 SpaceChar space
  reference_word : Text.Word 1 32 ReferenceChar reference

def Parts.text (p : Parts) : String := p.space ++ ":" ++ p.reference

theorem isLower_iff (c : Char) : c.isLower ↔ 'a' ≤ c ∧ c ≤ 'z' :=
  Bool.and_eq_true_iff.trans (and_congr decide_eq_true_iff decide_eq_true_iff)

theorem isUpper_iff (c : Char) : c.isUpper ↔ 'A' ≤ c ∧ c ≤ 'Z' := decide_eq_true_iff

theorem isDigit_iff (c : Char) : c.isDigit ↔ '0' ≤ c ∧ c ≤ '9' :=
  Bool.and_eq_true_iff.trans (and_congr decide_eq_true_iff decide_eq_true_iff)

theorem spaceChar_iff (c : Char) : (c.isLower || c.isDigit || c = '-') ↔ SpaceChar c := by
  simp only [Bool.or_eq_true, decide_eq_true_eq, isLower_iff, isDigit_iff, SpaceChar, or_assoc]

theorem isReferenceChar_iff (c : Char) : isReferenceChar c ↔ ReferenceChar c := by
  change (c.isUpper || c.isLower || c.isDigit || c = '-' || c = '_') = true ↔ _
  simp only [Bool.or_eq_true, decide_eq_true_eq, isUpper_iff, isLower_iff, isDigit_iff,
    ReferenceChar, SpaceChar]
  tauto

theorem ascii_of_le {c : Char} (below : c ≤ 'z') : c.toNat < 128 := by
  have numbers : c.toNat ≤ 'z'.toNat := UInt32.le_iff_toNat_le.mp (Char.le_def.mp below)
  exact Nat.lt_of_le_of_lt numbers (by decide)

theorem SpaceChar.ascii {c : Char} (allowed : SpaceChar c) : c.toNat < 128 := by
  rcases allowed with ⟨_, below⟩ | ⟨_, below⟩ | rfl
  · exact ascii_of_le below
  · exact ascii_of_le (Char.le_trans below (by decide))
  · decide

theorem ReferenceChar.ascii {c : Char} (allowed : ReferenceChar c) : c.toNat < 128 := by
  rcases allowed with ⟨_, below⟩ | rfl | space
  · exact ascii_of_le (Char.le_trans below (by decide))
  · decide
  · exact space.ascii

theorem byteCount_ascii {cs : List Char} (ascii : ∀ c ∈ cs, c.toNat < 128) :
    byteCount cs = cs.length := by
  rw [← length_utf8, utf8_ofList_ascii ascii, List.length_map]

/-- The bounds on the number of bytes are those on the number of characters. -/
theorem word_iff {least most : Nat} {allows : Char → Bool} {isAllowed : Char → Prop} {s : String}
    (same : ∀ c, allows c ↔ isAllowed c) (ascii : ∀ c, isAllowed c → c.toNat < 128) :
    (least ≤ byteCount s.toList ∧ byteCount s.toList ≤ most ∧ s.toList.all allows)
      ↔ Text.Word least most isAllowed s := by
  constructor
  · rintro ⟨long, short, all⟩
    have allowed : ∀ c ∈ s.toList, isAllowed c := by
      intro c there
      exact (same c).mp (List.all_eq_true.mp all c there)
    rw [byteCount_ascii fun c there => ascii c (allowed c there)] at long short
    exact ⟨long, short, allowed⟩
  · rintro ⟨long, short, allowed⟩
    rw [byteCount_ascii fun c there => ascii c (allowed c there)]
    refine ⟨long, short, List.all_eq_true.mpr ?_⟩
    intro c there
    exact (same c).mpr (allowed c there)

theorem spaceFault?_eq_none_iff (s : String) :
    spaceFault? s.toList = none ↔ Text.Word 3 8 SpaceChar s := by
  rw [← word_iff spaceChar_iff fun c => SpaceChar.ascii, spaceFault?]
  grind

theorem referenceFault?_eq_none_iff (s : String) :
    referenceFault? 32 isReferenceChar s.toList = none ↔ Text.Word 1 32 ReferenceChar s := by
  rw [← word_iff isReferenceChar_iff fun c => ReferenceChar.ascii, referenceFault?]
  grind

theorem fault?_eq_none_iff (space reference : String) :
    fault? space.toList reference.toList = none
      ↔ Text.Word 3 8 SpaceChar space ∧ Text.Word 1 32 ReferenceChar reference := by
  rw [fault?, Option.or_eq_none_iff, spaceFault?_eq_none_iff, referenceFault?_eq_none_iff]

def Parts.id (p : Parts) : ChainId :=
  ⟨p.space, p.reference, (fault?_eq_none_iff _ _).mpr ⟨p.space_word, p.reference_word⟩⟩

theorem Parts.toString_id (p : Parts) : p.id.toString = p.text := rfl

theorem exists_parts (id : ChainId) : ∃ p : Parts, p.id = id := by
  obtain ⟨space, reference⟩ := (fault?_eq_none_iff _ _).mp id.faultless
  exact ⟨⟨id.space, id.reference, space, reference⟩, rfl⟩

theorem parse_text (p : Parts) : parse p.text = .ok p.id := parse_toString p.id

theorem exists_parse_iff (s : String) : (∃ id, parse s = .ok id) ↔ ∃ p : Parts, p.text = s := by
  constructor
  · rintro ⟨id, known⟩
    obtain ⟨p, rfl⟩ := exists_parts id
    exact ⟨p, oneSpelling.write_read known⟩
  · rintro ⟨p, rfl⟩
    exact ⟨p.id, parse_text p⟩

/-- Only half of a genesis hash goes into the id of its chain. -/
theorem ofGenesis_eq_iff (a b : Hash256) :
    ofGenesis a = ofGenesis b ↔ a.toList.take 16 = b.toList.take 16 := by
  constructor
  · intro same
    exact Hex.encode_injective (congrArg reference same)
  · intro same
    exact ext rfl (congrArg Hex.encode same)

end ChainId

namespace AttestationStatusId

structure Parts extends ChainId.Parts where
  token : String
  token_decodes : ∃ bytes, Base58.decodeText token = .ok bytes ∧ bytes.length = 32

def Parts.text (p : Parts) : String :=
  p.space ++ ":" ++ p.reference ++ "/kilt:attestation/" ++ p.token

theorem exists_rootHash (p : Parts) : ∃ h : Hash256, Base58.decodeText p.token = .ok h.toList := by
  obtain ⟨bytes, decoded, length⟩ := p.token_decodes
  exact ⟨⟨bytes, length⟩, decoded⟩

theorem toString_of_parts (p : Parts) {h : Hash256}
    (decoded : Base58.decodeText p.token = .ok h.toList) :
    toString ⟨p.toParts.id, h⟩ = p.text := by
  have written : h.toBase58 = p.token :=
    Hash256.oneSpelling.write_read (AttestationProof.ofBase58_ok_iff.mpr decoded)
  rw [toString, written, ChainId.Parts.toString_id, Parts.text, ChainId.Parts.text]
  simp only [String.append_assoc]
  rfl

theorem parse_of_parts (p : Parts) {h : Hash256}
    (decoded : Base58.decodeText p.token = .ok h.toList) :
    parse p.text = .ok ⟨p.toParts.id, h⟩ := by
  rw [← toString_of_parts p decoded, parse_toString]

theorem exists_parse_iff (s : String) : (∃ id, parse s = .ok id) ↔ ∃ p : Parts, p.text = s := by
  constructor
  · rintro ⟨id, known⟩
    obtain ⟨chain, made⟩ := ChainId.exists_parts id.chain
    have decoded : Base58.decodeText id.rootHash.toBase58 = .ok id.rootHash.toList :=
      AttestationProof.ofBase58_ok_iff.mp id.rootHash.ofBase58_toBase58
    let p : Parts := ⟨chain, id.rootHash.toBase58, _, decoded, id.rootHash.length_eq⟩
    refine ⟨p, ?_⟩
    rw [← toString_of_parts p decoded, made]
    exact oneSpelling.write_read known
  · rintro ⟨p, rfl⟩
    obtain ⟨h, decoded⟩ := exists_rootHash p
    exact ⟨_, parse_of_parts p decoded⟩

end AttestationStatusId

/-- Exactly the texts of the grammar are read as ids of attestations, with their parts as namespace,
reference and root hash, and exactly those of its first half as chain ids. Chains with a genesis
hash have the same id exactly if sixteen bytes agree. -/
theorem identifiers_by_grammar :
    (∀ s, (∃ id, AttestationStatusId.parse s = .ok id)
        ↔ ∃ p : AttestationStatusId.Parts, p.text = s)
      ∧ (∀ p : AttestationStatusId.Parts, ∃ id, AttestationStatusId.parse p.text = .ok id
        ∧ id.chain.space = p.space ∧ id.chain.reference = p.reference
        ∧ Base58.decodeText p.token = .ok id.rootHash.toList)
      ∧ (∀ s, (∃ id, ChainId.parse s = .ok id) ↔ ∃ p : ChainId.Parts, p.text = s)
      ∧ (∀ p : ChainId.Parts, ∃ id, ChainId.parse p.text = .ok id
        ∧ id.space = p.space ∧ id.reference = p.reference)
      ∧ ∀ a b : Hash256, ChainId.ofGenesis a = ChainId.ofGenesis b
        ↔ a.toList.take 16 = b.toList.take 16 := by
  refine ⟨AttestationStatusId.exists_parse_iff, ?_, ChainId.exists_parse_iff, ?_,
    ChainId.ofGenesis_eq_iff⟩
  · intro p
    obtain ⟨h, decoded⟩ := AttestationStatusId.exists_rootHash p
    exact ⟨_, AttestationStatusId.parse_of_parts p decoded, rfl, rfl, decoded⟩
  · intro p
    exact ⟨p.id, ChainId.parse_text p, rfl, rfl⟩

end SelectiveDisclosure
