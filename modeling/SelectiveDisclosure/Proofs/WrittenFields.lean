import SelectiveDisclosure.Document
import SelectiveDisclosure.Proofs.MapLookup
import SelectiveDisclosure.Proofs.Outcome
import SelectiveDisclosure.Proofs.SchemaMeaning
import SelectiveDisclosure.Proofs.WrittenBytes

namespace SelectiveDisclosure

namespace Text

variable {mark : Char} {a b : List Char}

theorem cutAt?_append (absent : mark ∉ a) : cutAt? mark (a ++ mark :: b) = some (a, b) := by
  induction a with
  | nil => simp [cutAt?]
  | cons c a ih =>
    rw [List.mem_cons, not_or] at absent
    rw [List.cons_append, cutAt?, if_neg (Ne.symm absent.1), ih absent.2]
    rfl

theorem partsAt_append (absent : mark ∉ a) :
    partsAt mark (a ++ mark :: b) = a :: partsAt mark b := by
  induction a with
  | nil => simp [partsAt]
  | cons c a ih =>
    rw [List.mem_cons, not_or] at absent
    rw [List.cons_append, partsAt, if_neg (Ne.symm absent.1), ih absent.2]

theorem partsAt_of_absent (absent : mark ∉ a) : partsAt mark a = [a] := by
  induction a with
  | nil => rfl
  | cons c a ih =>
    rw [List.mem_cons, not_or] at absent
    rw [partsAt, if_neg (Ne.symm absent.1), ih absent.2]

theorem absent_of_all {isAllowed : Char → Bool} {cs : List Char} (all : cs.all isAllowed)
    {mark : Char} (barred : isAllowed mark = false) : mark ∉ cs := by
  intro there
  have allowed := List.all_eq_true.mp all mark there
  rw [barred] at allowed
  contradiction

theorem behind?_append (head text : String) : behind? head (head ++ text) = some text := by
  rw [behind?, String.toList_append, Schema.isPrefixOf?_eq_some_iff.mpr rfl]
  simp

end Text

theorem CTypeId.parse_toString (id : CTypeId) : parse id.toString = .ok id := by
  rw [parse, toString, Text.behind?_append]
  simp only [id.hash.ofHex_toHex]
  rfl

theorem CredentialId.parse_toString (id : CredentialId) : parse id.toString = .ok id := by
  rw [parse, toString, Text.behind?_append]
  simp only [id.rootHash.ofBase58_toBase58]
  rfl

theorem DelegationId.parse_toString (id : DelegationId) : parse id.toString = .ok id := by
  rw [parse, toString, Text.behind?_append]
  simp only [id.nodeId.ofBase58_toBase58]
  rfl

namespace ChainId

theorem length_utf8 (cs : List Char) : (utf8 (String.ofList cs)).length = byteCount cs :=
  Array.length_toList

theorem absent_of_reference {most : Nat} {isAllowed : Char → Bool} {cs : List Char}
    (clean : referenceFault? most isAllowed cs = none) {mark : Char}
    (barred : isAllowed mark = false) : mark ∉ cs := by
  simp only [referenceFault?] at clean
  split at clean
  · contradiction
  · split at clean
    · contradiction
    · split at clean
      · exact Text.absent_of_all ‹_› barred
      · contradiction

theorem absent_of_space {cs : List Char} (clean : spaceFault? cs = none) {mark : Char}
    (barred : (mark.isLower || mark.isDigit || mark = '-') = false) : mark ∉ cs := by
  rw [spaceFault?] at clean
  split at clean
  · contradiction
  · split at clean
    · contradiction
    · split at clean
      · exact Text.absent_of_all ‹_› barred
      · contradiction

theorem absent (id : ChainId) {mark : Char}
    (barred : (mark.isLower || mark.isDigit || mark = '-') = false)
    (barred' : isReferenceChar mark = false) :
    mark ∉ id.space.toList ∧ mark ∉ id.reference.toList := by
  obtain ⟨space, reference⟩ := Option.or_eq_none_iff.mp id.faultless
  exact ⟨absent_of_space space barred, absent_of_reference reference barred'⟩

theorem toList_toString (id : ChainId) :
    id.toString.toList = id.space.toList ++ ':' :: id.reference.toList := by
  simp [toString]

theorem parse_toString (id : ChainId) : parse id.toString = .ok id := by
  have cut : Text.cutAt? ':' id.toString.toList = some (id.space.toList, id.reference.toList) := by
    rw [toList_toString]
    exact Text.cutAt?_append (id.absent (by decide) (by decide)).1
  unfold parse
  simp only [cut]
  split
  · rename_i rule faulty
    rw [id.faultless] at faulty
    contradiction
  · exact congrArg Except.ok (ext String.ofList_toList String.ofList_toList)

end ChainId

theorem Base58.exists_digits (bytes : List UInt8) : ∃ ds : List Nat, (∀ d ∈ ds, d < 58)
    ∧ ds.length ≤ 2 * bytes.length ∧ encode bytes = String.ofList (ds.map digitChar) := by
  have zeros : (bytes.takeWhile (· == 0)).length ≤ bytes.length :=
    (List.takeWhile_sublist _).length_le
  refine ⟨_, ?_, ?_, rfl⟩
  · refine Radix.padded_small _ ?_ (by decide)
    intro d there
    exact Radix.digits_lt 58 (by decide) _ _ d ((List.dropWhile_sublist _).subset there)
  · have digits := (List.dropWhile_sublist (· == 0) (l := Radix.digits 58
      (2 * (bytes.drop (bytes.takeWhile (· == 0)).length).length)
      (Radix.value 256 ((bytes.drop (bytes.takeWhile (· == 0)).length).map
        UInt8.toNat)))).length_le
    rw [Radix.length_digits, List.length_drop] at digits
    rw [List.length_append, List.length_replicate, List.length_drop]
    omega

namespace AttestationStatusId

theorem token_faultless (h : Hash256) :
    ChainId.referenceFault? 78 isAssetChar h.toBase58.toList = none := by
  obtain ⟨ds, small, short, written⟩ := Base58.exists_digits h.toList
  have count : ChainId.byteCount (ds.map Base58.digitChar) = ds.length := by
    rw [← ChainId.length_utf8, Base58.utf8_digits small, List.length_map]
  have some : ds ≠ [] := by
    rintro rfl
    exact Base58.encode_fixed_ne (by decide) (by decide) h written
  have positive := List.length_pos_iff.mpr some
  have digit : ∀ d < 58, isAssetChar (Base58.digitChar d) := by decide +kernel
  have all : (ds.map Base58.digitChar).all isAssetChar := by
    rw [List.all_eq_true]
    intro c there
    obtain ⟨d, member, rfl⟩ := List.mem_map.mp there
    exact digit d (small d member)
  rw [h.length_eq] at short
  rw [Hash256.toBase58, written, String.toList_ofList, ChainId.referenceFault?, count,
    if_neg (by omega), if_neg (by omega), if_pos all]

theorem asset_faultless : assetFault? assetSpace.toList assetReference.toList = none := by
  decide +kernel

theorem parse_toString (id : AttestationStatusId) : parse id.toString = .ok id := by
  have token := token_faultless id.rootHash
  have chain : '/' ∉ id.chain.toString.toList := by
    obtain ⟨space, reference⟩ : '/' ∉ id.chain.space.toList ∧ '/' ∉ id.chain.reference.toList :=
      id.chain.absent (by decide) (by decide)
    rw [ChainId.toList_toString, List.mem_append, List.mem_cons, not_or, not_or]
    exact ⟨space, by decide, reference⟩
  have asset : '/' ∉ assetSpace.toList ++ ':' :: assetReference.toList := by decide +kernel
  have parts : Text.partsAt '/' id.toString.toList = [id.chain.toString.toList,
      assetSpace.toList ++ ':' :: assetReference.toList, id.rootHash.toBase58.toList] := by
    have split : id.toString.toList = id.chain.toString.toList
        ++ '/' :: ((assetSpace.toList ++ ':' :: assetReference.toList)
          ++ '/' :: id.rootHash.toBase58.toList) := by
      simp [toString]
    rw [split, Text.partsAt_append chain, Text.partsAt_append asset,
      Text.partsAt_of_absent (ChainId.absent_of_reference token (by decide))]
  have cut : Text.cutAt? ':' (assetSpace.toList ++ ':' :: assetReference.toList)
      = some (assetSpace.toList, assetReference.toList) :=
    Text.cutAt?_append (by decide +kernel)
  rw [parse]
  simp only [parts, cut, asset_faultless, token, String.ofList_toList,
    ChainId.parse_toString, Hash256.ofBase58_toBase58]
  rfl

end AttestationStatusId

theorem Hash256.ofText_toHex (h : Hash256) : ofText h.toHex = .ok h :=
  Outcome.mapError_ok_iff.mpr h.ofHex_toHex

namespace Decoder

variable {α : Type}

theorem read_written {parse : String → Except TextError α} {text : String} {a : α}
    (read : parse text = .ok a) : Json.Decoder.read parse (.str text) = .ok a := by
  rw [Json.Decoder.read, Json.Decoder.string, Outcome.ok_bind, read]
  rfl

theorem hash_written (h : Hash256) : hash (.ofText h) = .ok h := read_written h.ofText_toHex

theorem did_written (d : Did) : did (.ofText d) = .ok d :=
  read_written (Outcome.mapError_ok_iff.mpr d.parse_text)

theorem ctypeId_written (id : CTypeId) : ctypeId (.ofText id) = .ok id :=
  read_written (Outcome.mapError_ok_iff.mpr id.parse_toString)

theorem credentialId_written (id : CredentialId) : credentialId (.ofText id) = .ok id :=
  read_written (Outcome.mapError_ok_iff.mpr id.parse_toString)

theorem delegationId_written (id : DelegationId) : delegationId (.ofText id) = .ok id :=
  read_written (Outcome.mapError_ok_iff.mpr id.parse_toString)

theorem statusId_written (id : AttestationStatusId) : statusId (.ofText id) = .ok id :=
  read_written (Outcome.mapError_ok_iff.mpr id.parse_toString)

theorem string_written (s : String) : (Json.Decoder.string : Decoder _) (.str s) = .ok s := rfl

theorem boolean_written (b : Bool) : (Json.Decoder.boolean : Decoder _) (.bool b) = .ok b := rfl

theorem members_written (m : OrderedMap String Json) :
    (Json.Decoder.members : Decoder _) (.ofMap m) = .ok m := by
  rw [Json.ofMap, Json.Decoder.members, m.ofList_entries]

theorem list_written {item : Decoder α} {write : α → Json} {as : List α}
    (each : ∀ a ∈ as, item (write a) = .ok a) :
    Json.Decoder.list item (.arr (as.map write)) = .ok as := by
  rw [Json.Decoder.list, Outcome.mapM_ok_iff, List.forall₂_map_left_iff, List.forall₂_same]
  exact each

theorem optional_written {item : Decoder α} {j : Json} {a : α} (read : item j = .ok a)
    (present : j ≠ .null) : Json.Decoder.optional item j = .ok (some a) := by
  cases j with
  | null => contradiction
  | _ =>
    rw [Json.Decoder.optional, read]
    · rfl
    · exact present

theorem optionalHash_written (h : Option Hash256) :
    Json.Decoder.optional hash (.ofOption .ofText h) = .ok h := by
  cases h with
  | none => rfl
  | some h => exact optional_written (hash_written h) nofun

theorem word_written (n : UInt64) : (Json.Decoder.word : Decoder _) (.int n.toNat) = .ok n := by
  have small : (n.toNat : Int) < Int.pow 2 64 := Int.ofNat_lt.mpr n.toNat_lt
  rw [Json.Decoder.word, decide_eq_true (Int.natCast_nonneg _), decide_eq_true small,
    Bool.and_self, if_pos rfl, Int.toNat_natCast, UInt64.ofNat_toNat]

section Map

variable {κ : Type} [LT κ] [DecidableLT κ] [Trans (α := κ) (· < ·) (· < ·) (· < ·)]
  [Std.Trichotomous (α := κ) (· < ·)] {name : κ → String} {key : String → Except TextError κ}
  {write : α → Json} {value : Decoder α}

theorem insertMember_written {k : κ} {a : α} (nameRead : key (name k) = .ok k)
    (valueRead : value (write a) = .ok a) (m : OrderedMap κ α) :
    Json.Decoder.insertMember key value m (name k, write a) = .ok (m.insert k a) := by
  rw [Json.Decoder.insertMember, nameRead, valueRead]
  rfl

theorem map_written [DecidableEq κ] [Std.Irrefl (α := κ) (· < ·)]
    (names : ∀ k, key (name k) = .ok k)
    (values : ∀ a, value (write a) = .ok a) (m : OrderedMap κ α) :
    Json.Decoder.map key value (.ofMapWith name write m) = .ok m := by
  have inserted (es : List (κ × α)) (start : OrderedMap κ α) :
      (es.map fun e => (name e.1, write e.2)).foldlM (Json.Decoder.insertMember key value) start
        = .ok (es.foldl (fun m e => m.insert e.1 e.2) start) := by
    induction es generalizing start with
    | nil => rfl
    | cons e es ih =>
      rw [List.map_cons, List.foldlM_cons, insertMember_written (names e.1) (values e.2),
        Outcome.ok_bind, ih, List.foldl_cons]
  rw [Json.ofMapWith, Json.Decoder.map, inserted]
  exact congrArg Except.ok m.ofList_entries

end Map

theorem fill_written {item : Decoder α} {j : Json} {a : α} (read : item j = .ok a)
    (name : String) : Json.Decoder.fill name none item j = .ok (some a) := by
  rw [Json.Decoder.fill, read]
  rfl

theorem fill_free {ρ : Type} {slot : Option α} {item : Decoder α} {j : Json} {a : α}
    (free : slot = none) (read : item j = .ok a) (name : String) (place : Option α → ρ) :
    (do return place (← Json.Decoder.fill name slot item j))
      = (.ok (place (some a)) : Except DocumentError ρ) := by
  rw [free, fill_written read]
  rfl

end Decoder

end SelectiveDisclosure
