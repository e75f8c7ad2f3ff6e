import SelectiveDisclosure.Proofs.OneSpelling
import SelectiveDisclosure.Proofs.WrittenFields

namespace SelectiveDisclosure

open Outcome

/-- Values are read as they were written, and every text that can be read is the written form of
its value, so that there is no second one. -/
structure OneSpelling {ε α : Type} (read : String → Except ε α) (write : α → String) : Prop where
  read_write (a : α) : read (write a) = .ok a
  write_read {s : String} {a : α} (known : read s = .ok a) : write a = s
  unique {s t : String} {a : α} (one : read s = .ok a) (other : read t = .ok a) : s = t

/-- Values are read as they were written, and every text that can be read is the written form of
its value but for the case of the digits behind a fixed beginning. -/
structure EitherCase {ε α : Type} (head : String) (read : String → Except ε α)
    (write : α → String) : Prop where
  read_write (a : α) : read (write a) = .ok a
  read_iff (s : String) (a : α) : read s = .ok a ↔
    ∃ digits : String, s = head ++ digits ∧ write a = head ++ digits.toLower

theorem OneSpelling.of_inverse {ε α : Type} {read : String → Except ε α} {write : α → String}
    (read_write : ∀ a, read (write a) = .ok a)
    (write_read : ∀ s a, read s = .ok a → write a = s) : OneSpelling read write where
  read_write := read_write
  write_read {s a} known := write_read s a known
  unique {s t a} one other := (write_read s a one).symm.trans (write_read t a other)

section Behind

theorem Text.behind?_eq_some_iff {head text rest : String} :
    behind? head text = some rest ↔ text = head ++ rest := by
  constructor
  · intro found
    obtain ⟨cs, cut, rfl⟩ := Option.map_eq_some_iff.mp found
    apply String.toList_injective
    rw [String.toList_append, String.toList_ofList]
    exact Schema.isPrefixOf?_eq_some_iff.mp cut
  · rintro rfl
    exact behind?_append head rest

variable {ε δ α β : Type} {head : String} {read : String → Except ε α} {write : α → String}
  {wrap : α → β} {cause : ε → δ} {missing : String → δ} {text : β → String}

def Text.readBehind (head : String) (read : String → Except ε α) (wrap : α → β) (cause : ε → δ)
    (missing : String → δ) (s : String) : Except δ β :=
  match behind? head s with
  | some rest => ((read rest).map wrap).mapError cause
  | none => .error (missing s)

theorem Text.readBehind_ok_iff {s : String} {b : β} :
    readBehind head read wrap cause missing s = .ok b
      ↔ ∃ rest a, s = head ++ rest ∧ read rest = .ok a ∧ wrap a = b := by
  constructor
  · intro known
    rw [readBehind] at known
    split at known
    · rename_i rest found
      obtain ⟨a, restRead, made⟩ := map_ok_iff.mp (mapError_ok_iff.mp known)
      exact ⟨rest, a, behind?_eq_some_iff.mp found, restRead, made⟩
    · contradiction
  · rintro ⟨rest, a, rfl, restRead, made⟩
    rw [readBehind, behind?_append]
    exact mapError_ok_iff.mpr (map_ok_iff.mpr ⟨a, restRead, made⟩)

theorem OneSpelling.behind (one : OneSpelling read write) (whole : Function.Surjective wrap)
    (written : ∀ a, text (wrap a) = head ++ write a) :
    OneSpelling (Text.readBehind head read wrap cause missing) text := by
  refine .of_inverse ?_ ?_
  · intro b
    obtain ⟨a, rfl⟩ := whole b
    exact Text.readBehind_ok_iff.mpr ⟨write a, a, written a, one.read_write a, rfl⟩
  · intro s b known
    obtain ⟨rest, a, rfl, restRead, rfl⟩ := Text.readBehind_ok_iff.mp known
    rw [written, one.write_read restRead]

theorem EitherCase.behind {mark : String} (either : EitherCase mark read write)
    (whole : Function.Surjective wrap) (written : ∀ a, text (wrap a) = head ++ write a) :
    EitherCase (head ++ mark) (Text.readBehind head read wrap cause missing) text where
  read_write b := by
    obtain ⟨a, rfl⟩ := whole b
    exact Text.readBehind_ok_iff.mpr ⟨write a, a, written a, either.read_write a, rfl⟩
  read_iff s b := by
    constructor
    · intro known
      obtain ⟨rest, a, rfl, restRead, rfl⟩ := Text.readBehind_ok_iff.mp known
      obtain ⟨digits, rfl, lower⟩ := (either.read_iff rest a).mp restRead
      exact ⟨digits, String.append_assoc.symm, by rw [written, lower, String.append_assoc]⟩
    · rintro ⟨digits, rfl, lower⟩
      obtain ⟨a, rfl⟩ := whole b
      rw [written, String.append_assoc, String.append_right_inj] at lower
      exact Text.readBehind_ok_iff.mpr ⟨mark ++ digits, a, String.append_assoc,
        (either.read_iff _ a).mpr ⟨digits, rfl, lower⟩, rfl⟩

end Behind

theorem Hash256.oneSpelling : OneSpelling ofBase58 toBase58 := by
  refine .of_inverse ofBase58_toBase58 ?_
  intro s h known
  obtain ⟨bytes, decoded, fits⟩ := bind_ok_iff.mp known
  obtain rfl := FixedBytes.ofList_ok_iff.mp fits
  exact Base58.encode_of_decodeText decoded

theorem CredentialId.oneSpelling : OneSpelling parse toString :=
  Hash256.oneSpelling.behind (fun id => ⟨id.rootHash, rfl⟩) fun _ => rfl

theorem DelegationId.oneSpelling : OneSpelling parse toString :=
  Hash256.oneSpelling.behind (fun id => ⟨id.nodeId, rfl⟩) fun _ => rfl

theorem Text.partsAt_ne_nil (mark : Char) (cs : List Char) : partsAt mark cs ≠ [] := by
  cases cs with
  | nil => exact List.cons_ne_nil _ _
  | cons c cs =>
    rw [partsAt]
    split
    · exact List.cons_ne_nil _ _
    · split <;> exact List.cons_ne_nil _ _

theorem Text.intercalate_partsAt (mark : Char) (cs : List Char) :
    [mark].intercalate (partsAt mark cs) = cs := by
  induction cs with
  | nil => rfl
  | cons c cs ih =>
    obtain ⟨part, parts, rest⟩ := List.exists_cons_of_ne_nil (partsAt_ne_nil mark cs)
    rw [rest] at ih
    rw [partsAt, rest]
    split
    · rename_i same
      rw [List.intercalate_cons_cons, ih, same]
      rfl
    · cases parts with
      | nil =>
        rw [List.intercalate_singleton] at ih ⊢
        rw [ih]
      | cons next parts =>
        rw [List.intercalate_cons_cons] at ih ⊢
        rw [← ih]
        rfl

theorem ChainId.oneSpelling : OneSpelling parse toString := by
  refine .of_inverse parse_toString ?_
  intro s id known
  unfold parse at known
  split at known
  · contradiction
  · rename_i space reference cut
    split at known
    · contradiction
    · obtain rfl := Except.ok.inj known
      apply String.toList_injective
      rw [toList_toString, String.toList_ofList, String.toList_ofList]
      exact (Text.cutAt?_eq_some cut).1.symm

namespace AttestationStatusId

theorem asset_of_faultless {space reference : List Char}
    (faultless : assetFault? space reference = none) :
    space = assetSpace.toList ∧ reference = assetReference.toList := by
  obtain ⟨_, others⟩ := Option.or_eq_none_iff.mp faultless
  obtain ⟨_, named⟩ := Option.or_eq_none_iff.mp others
  by_contra other
  rw [if_neg (by simpa using other)] at named
  contradiction

theorem parts_of_parse {s : String} {id : AttestationStatusId} (known : parse s = .ok id) :
    ∃ token, Text.partsAt '/' s.toList = [id.chain.toString.toList,
        assetSpace.toList ++ ':' :: assetReference.toList, token]
      ∧ Hash256.ofBase58 (String.ofList token) = .ok id.rootHash := by
  rw [parse] at known
  split at known
  · rename_i chain asset token parts
    obtain ⟨chainId, chainRead, known⟩ := bind_ok_iff.mp known
    split at known
    · contradiction
    · rename_i space reference cut
      split at known
      · contradiction
      · rename_i faultless
        obtain ⟨h, tokenRead, made⟩ := bind_ok_iff.mp known
        obtain rfl := pure_ok_iff.mp made
        obtain ⟨rfl, rfl⟩ := asset_of_faultless (Option.or_eq_none_iff.mp faultless).1
        refine ⟨token, ?_, mapError_ok_iff.mp tokenRead⟩
        rw [parts, (Text.cutAt?_eq_some cut).1, ChainId.oneSpelling.write_read chainRead,
          String.toList_ofList]
  · contradiction

theorem oneSpelling : OneSpelling parse toString := by
  refine .of_inverse parse_toString ?_
  intro s id known
  obtain ⟨token, parts, tokenRead⟩ := parts_of_parse known
  have joined := Text.intercalate_partsAt '/' s.toList
  rw [parts] at joined
  apply String.toList_injective
  rw [← joined, toString, Hash256.oneSpelling.write_read tokenRead]
  simp [List.intercalate, List.intersperse]

end AttestationStatusId

namespace Hex

/-- The characters that are read as a digit are those whose lowercase form is the digit. -/
theorem toLower_eq_digitChar_iff {n : Nat} (ascii : n < 128) {v : UInt8} (small : v < 16) :
    (Char.ofNat n).toLower = digitChar v ↔ digitValue? (UInt8.ofNat n) = some v := by
  have table : ∀ n < 128, ∀ v < 16, (Char.ofNat n).toLower = digitChar (UInt8.ofNat v)
      ↔ digitValue? (UInt8.ofNat n) = some (UInt8.ofNat v) := by decide +kernel
  simpa using table n ascii v.toNat small

theorem small_of_digitValue? {b v : UInt8} (known : digitValue? b = some v) :
    b.toNat < 128 ∧ v < 16 := by
  have table : ∀ n < 256, (digitValue? (UInt8.ofNat n)).all fun v => n < 128 && v < 16 := by
    decide +kernel
  simpa [known] using table b.toNat b.toNat_lt

theorem pair_of_digits {h l : UInt8} (high : h < 16) (low : l < 16) :
    pair (h <<< 4 ||| l) = [digitChar h, digitChar l] := by
  have table : ∀ h < 16, ∀ l < 16, pair (UInt8.ofNat h <<< 4 ||| UInt8.ofNat l)
      = [digitChar (UInt8.ofNat h), digitChar (UInt8.ofNat l)] := by decide +kernel
  simpa using table h.toNat high l.toNat low

theorem nibbles_small (b : UInt8) : b >>> 4 < 16 ∧ b &&& 0xF < 16 := by
  have table : ∀ n < 256, UInt8.ofNat n >>> 4 < 16 ∧ UInt8.ofNat n &&& 0xF < 16 := by
    decide +kernel
  simpa using table b.toNat b.toNat_lt

theorem digitChar_ascii {v : UInt8} (small : v < 16) : (digitChar v).toNat < 128 := by
  have table : ∀ v < 16, (digitChar (UInt8.ofNat v)).toNat < 128 := by decide +kernel
  simpa using table v.toNat small

theorem ascii_of_toLower {c : Char} (lower : c.toLower.toNat < 128) : c.toNat < 128 := by
  by_cases upper : c.val ≥ 'A'.val ∧ c.val ≤ 'Z'.val
  · exact Nat.lt_of_le_of_lt (UInt32.le_iff_toNat_le.mp upper.2) (by decide)
  · have same : c.toLower = c := dif_neg upper
    rwa [same] at lower

theorem digit_of_toLower {c : Char} {v : UInt8} (small : v < 16) (lower : c.toLower = digitChar v) :
    c.toNat < 128 ∧ digitValue? (UInt8.ofNat c.toNat) = some v := by
  have ascii : c.toNat < 128 := ascii_of_toLower (lower ▸ digitChar_ascii small)
  exact ⟨ascii, (toLower_eq_digitChar_iff ascii small).mp (by rwa [Char.ofNat_toNat])⟩

theorem toLower_of_digit {b v : UInt8} (known : digitValue? b = some v) :
    (Char.ofNat b.toNat).toLower = digitChar v := by
  obtain ⟨ascii, small⟩ := small_of_digitValue? known
  exact (toLower_eq_digitChar_iff ascii small).mpr (by rwa [UInt8.ofNat_toNat])

theorem decodeFrom_of_toLower {cs : List Char} {bytes : List UInt8}
    (lower : cs.map Char.toLower = bytes.flatMap pair) (position : Nat) :
    (∀ c ∈ cs, c.toNat < 128)
      ∧ decodeFrom position (cs.map fun c => UInt8.ofNat c.toNat) = .ok bytes := by
  induction bytes generalizing cs position with
  | nil =>
    obtain rfl := List.map_eq_nil_iff.mp lower
    exact ⟨List.forall_mem_nil _, rfl⟩
  | cons b bytes ih =>
    obtain ⟨high, cs, rfl, highLower, rest⟩ := List.map_eq_cons_iff.mp lower
    obtain ⟨low, cs, rfl, lowLower, rest⟩ := List.map_eq_cons_iff.mp rest
    obtain ⟨highAscii, highRead⟩ := digit_of_toLower (nibbles_small b).1 highLower
    obtain ⟨lowAscii, lowRead⟩ := digit_of_toLower (nibbles_small b).2 lowLower
    obtain ⟨ascii, restRead⟩ := ih rest (position + 2)
    refine ⟨?_, ?_⟩
    · exact List.forall_mem_cons.mpr ⟨highAscii, List.forall_mem_cons.mpr ⟨lowAscii, ascii⟩⟩
    · simp only [List.map_cons, decodeFrom, highRead, lowRead, restRead]
      rw [map_ok_iff]
      exact ⟨bytes, rfl, by rw [(pair_written b).2.2.2]⟩

theorem toLower_of_decodeFrom {text bytes : List UInt8} {position : Nat}
    (known : decodeFrom position text = .ok bytes) :
    (∀ b ∈ text, b.toNat < 128)
      ∧ (text.map fun b => (Char.ofNat b.toNat).toLower) = bytes.flatMap pair := by
  induction position, text using decodeFrom.induct generalizing bytes with
  | case1 position high low rest unread =>
    simp only [decodeFrom, unread] at known
    contradiction
  | case2 position high low rest h lowUnread highRead =>
    simp only [decodeFrom, highRead, lowUnread] at known
    contradiction
  | case3 position high low rest h l lowRead highRead ih =>
    simp only [decodeFrom, highRead, lowRead] at known
    obtain ⟨bytes, restRead, rfl⟩ := map_ok_iff.mp known
    obtain ⟨ascii, lower⟩ := ih restRead
    obtain ⟨highAscii, highSmall⟩ := small_of_digitValue? highRead
    obtain ⟨lowAscii, lowSmall⟩ := small_of_digitValue? lowRead
    refine ⟨?_, ?_⟩
    · exact List.forall_mem_cons.mpr ⟨highAscii, List.forall_mem_cons.mpr ⟨lowAscii, ascii⟩⟩
    · rw [List.flatMap_cons, pair_of_digits highSmall lowSmall, List.map_cons, List.map_cons, lower,
        toLower_of_digit highRead, toLower_of_digit lowRead]
      rfl
  | case4 position b => contradiction
  | case5 position =>
    obtain rfl := Except.ok.inj known
    exact ⟨List.forall_mem_nil _, rfl⟩

theorem toList_toLower (s : String) : s.toLower.toList = s.toList.map Char.toLower :=
  String.toList_map

theorem utf8_of_ascii {text : List UInt8} (ascii : ∀ b ∈ text, b.toNat < 128) :
    utf8 (String.ofList (text.map fun b => Char.ofNat b.toNat)) = text := by
  have same : ∀ n < 128, (Char.ofNat n).toNat = n := by decide +kernel
  rw [utf8_ofList_ascii, List.map_map]
  · refine (List.map_congr_left ?_).trans (List.map_id _)
    intro b there
    simp [same b.toNat (ascii b there)]
  · intro c there
    obtain ⟨b, member, rfl⟩ := List.mem_map.mp there
    rw [same b.toNat (ascii b member)]
    exact ascii b member

theorem decodeMarked_ok_iff (s : String) (bytes : List UInt8) : decodeMarked s = .ok bytes ↔
    ∃ digits : String, s = "0x" ++ digits ∧ encodeMarked bytes = "0x" ++ digits.toLower := by
  constructor
  · intro known
    rw [decodeMarked] at known
    split at known
    · rename_i text marked
      have known := mapError_ok_iff.mp known
      rw [decode] at known
      split at known
      · contradiction
      · obtain ⟨ascii, lower⟩ := toLower_of_decodeFrom known
        refine ⟨String.ofList (text.map fun b => Char.ofNat b.toNat), ?_, ?_⟩
        · apply utf8_injective
          rw [marked, utf8_append, utf8_of_ascii ascii]
          rfl
        · apply String.toList_injective
          rw [encodeMarked, encode, ← lower]
          simp [toList_toLower]
    · contradiction
  · rintro ⟨digits, rfl, written⟩
    have lower : digits.toList.map Char.toLower = bytes.flatMap pair := by
      have same := congrArg String.toList written
      simpa [encodeMarked, encode, toList_toLower] using same.symm
    obtain ⟨ascii, known⟩ := decodeFrom_of_toLower lower 0
    have bytesOf : utf8 ("0x" ++ digits)
        = 0x30 :: 0x78 :: digits.toList.map fun c => UInt8.ofNat c.toNat := by
      rw [utf8_append, ← utf8_ofList_ascii ascii, String.ofList_toList]
      rfl
    have even : ¬ (digits.toList.map fun c => UInt8.ofNat c.toNat).length % 2 = 1 := by
      have length := congrArg List.length lower
      rw [List.length_map, length_pairs] at length
      rw [List.length_map]
      omega
    rw [decodeMarked, bytesOf]
    simp only [decode, even, ↓reduceIte, mapError_ok_iff]
    exact known

end Hex

theorem Hash256.eitherCase : EitherCase "0x" ofHex toHex where
  read_write := ofHex_toHex
  read_iff s h := by
    refine Iff.trans ?_ (Hex.decodeMarked_ok_iff s h.toList)
    rw [ofHex, bind_ok_iff]
    constructor
    · rintro ⟨bytes, decoded, fits⟩
      obtain rfl := FixedBytes.ofList_ok_iff.mp fits
      exact decoded
    · intro decoded
      exact ⟨h.toList, decoded, h.ofList_toList⟩

theorem CTypeId.eitherCase : EitherCase (head ++ "0x") parse toString :=
  Hash256.eitherCase.behind (fun id => ⟨id.hash, rfl⟩) fun _ => rfl

/-- Identifiers of credentials, delegations and attestations, and digests in base 58, have one
spelling each. Digests in hexadecimal and identifiers of claim types may be spelled with digits of
either case and are otherwise read only as they are written. An attestation may be on any chain,
since a chain id that breaks the rules cannot be built. -/
theorem identifiers_have_one_spelling :
    OneSpelling CredentialId.parse CredentialId.toString
      ∧ OneSpelling DelegationId.parse DelegationId.toString
      ∧ OneSpelling AttestationStatusId.parse AttestationStatusId.toString
      ∧ OneSpelling Hash256.ofBase58 Hash256.toBase58
      ∧ EitherCase "0x" Hash256.ofHex Hash256.toHex
      ∧ EitherCase (CTypeId.head ++ "0x") CTypeId.parse CTypeId.toString :=
  ⟨CredentialId.oneSpelling, DelegationId.oneSpelling, AttestationStatusId.oneSpelling,
    Hash256.oneSpelling, Hash256.eitherCase, CTypeId.eitherCase⟩

end SelectiveDisclosure
