import Mathlib.Data.List.Nodup
import SelectiveDisclosure.Attested.Commitment
import SelectiveDisclosure.Proofs.WrittenBytes

namespace SelectiveDisclosure

def CollisionFree (hashed : List UInt8 → Prop) : Prop :=
  ∀ a b, hashed a → hashed b → blake2b a = blake2b b → a = b

theorem CollisionFree.mono {hashed hashed' : List UInt8 → Prop} (free : CollisionFree hashed')
    (all : ∀ bytes, hashed bytes → hashed' bytes) : CollisionFree hashed :=
  fun a b ha hb => free a b (all a ha) (all b hb)

theorem collisionFree_of_listed {hashed : List UInt8 → Prop} {listed : List (List UInt8)}
    (all : ∀ bytes, hashed bytes → bytes ∈ listed)
    (different : ∀ a ∈ listed, ∀ b ∈ listed, blake2b a = blake2b b → a = b) :
    CollisionFree hashed :=
  fun a b ha hb => different a (all a ha) b (all b hb)

theorem text_of_digest {hashed : List UInt8 → Prop} (free : CollisionFree hashed)
    {s t : Statement} (hs : hashed s.bytes) (ht : hashed t.bytes) (same : s.digest = t.digest) :
    s.text = t.text :=
  utf8_injective (free _ _ hs ht same)

/-- The first byte, which is enough to tell some digests apart. -/
def leadingByte (h : Hash256) : Nat := (h.toList.headD 0).toNat

theorem nodup_of_leading {hs : List Hash256} {leading : List Nat}
    (same : hs.map leadingByte = leading) (distinct : leading.Nodup) : hs.Nodup :=
  .of_map leadingByte (same ▸ distinct)

theorem not_lt_of_leading {a b : Hash256} (below : leadingByte a < leadingByte b) : ¬ b < a := by
  obtain ⟨as, sizeA⟩ := a
  obtain ⟨bs, sizeB⟩ := b
  cases as with
  | nil => contradiction
  | cons x as =>
    cases bs with
    | nil => contradiction
    | cons y bs =>
      have first : x < y := below
      intro above
      rcases List.cons_lt_cons_iff.mp above with less | ⟨same, _⟩
      · exact absurd less (UInt8.lt_asymm first)
      · exact absurd first (same ▸ UInt8.lt_irrefl y)

theorem pairwise_of_leading {hs : List Hash256} {leading : List Nat}
    (same : hs.map leadingByte = leading) (ascending : leading.Pairwise (· < ·)) :
    hs.Pairwise fun a b => ¬ b < a := by
  rw [← same, List.pairwise_map] at ascending
  exact ascending.imp not_lt_of_leading

theorem collisionFree_of_nodup {hashed : List UInt8 → Prop} {listed : List (List UInt8)}
    (all : ∀ bytes, hashed bytes → bytes ∈ listed) (distinct : (listed.map blake2b).Nodup) :
    CollisionFree hashed :=
  collisionFree_of_listed all fun _ first _ second =>
    List.inj_on_of_nodup_map distinct first second

/-- One list that is cut in two places: what lies between the cuts belongs to the back of one part
and to the front of the other. -/
theorem exists_between_cuts {α : Type} {front front' back back' : List α}
    (same : front ++ back = front' ++ back') (shorter : back.length ≤ back'.length) :
    ∃ between, back' = between ++ back ∧ front = front' ++ between := by
  rcases List.append_eq_append_iff.mp same with ⟨between, rfl, rfl⟩ | ⟨between, rfl, rfl⟩
  · rw [List.length_append] at shorter
    obtain rfl : between = [] := List.length_eq_zero_iff.mp (by omega)
    exact ⟨[], rfl, by simp⟩
  · exact ⟨between, rfl, rfl⟩

namespace Commitment

def commitmentPreimage (salt : Entropy) (digest : Hash256) : List UInt8 :=
  salt.toList ++ utf8 digest.toHex

/-- The commitments and then the inputs of the trust model, without anything between them. -/
def rootPreimage (commitments trustInputs : List Hash256) : List UInt8 :=
  (commitments ++ trustInputs).flatMap (·.toList)

theorem commitment_eq (salt : Entropy) (digest : Hash256) :
    commitment salt digest = blake2b (commitmentPreimage salt digest) := by
  simp [commitment, commitmentPreimage, blake2bConcat]

theorem rootHashOf_eq (commitments trustInputs : List Hash256) :
    rootHashOf commitments trustInputs = blake2b (rootPreimage commitments trustInputs) := by
  rw [rootHashOf, rootPreimage, blake2bConcat, List.flatMap_def]

theorem commitmentPreimage_injective {salt salt' : Entropy} {digest digest' : Hash256}
    (same : commitmentPreimage salt digest = commitmentPreimage salt' digest') :
    salt = salt' ∧ digest = digest' := by
  obtain ⟨salts, texts⟩ := List.append_inj same (salt.length_eq.trans salt'.length_eq.symm)
  exact ⟨FixedBytes.ext salts, Hash256.toHex_injective (utf8_injective texts)⟩

theorem flatMap_toList_injective {as bs : List Hash256}
    (same : as.flatMap (·.toList) = bs.flatMap (·.toList)) : as = bs := by
  induction as generalizing bs with
  | nil =>
    cases bs with
    | nil => rfl
    | cons b bs =>
      have length := congrArg List.length same
      simp only [List.flatMap_nil, List.flatMap_cons, List.length_nil, List.length_append,
        b.length_eq] at length
      omega
  | cons a as ih =>
    cases bs with
    | nil =>
      have length := congrArg List.length same
      simp only [List.flatMap_nil, List.flatMap_cons, List.length_nil, List.length_append,
        a.length_eq] at length
      omega
    | cons b bs =>
      rw [List.flatMap_cons, List.flatMap_cons] at same
      obtain ⟨first, rest⟩ := List.append_inj same (a.length_eq.trans b.length_eq.symm)
      rw [FixedBytes.ext first, ih rest]

end Commitment

end SelectiveDisclosure
