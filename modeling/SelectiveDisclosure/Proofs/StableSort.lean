import Mathlib.Data.List.Basic
import SelectiveDisclosure.Bytes.Fixed

namespace SelectiveDisclosure.StableSort

variable {α : Type}

theorem cut_unique {q : α → Bool} {before after before' after' : List α}
    (same : before ++ after = before' ++ after')
    (front : ∀ b ∈ before, q b) (back : ∀ b ∈ after, q b = false)
    (front' : ∀ b ∈ before', q b) (back' : ∀ b ∈ after', q b = false) :
    before = before' ∧ after = after' := by
  have kept : (before ++ after).filter q = before := by
    rw [List.filter_append, List.filter_eq_self.mpr front,
      List.filter_eq_nil_iff.mpr (by simp_all), List.append_nil]
  have kept' : (before' ++ after').filter q = before' := by
    rw [List.filter_append, List.filter_eq_self.mpr front',
      List.filter_eq_nil_iff.mpr (by simp_all), List.append_nil]
  have equal : before = before' := by rw [← kept, same, kept']
  refine ⟨equal, ?_⟩
  rw [equal] at same
  exact List.append_cancel_left same

theorem filter_mergeSort {le : α → α → Bool} (trans : ∀ a b c, le a b → le b c → le a c)
    (total : ∀ a b, le a b || le b a) (p : α → Bool) (l : List α) :
    (l.mergeSort le).filter p = (l.filter p).mergeSort le := by
  induction l with
  | nil => simp
  | cons a l ih =>
    obtain ⟨before, after, sorted, rest, above⟩ := List.mergeSort_cons trans total a l
    rw [rest, List.filter_append] at ih
    rw [sorted, List.filter_append, List.filter_cons, List.filter_cons]
    by_cases keep : p a
    · rw [if_pos keep, if_pos keep]
      obtain ⟨before', after', sorted', rest', above'⟩ :=
        List.mergeSort_cons trans total a (l.filter p)
      -- Both lists are cut where the items that may not stand in front of `a` end.
      have behind : ∀ b ∈ after, le a b := by
        have ordered := List.pairwise_mergeSort trans total (a :: l)
        rw [sorted, List.pairwise_append, List.pairwise_cons] at ordered
        exact ordered.2.1.1
      have behind' : ∀ b ∈ after', le a b := by
        have ordered := List.pairwise_mergeSort trans total (a :: l.filter p)
        rw [sorted', List.pairwise_append, List.pairwise_cons] at ordered
        exact ordered.2.1.1
      have cut : before.filter p = before' ∧ after.filter p = after' := by
        apply cut_unique (q := fun b => !le a b) (ih.trans rest')
        · intro b hb
          exact above b (List.mem_of_mem_filter hb)
        · intro b hb
          simp [behind b (List.mem_of_mem_filter hb)]
        · exact above'
        · intro b hb
          simp [behind' b hb]
      rw [sorted', cut.1, cut.2]
    · rw [if_neg keep, if_neg keep]
      exact ih

end StableSort

namespace FixedBytes

variable {n : Nat}

instance : Std.Irrefl (α := FixedBytes n) (· < ·) := ⟨fun a => List.lt_irrefl a.toList⟩

theorem not_lt_trans {a b c : FixedBytes n} (ab : ¬ b < a) (bc : ¬ c < b) : ¬ c < a := by
  intro ca
  by_cases below : a < b
  · exact bc (Std.lt_trans ca below)
  · have same : a = b := Std.Trichotomous.trichotomous (r := (· < ·)) a b below ab
    rw [same] at ca
    exact bc ca

theorem not_lt_total (a b : FixedBytes n) : ¬ b < a ∨ ¬ a < b := by
  by_cases below : b < a
  · right
    intro above
    exact Std.Irrefl.irrefl (r := (· < ·)) a (Std.lt_trans above below)
  · exact Or.inl below

theorem pairwise_sort (bs : List (FixedBytes n)) : (sort bs).Pairwise fun a b => ¬ b < a := by
  have trans (a b c : FixedBytes n) (ab : !(b < a)) (bc : !(c < b)) : !(c < a) := by
    simp only [Bool.not_eq_true', decide_eq_false_iff_not] at ab bc ⊢
    exact not_lt_trans ab bc
  have total (a b : FixedBytes n) : (!(b < a) || !(a < b)) = true := by
    simp only [Bool.or_eq_true, Bool.not_eq_true', decide_eq_false_iff_not]
    exact not_lt_total a b
  simpa [sort] using List.pairwise_mergeSort trans total bs

theorem sort_of_pairwise {bs : List (FixedBytes n)} (sorted : bs.Pairwise fun a b => ¬ b < a) :
    sort bs = bs := by
  apply List.mergeSort_of_pairwise
  apply sorted.imp
  intro a b above
  simpa using above

theorem perm_sort (bs : List (FixedBytes n)) : (sort bs).Perm bs := List.mergeSort_perm bs _

theorem mem_sort {b : FixedBytes n} {bs : List (FixedBytes n)} : b ∈ sort bs ↔ b ∈ bs :=
  List.mem_mergeSort

end FixedBytes

end SelectiveDisclosure
