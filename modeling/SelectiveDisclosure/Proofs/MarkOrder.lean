import Mathlib.Data.List.Chain
import Mathlib.Tactic.SplitIfs
import SelectiveDisclosure.Text.Normalization

namespace SelectiveDisclosure.Text

/-- Puts a character in front of an ordered text. A mark goes behind the marks of lower classes. -/
def insertMark (c : Char) : List Char → List Char
  | [] => [c]
  | d :: ds =>
    if combiningClass d ≠ 0 ∧ combiningClass d < combiningClass c then d :: insertMark c ds
    else c :: d :: ds

theorem insertMark_starter {c : Char} (starter : combiningClass c = 0) (ds : List Char) :
    insertMark c ds = c :: ds := by
  cases ds with
  | nil => rfl
  | cons d ds => rw [insertMark, if_neg (by omega)]

theorem insertMark_append {c : Char} {before : List Char}
    (below : ∀ b ∈ before, combiningClass b ≠ 0 ∧ combiningClass b < combiningClass c)
    (after : List Char) : insertMark c (before ++ after) = before ++ insertMark c after := by
  induction before with
  | nil => rfl
  | cons b before ih =>
    obtain ⟨first, others⟩ := List.forall_mem_cons.mp below
    rw [List.cons_append, insertMark, if_pos first, ih others, List.cons_append]

theorem orderMarks_eq (cs : List Char) : orderMarks cs
    = (leadingMarks cs).mergeSort (fun a b => combiningClass a ≤ combiningClass b)
      ++ orderMarks (cs.dropWhile fun c => combiningClass c != 0) := by
  cases cs with
  | nil => simp [orderMarks, leadingMarks]
  | cons c cs =>
    by_cases starter : combiningClass c = 0
    · simp [leadingMarks, starter]
    · rw [orderMarks, if_neg starter]
      simp [leadingMarks, starter]

theorem head_orderMarks_dropWhile (cs : List Char) :
    ∀ d ∈ (orderMarks (cs.dropWhile fun c => combiningClass c != 0)).head?,
      combiningClass d = 0 := by
  intro d there
  cases rest : cs.dropWhile fun c => combiningClass c != 0 with
  | nil =>
    rw [rest, orderMarks] at there
    contradiction
  | cons e rest' =>
    have starter := List.head?_dropWhile_not (fun c => combiningClass c != 0) cs
    rw [rest] at starter
    have zero : combiningClass e = 0 := by simpa using starter
    rw [rest, orderMarks, if_pos zero] at there
    rw [← Option.some.inj there]
    exact zero

theorem orderMarks_cons (c : Char) (cs : List Char) :
    orderMarks (c :: cs) = insertMark c (orderMarks cs) := by
  by_cases starter : combiningClass c = 0
  · rw [orderMarks, if_pos starter, insertMark_starter starter]
  · have trans (a b d : Char) (ab : decide (combiningClass a ≤ combiningClass b))
        (bd : decide (combiningClass b ≤ combiningClass d)) :
        decide (combiningClass a ≤ combiningClass d) := by
      simp only [decide_eq_true_eq] at ab bd ⊢
      exact Nat.le_trans ab bd
    have total (a b : Char) : (decide (combiningClass a ≤ combiningClass b)
        || decide (combiningClass b ≤ combiningClass a)) = true := by
      simpa using Nat.le_total (combiningClass a) (combiningClass b)
    obtain ⟨before, after, sorted, rest, below⟩ :=
      List.mergeSort_cons trans total c (leadingMarks cs)
    have ordered := List.pairwise_mergeSort trans total (c :: leadingMarks cs)
    rw [sorted, List.pairwise_append, List.pairwise_cons] at ordered
    have lower : ∀ b ∈ before, combiningClass b ≠ 0 ∧ combiningClass b < combiningClass c := by
      intro b there
      have member : b ∈ leadingMarks cs := by
        rw [← List.mem_mergeSort, rest]
        exact List.mem_append_left _ there
      have mark := List.all_eq_true.mp List.all_takeWhile b member
      have less := below b there
      simp only [Bool.not_eq_true', decide_eq_false_iff_not, Nat.not_le] at less
      exact ⟨by simpa using mark, less⟩
    rw [orderMarks, if_neg starter, orderMarks_eq cs, sorted, rest, List.append_assoc,
      List.append_assoc, insertMark_append lower, List.cons_append]
    congr 1
    cases after with
    | nil =>
      have head := head_orderMarks_dropWhile cs
      rw [List.nil_append]
      cases tail : orderMarks (cs.dropWhile fun c => combiningClass c != 0) with
      | nil => rfl
      | cons d ds =>
        rw [tail] at head
        rw [insertMark, if_neg fun both => both.1 (head d rfl)]
    | cons d after =>
      have above := ordered.2.1.1 d List.mem_cons_self
      rw [decide_eq_true_eq] at above
      rw [List.cons_append, insertMark, if_neg (by omega)]

def Ordered (cs : List Char) : Prop :=
  cs.IsChain fun a b => combiningClass b = 0 ∨ combiningClass a ≤ combiningClass b

theorem insertMark_of_ordered {c : Char} {cs : List Char} (ordered : Ordered (c :: cs)) :
    insertMark c cs = c :: cs := by
  cases cs with
  | nil => rfl
  | cons d cs =>
    have next := (List.isChain_cons_cons.mp ordered).1
    rw [insertMark, if_neg (by omega)]

theorem orderMarks_of_ordered {cs : List Char} (ordered : Ordered cs) : orderMarks cs = cs := by
  induction cs with
  | nil => rw [orderMarks]
  | cons c cs ih => rw [orderMarks_cons, ih ordered.of_cons, insertMark_of_ordered ordered]

theorem ordered_insertMark (c : Char) {ds : List Char} (ordered : Ordered ds) :
    Ordered (insertMark c ds) := by
  induction ds with
  | nil => exact List.isChain_singleton c
  | cons d ds ih =>
    rw [insertMark]
    split
    · rename_i lower
      have rest := ih ordered.of_cons
      cases ds with
      | nil => exact List.isChain_cons_cons.mpr ⟨.inr (Nat.le_of_lt lower.2), rest⟩
      | cons e ds =>
        have next := (List.isChain_cons_cons.mp ordered).1
        rw [insertMark] at rest ⊢
        split
        · rename_i further
          rw [if_pos further] at rest
          exact List.isChain_cons_cons.mpr ⟨next, rest⟩
        · rename_i here
          rw [if_neg here] at rest
          exact List.isChain_cons_cons.mpr ⟨.inr (Nat.le_of_lt lower.2), rest⟩
    · exact List.isChain_cons_cons.mpr ⟨by omega, ordered⟩

theorem ordered_orderMarks (cs : List Char) : Ordered (orderMarks cs) := by
  induction cs with
  | nil =>
    rw [orderMarks]
    exact List.isChain_nil
  | cons c cs ih =>
    rw [orderMarks_cons]
    exact ordered_insertMark c ih

theorem insertMark_comm {a b : Char} (markA : combiningClass a ≠ 0) (markB : combiningClass b ≠ 0)
    (apart : combiningClass a ≠ combiningClass b) (ds : List Char) :
    insertMark a (insertMark b ds) = insertMark b (insertMark a ds) := by
  induction ds with
  | nil =>
    simp only [insertMark]
    split_ifs <;> first | rfl | omega
  | cons d ds ih =>
    simp only [insertMark]
    split_ifs <;> simp only [insertMark] <;> split_ifs <;> first | rfl | omega | rw [ih]

theorem orderMarks_append_congr {cs ds : List Char} (same : orderMarks cs = orderMarks ds)
    (front : List Char) : orderMarks (front ++ cs) = orderMarks (front ++ ds) := by
  induction front with
  | nil => exact same
  | cons c front ih => rw [List.cons_append, List.cons_append, orderMarks_cons, orderMarks_cons, ih]

/-- A mark may be moved in front of marks of other classes. -/
theorem orderMarks_move {c : Char} (mark : combiningClass c ≠ 0) {marks : List Char}
    (others : ∀ m ∈ marks, combiningClass m ≠ 0 ∧ combiningClass m ≠ combiningClass c)
    (rest : List Char) : orderMarks (marks ++ c :: rest) = orderMarks (c :: (marks ++ rest)) := by
  induction marks with
  | nil => rfl
  | cons m marks ih =>
    obtain ⟨first, later⟩ := List.forall_mem_cons.mp others
    rw [List.cons_append, orderMarks_cons, ih later, orderMarks_cons, insertMark_comm first.1 mark
      first.2, ← orderMarks_cons m, ← orderMarks_cons c, List.cons_append]

end SelectiveDisclosure.Text
