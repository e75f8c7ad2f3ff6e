import Mathlib.Data.List.Forall2

/-!
When a chain of checks succeeds. Every step must have succeeded, and the steps that failed first are
of no interest here. With these rules a result is taken apart step by step, and put together again.
The rules at the end are about chains that fail: they trace an error of a bad kind to its cause.
-/

namespace SelectiveDisclosure

namespace Outcome

variable {ε ε' α β : Type}

theorem ok_bind (a : α) (f : α → Except ε β) : (Except.ok a >>= f) = f a := rfl

theorem bind_ok_iff {x : Except ε α} {f : α → Except ε β} {b : β} :
    (x >>= f) = .ok b ↔ ∃ a, x = .ok a ∧ f a = .ok b := by
  cases x with
  | error e => simp [bind, Except.bind]
  | ok a => simp [bind, Except.bind]

theorem bind_error_iff {x : Except ε α} {f : α → Except ε β} {e : ε} :
    (x >>= f) = .error e ↔ x = .error e ∨ ∃ a, x = .ok a ∧ f a = .error e := by
  cases x with
  | error e => simp [bind, Except.bind]
  | ok a => simp [bind, Except.bind]

theorem check_bind_ok_iff {x : Except ε Unit} {f : Unit → Except ε β} {b : β} :
    (x >>= f) = .ok b ↔ x = .ok () ∧ f () = .ok b := by
  rw [bind_ok_iff]
  exact ⟨fun ⟨_, passed, rest⟩ => ⟨passed, rest⟩, fun ⟨passed, rest⟩ => ⟨(), passed, rest⟩⟩

theorem pure_ok_iff {a b : α} : (pure a : Except ε α) = .ok b ↔ a = b := by
  simp [pure, Except.pure]

theorem pure_not_error {a : α} {e : ε} : ¬ (pure a : Except ε α) = .error e := by
  simp [pure, Except.pure]

theorem throw_not_ok {e : ε} {b : α} : ¬ (throw e : Except ε α) = .ok b := by
  simp [throw, throwThe, MonadExceptOf.throw]

theorem refuse_ok_iff {p : Prop} [Decidable p] {e : ε} {f : Unit → Except ε β} {b : β} :
    (if p then throw e >>= f else f ()) = .ok b ↔ ¬ p ∧ f () = .ok b := by
  by_cases h : p
  · simp [h, bind_ok_iff, throw_not_ok]
  · simp [h]

theorem refuse_error_iff {p : Prop} [Decidable p] {e e' : ε} {f : Unit → Except ε β} :
    (if p then throw e >>= f else f ()) = .error e' ↔ p ∧ e' = e ∨ ¬ p ∧ f () = .error e' := by
  by_cases h : p
  · simp [h, throw, throwThe, MonadExceptOf.throw, bind, Except.bind, eq_comm]
  · simp [h]

theorem map_ok_iff {f : α → β} {x : Except ε α} {b : β} :
    x.map f = .ok b ↔ ∃ a, x = .ok a ∧ f a = b := by
  cases x with
  | error e => simp [Except.map]
  | ok a => simp [Except.map]

theorem map_error_iff {f : α → β} {x : Except ε α} {e : ε} : x.map f = .error e ↔ x = .error e := by
  cases x with
  | error e => simp [Except.map]
  | ok a => simp [Except.map]

theorem mapError_ok_iff {f : ε → ε'} {x : Except ε α} {a : α} :
    x.mapError f = .ok a ↔ x = .ok a := by
  cases x with
  | error e => simp [Except.mapError]
  | ok b => simp [Except.mapError]

theorem mapM_ok_iff {f : α → Except ε β} {xs : List α} {ys : List β} :
    xs.mapM f = .ok ys ↔ List.Forall₂ (fun x y => f x = .ok y) xs ys := by
  induction xs generalizing ys with
  | nil =>
    rw [List.mapM_nil, pure_ok_iff]
    simp [eq_comm]
  | cons x xs ih =>
    rw [List.mapM_cons, List.forall₂_cons_left_iff]
    simp only [bind_ok_iff, pure_ok_iff, ih]
    constructor
    · rintro ⟨y, read, rest, readRest, made⟩
      exact ⟨y, rest, read, readRest, made.symm⟩
    · rintro ⟨y, rest, read, readRest, made⟩
      exact ⟨y, read, rest, readRest, made.symm⟩

theorem exists_source {r : α → β → Prop} {xs : List α} {ys : List β} (read : List.Forall₂ r xs ys)
    {y : β} (there : y ∈ ys) : ∃ x ∈ xs, r x y := by
  induction read with
  | nil => contradiction
  | @cons x _ xs _ first _ ih =>
    rcases List.mem_cons.mp there with rfl | there
    · exact ⟨x, List.mem_cons_self, first⟩
    · obtain ⟨source, member, holds⟩ := ih there
      exact ⟨source, List.mem_cons_of_mem x member, holds⟩

end Outcome

/-- A result that is an error of the bad kind only if there is a cause. -/
def BreaksOnlyIf {ε α : Type} (broken : ε → Bool) (cause : Prop) (r : Except ε α) : Prop :=
  ∀ e, r = .error e → broken e = true → cause

namespace BreaksOnlyIf

variable {ε ε' α β δ : Type} {broken : ε → Bool} {broken' : ε' → Bool} {cause cause' : Prop}

theorem ok (a : α) : BreaksOnlyIf broken cause (.ok a) := nofun

theorem error {e : ε} (refused : broken e = false) :
    BreaksOnlyIf broken cause (.error e : Except ε α) := by
  rintro _ ⟨⟩ bad
  rw [refused] at bad
  contradiction

theorem mono {r : Except ε α} (only : BreaksOnlyIf broken cause r) (wider : cause → cause') :
    BreaksOnlyIf broken cause' r :=
  fun e failed bad => wider (only e failed bad)

theorem head {p : β → Prop} {y : β} {r : Except ε α} (only : BreaksOnlyIf broken (p y) r)
    (ys : List β) : BreaksOnlyIf broken (∃ z ∈ y :: ys, p z) r :=
  only.mono fun holds => ⟨y, List.mem_cons_self, holds⟩

theorem tail {p : β → Prop} {ys : List β} {r : Except ε α}
    (only : BreaksOnlyIf broken (∃ z ∈ ys, p z) r) (y : β) :
    BreaksOnlyIf broken (∃ z ∈ y :: ys, p z) r :=
  only.mono fun ⟨z, there, holds⟩ => ⟨z, List.mem_cons_of_mem y there, holds⟩

theorem bind {x : Except ε α} {f : α → Except ε β} (first : BreaksOnlyIf broken cause x)
    (rest : ∀ a, x = .ok a → BreaksOnlyIf broken cause (f a)) :
    BreaksOnlyIf broken cause (x >>= f) := by
  cases x with
  | error e =>
    rintro _ ⟨⟩ bad
    exact first e rfl bad
  | ok a => exact rest a rfl

theorem refuse {p : Prop} [Decidable p] {e : ε} {f : Unit → Except ε α}
    (refused : broken e = false) (rest : BreaksOnlyIf broken cause (f ())) :
    BreaksOnlyIf broken cause (if p then throw e >>= f else f ()) := by
  split
  · exact error refused
  · exact rest

theorem map {x : Except ε α} {f : α → β} (only : BreaksOnlyIf broken cause x) :
    BreaksOnlyIf broken cause (x.map f) := by
  cases x with
  | error e =>
    rintro _ ⟨⟩ bad
    exact only e rfl bad
  | ok a => exact ok (f a)

theorem mapError {x : Except ε α} {f : ε → ε'} (only : BreaksOnlyIf broken cause x)
    (same : ∀ e, broken' (f e) = true → broken e = true) :
    BreaksOnlyIf broken' cause (x.mapError f) := by
  cases x with
  | error e =>
    rintro _ ⟨⟩ bad
    exact only e rfl (same e bad)
  | ok a => exact ok a

theorem passOn {x : Except ε α} {f : ε → ε'} (refused : ∀ e, broken' (f e) = false) :
    BreaksOnlyIf broken' cause (x.mapError f) := by
  cases x with
  | error e => exact error (refused e)
  | ok a => exact ok a

theorem mapM {f : α → Except ε β} {xs : List α}
    (each : ∀ x ∈ xs, BreaksOnlyIf broken cause (f x)) :
    BreaksOnlyIf broken cause (xs.mapM f) := by
  induction xs with
  | nil => exact ok []
  | cons x xs ih =>
    rw [List.mapM_cons]
    obtain ⟨first, others⟩ := List.forall_mem_cons.mp each
    exact first.bind fun _ _ => (ih others).bind fun _ _ => ok _

theorem foldlM {f : δ → α → Except ε δ} {xs : List α}
    (each : ∀ x ∈ xs, ∀ d, BreaksOnlyIf broken cause (f d x)) (d : δ) :
    BreaksOnlyIf broken cause (xs.foldlM f d) := by
  induction xs generalizing d with
  | nil => exact ok d
  | cons x xs ih =>
    rw [List.foldlM_cons]
    obtain ⟨first, others⟩ := List.forall_mem_cons.mp each
    exact (first d).bind fun d' _ => ih others d'

end BreaksOnlyIf

end SelectiveDisclosure
