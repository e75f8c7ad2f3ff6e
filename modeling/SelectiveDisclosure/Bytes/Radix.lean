namespace SelectiveDisclosure.Radix

def value (base : Nat) (ds : List Nat) : Nat := ds.foldl (fun n d => n * base + d) 0

def digits (base : Nat) : Nat → Nat → List Nat
  | 0, _ => []
  | count + 1, n => digits base count (n / base) ++ [n % base]

theorem length_digits (base count n : Nat) : (digits base count n).length = count := by
  induction count generalizing n with
  | zero => rfl
  | succ count ih => simp [digits, ih]

theorem value_append_singleton (base : Nat) (ds : List Nat) (d : Nat) :
    value base (ds ++ [d]) = value base ds * base + d := by
  simp [value, List.foldl_append]

theorem digits_lt (base : Nat) (positive : 0 < base) (count n : Nat) :
    ∀ d ∈ digits base count n, d < base := by
  induction count generalizing n with
  | zero => simp [digits]
  | succ count ih =>
    intro d hd
    rcases List.mem_append.mp hd with h | h
    · exact ih _ d h
    · rw [List.mem_singleton.mp h]; exact Nat.mod_lt _ positive

end SelectiveDisclosure.Radix
