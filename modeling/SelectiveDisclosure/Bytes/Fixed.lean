namespace SelectiveDisclosure

def utf8 (s : String) : List UInt8 := s.toUTF8.data.toList

structure FixedBytes (n : Nat) where
  toList : List UInt8
  length_eq : toList.length = n
  deriving DecidableEq

namespace FixedBytes

variable {n : Nat}

theorem ext {a b : FixedBytes n} (h : a.toList = b.toList) : a = b := by
  cases a; cases b; simp_all

instance : LT (FixedBytes n) := ⟨fun a b => a.toList < b.toList⟩

instance : DecidableLT (FixedBytes n) := fun a b =>
  inferInstanceAs (Decidable (a.toList < b.toList))

instance : Trans (α := FixedBytes n) (· < ·) (· < ·) (· < ·) :=
  ⟨fun {a b c} (h : a.toList < b.toList) (k : b.toList < c.toList) =>
    show a.toList < c.toList from Std.lt_trans h k⟩

instance : Std.Trichotomous (α := FixedBytes n) (· < ·) :=
  ⟨fun a b (h : ¬ a.toList < b.toList) (k : ¬ b.toList < a.toList) =>
    ext (Std.Trichotomous.trichotomous (r := (· < ·)) a.toList b.toList h k)⟩

def ofList? (n : Nat) (bytes : List UInt8) : Option (FixedBytes n) :=
  if h : bytes.length = n then some ⟨bytes, h⟩ else none

def sort (bs : List (FixedBytes n)) : List (FixedBytes n) := bs.mergeSort fun a b => !(b < a)

end FixedBytes

end SelectiveDisclosure
