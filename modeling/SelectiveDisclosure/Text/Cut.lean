namespace SelectiveDisclosure.Text

def cutAt? (mark : Char) : List Char → Option (List Char × List Char)
  | [] => none
  | c :: cs => if c = mark then some ([], cs) else (cutAt? mark cs).map fun (a, b) => (c :: a, b)

def behind? (head text : String) : Option String :=
  (head.toList.isPrefixOf? text.toList).map String.ofList

def partsAt (mark : Char) : List Char → List (List Char)
  | [] => [[]]
  | c :: cs =>
    if c = mark then [] :: partsAt mark cs
    else match partsAt mark cs with
      | part :: parts => (c :: part) :: parts
      | [] => [[c]]

theorem cutAt?_eq_some {mark : Char} {cs a b : List Char} (h : cutAt? mark cs = some (a, b)) :
    cs = a ++ mark :: b ∧ mark ∉ a := by
  induction cs generalizing a with
  | nil => simp [cutAt?] at h
  | cons c cs ih =>
    simp only [cutAt?] at h
    split at h
    · rename_i same
      obtain ⟨rfl, rfl⟩ := Prod.mk.inj (Option.some.inj h)
      simp [same]
    · rename_i differs
      obtain ⟨⟨a', b'⟩, cut, made⟩ := Option.map_eq_some_iff.mp h
      obtain ⟨rfl, rfl⟩ := Prod.mk.inj made
      obtain ⟨rfl, absent⟩ := ih cut
      exact ⟨rfl, by simp [absent, Ne.symm differs]⟩

end SelectiveDisclosure.Text
