import SelectiveDisclosure.Text.CombiningClass
import SelectiveDisclosure.Text.Composition

/-!
Canonical composition of text: every character is taken apart, the marks behind each base are put
in the order of their classes, and what can be put together is put together again. Two spellings
of the same visible text come out equal.
-/

namespace SelectiveDisclosure.Text

namespace Hangul

def leadBase : Nat := 0x1100
def vowelBase : Nat := 0x1161
def trailBase : Nat := 0x11A7
def syllableBase : Nat := 0xAC00

def leadCount : Nat := 19
def vowelCount : Nat := 21
def trailCount : Nat := 28
def syllableCount : Nat := leadCount * vowelCount * trailCount

def parts? (n : Nat) : Option (List Nat) :=
  if syllableBase ≤ n && n < syllableBase + syllableCount then
    let i := n - syllableBase
    let lead := leadBase + i / (vowelCount * trailCount)
    let vowel := vowelBase + i % (vowelCount * trailCount) / trailCount
    let trail := i % trailCount
    some (if trail = 0 then [lead, vowel] else [lead, vowel, trailBase + trail])
  else none

def whole? (first second : Nat) : Option Nat :=
  if leadBase ≤ first && first < leadBase + leadCount
      && vowelBase ≤ second && second < vowelBase + vowelCount then
    some (syllableBase + ((first - leadBase) * vowelCount + (second - vowelBase)) * trailCount)
  else if syllableBase ≤ first && first < syllableBase + syllableCount
      && (first - syllableBase) % trailCount == 0
      && trailBase < second && second < trailBase + trailCount then
    some (first + (second - trailBase))
  else none

end Hangul

/-- The parts of a code point, taken apart at most `depth` times over: only a first part can have
parts of its own. -/
def decomposeWithin : Nat → Nat → List Nat
  | 0, n => [n]
  | depth + 1, n =>
    match Hangul.parts? n with
    | some parts => parts
    | none => match partsOf? n with
      | some (first, second) => decomposeWithin depth first ++ [second]
      | none => match equivalentOf? n with
        | some other => decomposeWithin depth other
        | none => [n]

/-- The parts of a character. No character of the tables needs more than four steps. -/
def decompose (c : Char) : List Char :=
  if c.toNat < 0xC0 then [c] else (decomposeWithin 4 c.toNat).map Char.ofNat

def leadingMarks (cs : List Char) : List Char := cs.takeWhile fun c => combiningClass c != 0

def orderMarks : List Char → List Char
  | [] => []
  | c :: cs =>
    if combiningClass c = 0 then c :: orderMarks cs
    else
      ((c :: leadingMarks cs).mergeSort fun a b => combiningClass a ≤ combiningClass b)
        ++ orderMarks (cs.dropWhile fun c => combiningClass c != 0)
termination_by cs => cs.length
decreasing_by
  · simp
  · have := (List.dropWhile_sublist (fun c => combiningClass c != 0) (l := cs)).length_le
    simp; omega

def compose? (first second : Char) : Option Char :=
  match Hangul.whole? first.toNat second.toNat with
  | some n => some (Char.ofNat n)
  | none => (wholeOf? first.toNat second.toNat).map Char.ofNat

/-- What a base and a character behind it make together, unless a kept mark of the same or a higher
class stands between them. `marks` are the marks kept so far, last one first. -/
def joined? (base : Char) (marks : List Char) (c : Char) : Option Char :=
  match marks with
  | [] => compose? base c
  | last :: _ => if combiningClass c ≤ combiningClass last then none else compose? base c

def composeOnto (base : Char) (marks : List Char) : List Char → List Char
  | [] => base :: marks.reverse
  | c :: cs =>
    match joined? base marks c with
    | some whole => composeOnto whole marks cs
    | none =>
      if combiningClass c = 0 then base :: (marks.reverse ++ composeOnto c [] cs)
      else composeOnto base (c :: marks) cs

def composeAll : List Char → List Char
  | [] => []
  | c :: cs => if combiningClass c = 0 then composeOnto c [] cs else c :: composeAll cs

def normalize (cs : List Char) : List Char :=
  composeAll (orderMarks (cs.flatMap decompose))

end SelectiveDisclosure.Text
