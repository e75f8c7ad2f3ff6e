import SelectiveDisclosure.Text.Blank
import SelectiveDisclosure.Timestamp.Basic

/-!
Reading dates. There are two forms. The strict form has fields of fixed width and ends with `Z` or
an offset. The loose form has no offset and is read as universal time; its numbers may be short and
may follow blanks, and its year may be long if it has a sign. A text that fits neither form is
refused with the fault that the loose form finds.
-/

namespace SelectiveDisclosure.Timestamp

inductive DateFault where
  | ended
  | character
  | range
  | trailing
  deriving DecidableEq, Repr

def DateFault.message : DateFault → String
  | ended => "premature end of input"
  | character => "input contains invalid characters"
  | range => "input is out of range"
  | trailing => "trailing input"

structure DateError where
  value : String
  fault : DateFault
  deriving DecidableEq, Repr

def DateError.message (e : DateError) : String :=
  s!"invalid date {Text.quote e.value}: {e.fault.message}"

/-- The fields of a date. `millis` is what stands behind the point of the second, cut off at
milliseconds. -/
structure Fields where
  year : Int
  month : Nat
  day : Nat
  hour : Nat
  minute : Nat
  second : Nat
  millis : Nat

def Fields.areInRange (f : Fields) : Bool :=
  1 ≤ f.month && f.month ≤ 12 && 1 ≤ f.day && f.day ≤ 31 && f.hour < 24 && f.minute < 60
    && f.second ≤ 60

def reachesYear (year : Int) : Bool := -262143 ≤ year && year ≤ 262142

def Fields.millis? (f : Fields) : Option Int :=
  let date : Calendar.Date := ⟨f.year, f.month, f.day⟩
  if reachesYear f.year && date.exists? then
    some (Calendar.toDays date * 86400000
      + ((f.hour * 3600 + f.minute * 60 + f.second) * 1000 + f.millis : Nat))
  else none

def ofMillisRead? (millis : Int) : Option Timestamp :=
  if h : earliest ≤ millis ∧ millis ≤ latest + 1000 then some ⟨millis, h⟩ else none

def isDigit (c : Char) : Bool := '0' ≤ c && c ≤ '9'

def number (ds : List Char) : Nat := ds.foldl (fun n c => n * 10 + (c.toNat - 0x30)) 0

def fractionMillis (ds : List Char) : Nat :=
  number (ds.take 3 ++ List.replicate (3 - ds.length) '0')

namespace Strict

def digits (count : Nat) (cs : List Char) : Option (Nat × List Char) :=
  let ds := cs.take count
  if ds.length = count && ds.all isDigit then some (number ds, cs.drop count) else none

def mark (allowed : List Char) : List Char → Option (List Char)
  | c :: cs => if c ∈ allowed then some cs else none
  | [] => none

def fraction : List Char → Option (Nat × List Char)
  | '.' :: cs =>
    let ds := cs.takeWhile isDigit
    if ds.isEmpty then none else some (fractionMillis ds, cs.drop ds.length)
  | cs => some (0, cs)

/-- The offset from universal time in minutes. The minus sign of typography is a sign, too. -/
def offset : List Char → Option (Int × List Char)
  | 'Z' :: cs => some (0, cs)
  | 'z' :: cs => some (0, cs)
  | sign :: cs => do
    let (hours, cs) ← digits 2 (← mark ['+', '-', Char.ofNat 0x2212] (sign :: cs))
    let (minutes, cs) ← digits 2 (← mark [':'] cs)
    if hours < 24 && minutes < 60 then
      let n : Int := (hours * 60 + minutes : Nat)
      return (if sign = '+' then n else -n, cs)
    else none
  | [] => none

def read? (cs : List Char) : Option Int := do
  let (year, cs) ← digits 4 cs
  let (month, cs) ← digits 2 (← mark ['-'] cs)
  let (day, cs) ← digits 2 (← mark ['-'] cs)
  let (hour, cs) ← digits 2 (← mark ['T', 't', ' '] cs)
  let (minute, cs) ← digits 2 (← mark [':'] cs)
  let (second, cs) ← digits 2 (← mark [':'] cs)
  let (millis, cs) ← fraction cs
  let (offset, cs) ← offset cs
  let fields : Fields := ⟨year, month, day, hour, minute, second, millis⟩
  if cs.isEmpty && fields.areInRange then return (← fields.millis?) - offset * 60000 else none

end Strict

namespace Loose

def digits (most : Nat) (cs : List Char) : Except DateFault (Nat × List Char) :=
  if cs.isEmpty then .error .ended
  else
    let ds := (cs.take most).takeWhile isDigit
    if ds.isEmpty then .error .character else .ok (number ds, cs.drop ds.length)

/-- A field of one or two digits behind blanks, refused at once when the clock does not have it. -/
def field (low high : Nat) (cs : List Char) : Except DateFault (Nat × List Char) := do
  let (n, cs) ← digits 2 (cs.dropWhile Text.isBlank)
  if low ≤ n && n ≤ high then return (n, cs) else throw .range

def year (cs : List Char) : Except DateFault (Int × List Char) := do
  let (n, cs) ← match cs.dropWhile Text.isBlank with
    | '-' :: cs => (digits cs.length cs).map fun (n, cs) => (-(n : Int), cs)
    | '+' :: cs => (digits cs.length cs).map fun (n, cs) => ((n : Int), cs)
    | cs => (digits 4 cs).map fun (n, cs) => ((n : Int), cs)
  if -Int.pow 2 31 ≤ n && n < Int.pow 2 31 then return (n, cs) else throw .range

def mark (m : Char) : List Char → Except DateFault (List Char)
  | c :: cs => if c = m then .ok cs else .error .character
  | [] => .error .ended

def fraction : List Char → Except DateFault (Nat × List Char)
  | '.' :: cs =>
    let ds := cs.takeWhile isDigit
    if cs.isEmpty then .error .ended
    else if ds.isEmpty then .error .character
    else .ok (fractionMillis ds, cs.drop ds.length)
  | cs => .ok (0, cs)

/-- The instant of a text in the loose form. That the day exists is checked last. -/
def read (cs : List Char) : Except DateFault Int := do
  let (year, cs) ← year cs
  let (month, cs) ← field 1 12 (← mark '-' cs)
  let (day, cs) ← field 1 31 (← mark '-' cs)
  let (hour, cs) ← field 0 23 (← mark 'T' cs)
  let (minute, cs) ← field 0 59 (← mark ':' cs)
  let (second, cs) ← field 0 60 (← mark ':' cs)
  let (millis, cs) ← fraction cs
  if !cs.isEmpty then throw .trailing
  match Fields.millis? ⟨year, month, day, hour, minute, second, millis⟩ with
  | some n => return n
  | none => throw .range

end Loose

def parse (value : String) : Except DateError Timestamp :=
  match Strict.read? value.toList with
  | some millis =>
    match ofMillisRead? millis with
    | some t => .ok t
    | none => .error ⟨value, .range⟩
  | none =>
    match Loose.read value.toList with
    | .ok millis =>
      match ofMillisRead? millis with
      | some t => .ok t
      | none => .error ⟨value, .range⟩
    | .error fault => .error ⟨value, fault⟩

end SelectiveDisclosure.Timestamp
