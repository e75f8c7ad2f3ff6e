import SelectiveDisclosure.Proofs.AttestedDocuments

/-!
Dates that are refused as they were written. A year outside of 0 to 9999 is written with a sign. The
strict form has no sign, and the loose form, which reads all fields of such a date, does not know
the `Z` behind them. So these dates, and the credentials that have one at any depth, are not read
back.
-/

namespace SelectiveDisclosure

namespace Timestamp

open Calendar (ofDays dateOf monthAndDay exists_parts monthAndDay_ofDays)

section Digits

variable {width most n : Nat}

theorem exists_padded (width n : Nat) : ∃ d ds, padded width n = d :: ds ∧ isDigit d := by
  cases written : padded width n with
  | nil =>
    have empty := (List.append_eq_nil_iff.mp written).2
    exact absurd empty Nat.toDigits_ne_nil
  | cons d ds => exact ⟨d, ds, rfl, isDigit_padded width n d (written ▸ List.mem_cons_self)⟩

theorem not_blank_of_isDigit {c : Char} (digit : isDigit c) : Text.isBlank c = false := by
  simp only [isDigit, Bool.and_eq_true, decide_eq_true_eq, Char.le_def, UInt32.le_iff_toNat_le]
    at digit
  change 48 ≤ c.toNat ∧ c.toNat ≤ 57 at digit
  simp only [Text.isBlank, Bool.or_eq_false_iff, Bool.and_eq_false_iff, beq_eq_false_iff_ne,
    decide_eq_false_iff_not]
  omega

theorem dropWhile_isBlank_padded (width n : Nat) (rest : List Char) :
    (padded width n ++ rest).dropWhile Text.isBlank = padded width n ++ rest := by
  obtain ⟨d, ds, written, digit⟩ := exists_padded width n
  rw [written, List.cons_append, List.dropWhile_cons_of_neg]
  rw [not_blank_of_isDigit digit]
  exact Bool.false_ne_true

theorem takeWhile_padded (width n : Nat) {rest : List Char}
    (ended : ∀ c ∈ rest.head?, isDigit c = false) :
    (padded width n ++ rest).takeWhile isDigit = padded width n := by
  rw [List.takeWhile_append_of_pos (isDigit_padded width n)]
  cases rest with
  | nil => exact List.append_nil _
  | cons c rest => simp [ended c rfl]

theorem isEmpty_padded (width n : Nat) (rest : List Char) :
    (padded width n).isEmpty = false ∧ (padded width n ++ rest).isEmpty = false := by
  obtain ⟨d, ds, written, _⟩ := exists_padded width n
  rw [written]
  exact ⟨rfl, rfl⟩

theorem Loose.digits_padded (fits : (padded width n).length ≤ most) {rest : List Char}
    (ended : ∀ c ∈ rest.head?, isDigit c = false) :
    Loose.digits most (padded width n ++ rest) = .ok (n, rest) := by
  obtain ⟨some, more⟩ := isEmpty_padded width n rest
  have ended' (k : Nat) : ∀ c ∈ (rest.take k).head?, isDigit c = false := by
    intro c there
    rw [List.head?_take] at there
    split at there
    · contradiction
    · exact ended c there
  rw [Loose.digits, List.take_append, List.take_of_length_le fits]
  simp only [more, takeWhile_padded width n (ended' _), some, Bool.false_eq_true, if_false,
    number_padded, List.drop_left]

theorem Loose.field_padded {low high : Nat} (above : low ≤ n) (below : n ≤ high) (room : n < 100)
    {rest : List Char} (ended : ∀ c ∈ rest.head?, isDigit c = false) :
    Loose.field low high (padded 2 n ++ rest) = .ok (n, rest) := by
  have fits : (padded 2 n).length ≤ 2 := Nat.le_of_eq (length_padded Nat.two_pos room)
  rw [Loose.field, dropWhile_isBlank_padded, Loose.digits_padded fits ended]
  simp only [Outcome.ok_bind, above, below, decide_true, Bool.and_self, if_true]
  rfl

theorem Loose.mark_same (m : Char) (rest : List Char) : Loose.mark m (m :: rest) = .ok rest :=
  if_pos rfl

theorem Loose.fraction_padded (width n : Nat) {rest : List Char}
    (ended : ∀ c ∈ rest.head?, isDigit c = false) :
    Loose.fraction ('.' :: (padded width n ++ rest))
      = .ok (fractionMillis (padded width n), rest) := by
  obtain ⟨some, more⟩ := isEmpty_padded width n rest
  rw [Loose.fraction]
  simp only [more, takeWhile_padded width n ended, some, Bool.false_eq_true, if_false,
    List.drop_left]

theorem Loose.year_signed {year : Int} (signed : year < 0 ∨ 9999 < year)
    (low : -Int.pow 2 31 ≤ year) (high : year < Int.pow 2 31) {rest : List Char}
    (ended : ∀ c ∈ rest.head?, isDigit c = false) :
    Loose.year (yearChars year ++ rest) = .ok (year, rest) := by
  have digits (n : Nat) : Loose.digits (padded 4 n ++ rest).length (padded 4 n ++ rest)
      = .ok (n, rest) := by
    refine Loose.digits_padded ?_ ended
    rw [List.length_append]
    exact Nat.le_add_right ..
  have room : (-Int.pow 2 31 ≤ year && year < Int.pow 2 31) = true := by
    simp only [low, high, decide_true, Bool.and_self]
  rw [Loose.year, yearChars]
  by_cases negative : year < 0
  · have whole : -(year.natAbs : Int) = year := by omega
    have sign : Text.isBlank '-' = false := by decide
    simp only [negative, if_true, List.cons_append, List.dropWhile_cons, sign, Bool.false_eq_true,
      if_false, digits, Except.map, whole, Outcome.ok_bind, room]
    rfl
  · have late : 9999 < year := by omega
    have whole : (year.natAbs : Int) = year := by omega
    have sign : Text.isBlank '+' = false := by decide
    simp only [negative, late, if_true, List.cons_append, List.dropWhile_cons, sign,
      Bool.false_eq_true, if_false, digits, Except.map, whole, Outcome.ok_bind, room]
    rfl

/-- All fields of the loose form are there, but they are not the whole text. -/
theorem Loose.read_signed {year : Int} {month day hour minute second : Nat}
    (signed : year < 0 ∨ 9999 < year) (low : -Int.pow 2 31 ≤ year) (high : year < Int.pow 2 31)
    (m : 1 ≤ month ∧ month ≤ 12) (d : 1 ≤ day ∧ day ≤ 31) (h : hour ≤ 23) (mi : minute ≤ 59)
    (s : second ≤ 60) (millis : Nat) :
    Loose.read (yearChars year ++ '-' :: (padded 2 month ++ '-' :: (padded 2 day ++ 'T' ::
      (padded 2 hour ++ ':' :: (padded 2 minute ++ ':' ::
        (padded 2 second ++ '.' :: (padded 3 millis ++ ['Z']))))))) = .error .trailing := by
  have step {α β : Type} {x : Except DateFault α} {a : α} (known : x = .ok a)
      (f : α → Except DateFault β) : x >>= f = f a := by
    rw [known]
    rfl
  have mark (c : Char) (rest : List Char) (f : List Char → Except DateFault Int) :=
    step (Loose.mark_same c rest) f
  have stops {c : Char} (mark : isDigit c = false) (rest : List Char) :
      ∀ x ∈ (c :: rest).head?, isDigit x = false := by
    rintro _ ⟨⟩
    exact mark
  have dash := stops (show isDigit '-' = false by decide)
  have colon := stops (show isDigit ':' = false by decide)
  rw [Loose.read]
  refine (step (Loose.year_signed signed low high (dash _)) _).trans ?_
  refine (mark ..).trans ((step (Loose.field_padded m.1 m.2 (by omega) (dash _)) _).trans ?_)
  refine (mark ..).trans ((step (Loose.field_padded d.1 d.2 (by omega)
    (stops (by decide) _)) _).trans ?_)
  refine (mark ..).trans ((step (Loose.field_padded (Nat.zero_le _) h (by omega)
    (colon _)) _).trans ?_)
  refine (mark ..).trans ((step (Loose.field_padded (Nat.zero_le _) mi (by omega)
    (colon _)) _).trans ?_)
  refine (mark ..).trans ((step (Loose.field_padded (Nat.zero_le _) s (by omega)
    (stops (by decide) _)) _).trans ?_)
  exact (step (Loose.fraction_padded 3 millis (stops (by decide) _)) _).trans rfl

theorem Strict.read?_signed {year : Int} (signed : year < 0 ∨ 9999 < year) (rest : List Char) :
    Strict.read? (yearChars year ++ rest) = none := by
  have digits {c : Char} (sign : isDigit c = false) (cs : List Char) :
      Strict.digits 4 (c :: cs) = none := by
    rw [Strict.digits]
    simp [sign]
  rw [Strict.read?, yearChars]
  by_cases negative : year < 0
  · simp only [negative, if_true, List.cons_append, digits (show isDigit '-' = false by decide)]
    rfl
  · have late : 9999 < year := by omega
    simp only [negative, late, if_true, if_false, List.cons_append,
      digits (show isDigit '+' = false by decide)]
    rfl

end Digits

/-- The year of a date of a cycle: it changes in the middle of the days from March to February. -/
theorem year_dateOf (era : Int) (y : Nat) {d : Nat} (within : d < 366) :
    (dateOf era y d).year = era * 400 + y + if d < 306 then 0 else 1 := by
  unfold dateOf monthAndDay
  dsimp only
  split <;> split <;> split <;> omega

theorem year_le_iff (t : Timestamp) : t.year ≤ 9999 ↔ t.millis < 253402300800000 := by
  obtain ⟨era, y, d, small, within, _, days, date⟩ := exists_parts (t.millis / 86400000)
  rw [year, date, year_dateOf era y within]
  unfold Calendar.yearStart Calendar.cycle Calendar.epoch at days
  split <;> omega

theorem year_nonneg_iff (t : Timestamp) : 0 ≤ t.year ↔ -62167219200000 ≤ t.millis := by
  obtain ⟨era, y, d, small, within, _, days, date⟩ := exists_parts (t.millis / 86400000)
  rw [year, date, year_dateOf era y within]
  unfold Calendar.yearStart Calendar.cycle Calendar.epoch at days
  split <;> omega

theorem year_ofDays_fits {days : Int} (low : -100000000 ≤ days) (high : days ≤ 100000000) :
    -Int.pow 2 31 ≤ (ofDays days).year ∧ (ofDays days).year < Int.pow 2 31 := by
  have power : Int.pow 2 31 = 2147483648 := by decide
  obtain ⟨era, y, d, small, within, _, parts, date⟩ := exists_parts days
  rw [power, date, year_dateOf era y within]
  unfold Calendar.yearStart Calendar.cycle Calendar.epoch at parts
  split <;> omega

theorem clockChars_refused {days : Int} (low : -100000000 ≤ days) (high : days ≤ 100000000)
    (signed : (ofDays days).year < 0 ∨ 9999 < (ofDays days).year) {time : Nat}
    (within : time < 86400000) (leap : Bool) : Strict.read? (clockChars days time leap) = none
      ∧ Loose.read (clockChars days time leap) = .error .trailing := by
  obtain ⟨january, december, first, last⟩ := monthAndDay_ofDays days
  obtain ⟨above, below⟩ := year_ofDays_fits low high
  have second : (if leap then 60 else time / 1000 % 60) ≤ 60 := by split <;> omega
  exact ⟨Strict.read?_signed signed _, Loose.read_signed signed above below ⟨january, december⟩
    ⟨first, last⟩ (by omega) (by omega) second _⟩

/-- A date with a signed year is refused, and a leap second behind the latest year is in such a
year, too. -/
theorem parse_signed (t : Timestamp) (signed : ¬ (0 ≤ t.year ∧ t.year ≤ 9999)) :
    parse t.toIso8601 = .error ⟨t.toIso8601, .trailing⟩ := by
  obtain ⟨lower, upper⟩ := t.inRange
  have refused : Strict.read? t.toIso8601.toList = none
      ∧ Loose.read t.toIso8601.toList = .error .trailing := by
    unfold earliest at lower
    unfold latest at upper
    rw [toIso8601]
    split
    case isTrue =>
      rw [String.toList_ofList]
      unfold year at signed
      exact clockChars_refused (by omega) (by omega) (by omega) (by omega) false
    case isFalse late =>
      rw [String.toList_ofList]
      unfold latest at late
      have day : (t.millis - 1000) / 86400000 = 95026236 := by omega
      rw [day]
      exact clockChars_refused (by decide) (by decide) (.inr (by decide)) (by omega) true
  rw [parse, refused.1, refused.2]

theorem parse_toIso8601_eq (t : Timestamp) : parse t.toIso8601
    = if 0 ≤ t.year ∧ t.year ≤ 9999 then .ok t else .error ⟨t.toIso8601, .trailing⟩ := by
  split
  case isTrue plain => exact t.parse_toIso8601 plain.1 plain.2
  case isFalse signed => exact t.parse_signed signed

end Timestamp

open Json (RecordForm Setting)
open Json.Decoder (fill)

theorem Decoder.plain_of_timestamp {t t' : Timestamp} (decoded : timestamp (.ofText t) = .ok t') :
    0 ≤ t.year ∧ t.year ≤ 9999 := by
  by_contra signed
  rw [timestamp, Json.ofText, Json.Decoder.read, Json.Decoder.string, Outcome.ok_bind] at decoded
  have parsed := Outcome.mapError_ok_iff.mp (Outcome.mapError_ok_iff.mp decoded)
  rw [show toString t = t.toIso8601 from rfl, t.parse_signed signed] at parsed
  contradiction

theorem Decoder.exists_filled {α : Type} {name : String} {place filled : Option α}
    {item : Decoder α} {j : Json} (taken : fill name place item j = .ok filled) :
    ∃ a, item j = .ok a := by
  cases place with
  | some _ => contradiction
  | none =>
    obtain ⟨a, decoded, _⟩ := Outcome.map_ok_iff.mp taken
    exact ⟨a, decoded⟩

namespace VerifiableCredential

variable (setting : Setting)

def Draft.take (d : Draft) (name : String) (j : Json) : Except DocumentError Draft :=
  if name = "federatedTrustModel" then d.putTrustModel (decodeEntries setting j)
  else d.put setting name j

theorem decodeMembers_take (d : Draft) (name : String) (j : Json) (rest : List (String × Json)) :
    decodeMembers setting d ((name, j) :: rest)
      = d.take setting name j >>= fun next => decodeMembers setting next rest := by
  rw [decodeMembers, Draft.take]
  split <;> rfl

theorem exists_taken (name : String) (j : Json) {members : List (String × Json)} {d d' : Draft}
    (decoded : decodeMembers setting d members = .ok d') (there : (name, j) ∈ members) :
    ∃ before after : Draft, before.take setting name j = .ok after := by
  induction members generalizing d with
  | nil => contradiction
  | cons m members ih =>
    rw [decodeMembers_take] at decoded
    obtain ⟨next, taken, rest⟩ := Outcome.bind_ok_iff.mp decoded
    rcases List.mem_cons.mp there with rfl | there
    · exact ⟨d, next, taken⟩
    · exact ih rest there

variable {setting} {c c' : VerifiableCredential}

theorem plainlyDated_of_decoded (decoded : decodeIn setting c.toJson = .ok c') :
    c.PlainlyDated := by
  intro t dated
  obtain ⟨contexts, types, id, subject, schema, status, issuer, issuanceDate, nonTransferable,
    trustModel, proof⟩ := c
  rw [toJson, decodeIn] at decoded
  obtain ⟨_, members, _⟩ := Outcome.bind_ok_iff.mp decoded
  obtain ⟨before, _, taken⟩ := exists_taken setting "issuanceDate" (.ofText t) members
    (by simp [Json.optionalMember, show issuanceDate = some t from dated])
  obtain ⟨_, filled, _⟩ := Outcome.bind_ok_iff.mp taken
  obtain ⟨_, optional⟩ := Decoder.exists_filled filled
  obtain ⟨_, read, _⟩ := Outcome.map_ok_iff.mp optional
  exact Decoder.plain_of_timestamp read

theorem entries_of_decoded (decoded : decodeIn setting c.toJson = .ok c') :
    ∃ es, decodeAllEntries setting (entriesToJson c.trustModel) = .ok es := by
  obtain ⟨contexts, types, id, subject, schema, status, issuer, issuanceDate, nonTransferable,
    trustModel, proof⟩ := c
  rw [toJson, decodeIn] at decoded
  obtain ⟨_, members, _⟩ := Outcome.bind_ok_iff.mp decoded
  obtain ⟨before, _, taken⟩ := exists_taken setting "federatedTrustModel"
    (.arr (entriesToJson trustModel)) members (by simp)
  rw [Draft.take, if_pos rfl, Draft.putTrustModel, decodeEntries] at taken
  cases place : before.trustModel with
  | some _ =>
    rw [place] at taken
    contradiction
  | none =>
    rw [place] at taken
    obtain ⟨es, entries, _⟩ := Outcome.bind_ok_iff.mp taken
    exact ⟨es, entries⟩

theorem entry_of_decoded {e : TrustEntry VerifiableCredential}
    {es es' : List (TrustEntry VerifiableCredential)}
    (decoded : decodeAllEntries setting (entriesToJson es) = .ok es') (there : e ∈ es) :
    ∃ e', decodeEntry setting (entryToJson e) = .ok e' := by
  induction es generalizing es' with
  | nil => contradiction
  | cons first es ih =>
    rw [entriesToJson, decodeAllEntries] at decoded
    obtain ⟨e', entry, rest⟩ := Outcome.bind_ok_iff.mp decoded
    obtain ⟨es', others, _⟩ := Outcome.bind_ok_iff.mp rest
    rcases List.mem_cons.mp there with rfl | there
    · exact ⟨e', entry⟩
    · exact ih others there

theorem embedded_of_decoded {id : CredentialId} {e' : TrustEntry VerifiableCredential}
    (decoded : decodeEntry setting (entryToJson (.legitimation id (some c))) = .ok e') :
    ∃ c', decodeIn .setAside c.toJson = .ok c' := by
  cases inner : decodeIn .setAside c.toJson with
  | ok c' => exact ⟨c', rfl⟩
  | error cause =>
    have refused : nullOr c.toJson (.error cause : Except DocumentError VerifiableCredential)
        = .error cause := by
      obtain ⟨⟩ := c
      rfl
    rw [entryToJson, decodeEntry, findKind_written setting .legitimation rfl (by simp)] at decoded
    simp only [Outcome.ok_bind, decodeLegitimationMembers, String.reduceEq, ↓reduceIte,
      Decoder.fill_written (Decoder.credentialId_written id), inner, refused, pure, Except.pure,
      LegitimationDraft.putCredential] at decoded
    contradiction

theorem decodeIn_toJson_ok_iff : decodeIn setting c.toJson = .ok c'
    ↔ c' = c ∧ ∀ e, c.Embeds e → e.PlainlyDated := by
  constructor
  · intro decoded
    have dated : ∀ e, c.Embeds e → e.PlainlyDated := by
      intro e embedded
      -- On the way down the setting changes, as the entries of a trust model are set aside.
      induction embedded generalizing setting c' with
      | self c => exact plainlyDated_of_decoded decoded
      | legitimation there _ ih =>
        obtain ⟨es, entries⟩ := entries_of_decoded decoded
        obtain ⟨_, entry⟩ := entry_of_decoded entries there
        obtain ⟨_, inner⟩ := embedded_of_decoded entry
        exact ih inner
    rw [decodeIn_toJson setting c dated] at decoded
    exact ⟨(Except.ok.inj decoded).symm, dated⟩
  · rintro ⟨rfl, dated⟩
    exact decodeIn_toJson setting _ dated

theorem plainlyDated_finalized_iff {vc : VerifiableCredential} {p q : AttestationProof}
    {inclusion : Inclusion} (ended : c.finalizeProof p inclusion = .ok (vc, q)) :
    (∀ e, vc.Embeds e → e.PlainlyDated) ↔ inclusion.timestamp.toNat < 253402300800000
      ∧ ∀ id e e', .legitimation id (some e) ∈ c.trustModel → e.Embeds e' → e'.PlainlyDated := by
  obtain ⟨_, issued, _, dated, _, rfl⟩ := (finalizeProof_ok_iff ..).mp ended
  obtain ⟨instant, _⟩ := (Timestamp.ofMillis?_eq_some_iff _ _).mp dated
  constructor
  · intro plain
    obtain ⟨_, high⟩ := plain _ (.self _) issued rfl
    rw [Timestamp.year_le_iff, instant] at high
    exact ⟨Int.ofNat_lt.mp high, fun id e e' there below => plain e' (.legitimation there below)⟩
  · rintro ⟨early, others⟩ e embedded
    cases embedded with
    | legitimation there below => exact others _ _ e there below
    | self =>
      intro t there
      rw [← Option.some.inj there, Timestamp.year_nonneg_iff, Timestamp.year_le_iff, instant]
      omega

/-- A date is read back if and only if its year is written without a sign. A credential that was
finalized is read back if and only if its block is from before the year 10000 and no date in its
trust model has a signed year. -/
theorem dates_read_back (t : Timestamp) (c : VerifiableCredential) (p : AttestationProof)
    (inclusion : Inclusion) :
    (Timestamp.parse t.toIso8601 = if 0 ≤ t.year ∧ t.year ≤ 9999 then .ok t
      else .error ⟨t.toIso8601, .trailing⟩)
    ∧ ∀ vc q, c.finalizeProof p inclusion = .ok (vc, q) → ∀ read, decode vc.toJson = .ok read
      ↔ read = vc ∧ inclusion.timestamp.toNat < 253402300800000
        ∧ ∀ id e e', .legitimation id (some e) ∈ c.trustModel → e.Embeds e' → e'.PlainlyDated := by
  refine ⟨t.parse_toIso8601_eq, fun vc q ended read => ?_⟩
  rw [decode, decodeIn_toJson_ok_iff, plainlyDated_finalized_iff ended]

section Sample

open CredentialInput

def lateInclusion : Inclusion := { sampleInclusion 4 with timestamp := 253402300800000 }

def lateDate : Timestamp := ⟨253402300800000, by decide⟩

theorem finalizeProof_sample (inclusion : Inclusion) (issued : Timestamp)
    (dated : Timestamp.ofMillis? inclusion.timestamp.toNat = some issued) :
    ∃ vc q, ((sample sampleClaims [] none).credential []).finalizeProof
      ((Opening.mk [] [] []).toProof "") inclusion = .ok (vc, q) :=
  ⟨_, _, finalizeProof_toProof _ _ dated⟩

theorem sample_dates_read_back : Timestamp.parse sampleDate.toIso8601 = .ok sampleDate
    ∧ ∃ c p q, ((sample sampleClaims [] none).credential []).finalizeProof p (sampleInclusion 4)
      = .ok (c, q) ∧ decode c.toJson = .ok c := by
  obtain ⟨c, q, ended⟩ := finalizeProof_sample _ _ (sample_dated 4)
  obtain ⟨date, credential⟩ := dates_read_back sampleDate _ _ _
  refine ⟨date.trans (if_pos (by decide)), c, _, q, ended, ?_⟩
  refine (credential c q ended c).mpr ⟨rfl, by decide, ?_⟩
  exact fun id e e' there _ => absurd there List.not_mem_nil

theorem late_date_refused : Timestamp.ofMillis? 253402300800000 = some lateDate
    ∧ Timestamp.parse "9999-12-31T23:59:00-00:01" = .ok lateDate
    ∧ lateDate.toIso8601 = "+10000-01-01T00:00:00.000Z"
    ∧ Timestamp.parse "+10000-01-01T00:00:00.000Z"
      = .error ⟨"+10000-01-01T00:00:00.000Z", .trailing⟩
    ∧ ∃ c p vc q, finalizeProof c p lateInclusion = .ok (vc, q)
      ∧ ∀ read, decode vc.toJson ≠ .ok read := by
  have written : lateDate.toIso8601 = "+10000-01-01T00:00:00.000Z" := by decide +kernel
  have refused := lateDate.parse_signed (by decide)
  rw [written] at refused
  obtain ⟨vc, q, ended⟩ := finalizeProof_sample lateInclusion lateDate rfl
  refine ⟨rfl, by decide +kernel, written, refused, _, _, vc, q, ended, ?_⟩
  intro read decoded
  have plain := (decodeIn_toJson_ok_iff.mp decoded).2
  exact absurd ((plainlyDated_finalized_iff ended).mp plain).1 (by decide)

end Sample

end VerifiableCredential

end SelectiveDisclosure
