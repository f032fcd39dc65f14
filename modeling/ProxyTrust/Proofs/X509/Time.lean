/-
  Times that are written into a certificate and read back.

  1. **Digits** — a time is a row of pairs of digits, each of which is read as the number it was
     written for.  A year has one or two pairs, by the form.

  2. **Years** — the form is chosen by the local year, but what is written is the instant in UTC,
     to the second.  Two digits stand for one year between 1950 and 2049 alone, four digits for
     the year itself, so that `holdsYear` is what the year in UTC has to meet
     (`year?_yearDigits`).

  3. **Instants** — where the form can hold the year in UTC, reading gives that instant
     (`readTime?_timeContent`): a date that is a date of the calendar and a time within the day
     pass all checks of the reader.  The element around it tells the form by its tag.
-/
import ProxyTrust.Proofs.Calendar.Date
import ProxyTrust.Proofs.Der.Element
import ProxyTrust.Proofs.Text.Numeral
import ProxyTrust.X509.Certificate

namespace ProxyTrust.X509

open Text (padded)

/-! ## Pairs of digits -/

theorem asciiBytes_append (s t : List Char) : asciiBytes (s ++ t) = asciiBytes s ++ asciiBytes t :=
  List.map_append

theorem digit?_digitChar :
    ∀ d < 10, digit? (UInt8.ofNat (Nat.digitChar d).toNat) = some d := by decide

/-- Two digits that were written are read as their number. -/
theorem pair?_padded {n : Nat} (h : n < 100) (rest : List UInt8) :
    pair? (asciiBytes (padded 2 n) ++ rest) = some (n, rest) := by
  have htens := digit?_digitChar (n / 10) (by omega)
  have hunits := digit?_digitChar (n % 10) (by omega)
  have hvalue : n / 10 * 10 + n % 10 = n := by omega
  rw [Text.padded_two h]
  show pair? (UInt8.ofNat (Nat.digitChar (n / 10)).toNat
    :: UInt8.ofNat (Nat.digitChar (n % 10)).toNat :: rest) = some (n, rest)
  rw [pair?, htens, hunits]
  simp only [hvalue]

theorem length_padded_two {n : Nat} (h : n < 100) : (asciiBytes (padded 2 n)).length = 2 := by
  rw [asciiBytes, List.length_map, Text.padded_two h]
  rfl

/-! ## Years -/

/-- The digits of a year. -/
def yearDigits (form : TimeForm) (year : Nat) : List Char :=
  match form with
  | .utc => padded 2 (year % 100)
  | .generalized => padded 4 year

/-- A year that a form can hold is read as itself. -/
theorem year?_yearDigits {form : TimeForm} {year : Int} (h : form.holdsYear year = true)
    (rest : List UInt8) : year? form (asciiBytes (yearDigits form year.toNat) ++ rest)
      = some (year, rest) := by
  cases form with
  | utc =>
    simp only [TimeForm.holdsYear, Bool.and_eq_true, decide_eq_true_eq] at h
    -- two digits stand for a year of one of two centuries
    have hcentury :
        ((if 50 ≤ year.toNat % 100 then 1900 + year.toNat % 100 else 2000 + year.toNat % 100 : Nat)
        : Int) = year := by
      split <;> omega
    rw [year?, yearDigits, pair?_padded (by omega)]
    exact congrArg (fun y => some (y, rest)) hcentury
  | generalized =>
    simp only [TimeForm.holdsYear, Bool.and_eq_true, decide_eq_true_eq] at h
    -- four digits are two pairs of digits
    have hyear : ((year.toNat / 100 * 100 + year.toNat % 100 : Nat) : Int) = year := by omega
    rw [year?, yearDigits, Text.padded_four, asciiBytes_append, List.append_assoc,
      pair?_padded (by omega)]
    show ((pair? (asciiBytes (padded 2 (year.toNat % 100)) ++ rest)).bind fun r =>
      some (((year.toNat / 100 * 100 + r.1 : Nat) : Int), r.2)) = some (year, rest)
    rw [pair?_padded (by omega)]
    exact congrArg (fun y => some (y, rest)) hyear

/-! ## Times -/

/-- The bytes after the year. -/
def clockBytes (t : Moment) : List UInt8 :=
  asciiBytes (padded 2 t.date.month) ++ (asciiBytes (padded 2 t.date.day) ++
    (asciiBytes (padded 2 (t.second / 3600)) ++ (asciiBytes (padded 2 (t.second / 60 % 60)) ++
      (asciiBytes (padded 2 (t.second % 60)) ++ [zulu]))))

theorem timeContent_eq (form : TimeForm) (t : Moment) :
    timeContent form t = asciiBytes (yearDigits form t.date.year.toNat) ++ clockBytes t := by
  have hzulu : asciiBytes ['Z'] = [zulu] := rfl
  cases form with
  | utc =>
    simp only [timeContent, yearDigits, clockBytes, asciiBytes_append, List.append_assoc, hzulu]
  | generalized =>
    simp only [timeContent, yearDigits, clockBytes, asciiBytes_append, List.append_assoc, hzulu]

/-- Two digits before the end are seconds. -/
theorem seconds?_padded {n : Nat} (h : n < 100) :
    seconds? (asciiBytes (padded 2 n) ++ [zulu]) = some (n, [zulu]) := by
  have hmore : asciiBytes (padded 2 n) ++ [zulu] ≠ [zulu] := by
    intro heq
    have hlength := congrArg List.length heq
    rw [List.length_append, length_padded_two h] at hlength
    exact absurd hlength (by decide)
  rw [seconds?, if_neg hmore, pair?_padded h]

/-- A time that was written is read as the same date and time of day, at no offset. -/
theorem readTime?_timeContent {form : TimeForm} {t : Moment} (hreal : t.date.isReal = true)
    (hsecond : t.second < Moment.daySeconds) (hyear : form.holdsYear t.date.year = true) :
    readTime? form (timeContent form t) = some ⟨t.date, t.second, 0, 0⟩ := by
  obtain ⟨-, hmonth, -, hday⟩ := Date.bounds_of_isReal hreal
  have hbound : t.second < 86400 := hsecond
  have hclock : (t.second / 3600 * 60 + t.second / 60 % 60) * 60 + t.second % 60
      = t.second := by omega
  have hhour : t.second / 3600 ≤ 23 := by omega
  have hminute : t.second / 60 % 60 ≤ 59 := by omega
  have hlast : t.second % 60 ≤ 59 := by omega
  rw [timeContent_eq, readTime?, year?_yearDigits hyear]
  simp only [Option.bind_eq_bind, Option.bind_some, clockBytes,
    pair?_padded (n := t.date.month) (by omega), pair?_padded (n := t.date.day) (by omega),
    pair?_padded (n := t.second / 3600) (by omega),
    pair?_padded (n := t.second / 60 % 60) (by omega),
    seconds?_padded (n := t.second % 60) (by omega), hreal,
    hhour, hminute, hlast, hclock]
  cases form with
  | utc => rfl
  | generalized => rfl

/-! ## Elements of times -/

/-- A year has four digits at most. -/
theorem length_yearDigits_le {form : TimeForm} {year : Int} (h : form.holdsYear year = true) :
    (asciiBytes (yearDigits form year.toNat)).length ≤ 4 := by
  cases form with
  | utc =>
    have hdigits := length_padded_two (n := year.toNat % 100) (by omega)
    rw [yearDigits]
    omega
  | generalized =>
    simp only [TimeForm.holdsYear, Bool.and_eq_true, decide_eq_true_eq] at h
    have hfirst := length_padded_two (n := year.toNat / 100) (by omega)
    have hsecond := length_padded_two (n := year.toNat % 100) (by omega)
    rw [yearDigits, Text.padded_four, asciiBytes_append, List.length_append]
    omega

/-- Month, day and time of day have ten digits, and one letter follows. -/
theorem length_clockBytes {t : Moment} (hreal : t.date.isReal = true)
    (hsecond : t.second < Moment.daySeconds) : (clockBytes t).length = 11 := by
  obtain ⟨-, hmonth, -, hday⟩ := Date.bounds_of_isReal hreal
  have hbound : t.second < 86400 := hsecond
  simp only [clockBytes, List.length_append, List.length_singleton,
    length_padded_two (n := t.date.month) (by omega),
    length_padded_two (n := t.date.day) (by omega),
    length_padded_two (n := t.second / 3600) (by omega),
    length_padded_two (n := t.second / 60 % 60) (by omega),
    length_padded_two (n := t.second % 60) (by omega)]

theorem ofTag?_tag (form : TimeForm) : TimeForm.ofTag? form.tag = some form := by
  cases form with
  | utc => rfl
  | generalized => rfl

theorem tagByte_toNat (form : TimeForm) : (UInt8.ofNat form.tag).toNat % 32 = form.tag := by
  cases form with
  | utc => rfl
  | generalized => rfl

theorem tag_ne_high (form : TimeForm) : form.tag ≠ 31 := by
  cases form with
  | utc => decide
  | generalized => decide

/-- The element of a moment is read as its instant in whole seconds, at no offset. -/
theorem time_of_writeTime? {t : Moment} {bytes : List UInt8} (h : writeTime? t = some bytes)
    (rest : List UInt8) : time (bytes ++ rest) = .ok (.ofUnix t.unix 0 0, rest) := by
  rw [writeTime?] at h
  split at h
  · next hholds =>
    obtain rfl := Option.some.inj h
    have hyear : (formOf t).holdsYear t.utc.date.year = true := (Bool.and_eq_true_iff.mp hholds).2
    have hreal : t.utc.date.isReal = true := Date.isReal_ofDayNumber _
    have hsecond : t.utc.second < Moment.daySeconds := Moment.second_ofUnix_lt _ _ _
    have hlength : (timeContent (formOf t) t.utc).length < Der.lengthBound := by
      have hfront := length_yearDigits_le hyear
      have hback := length_clockBytes hreal hsecond
      rw [timeContent_eq, List.length_append, Der.lengthBound]
      omega
    have htag : (UInt8.ofNat (formOf t).tag).toNat % 32 ≠ 31 := by
      rw [tagByte_toNat]
      exact tag_ne_high _
    rw [time, Der.element_write htag hlength]
    simp only [Der.headerOf, tagByte_toNat, ofTag?_tag, Option.bind_some,
      readTime?_timeContent hreal hsecond hyear]
    rfl
  · cases h

end ProxyTrust.X509
