import Mathlib.Data.List.TakeWhile
import Mathlib.Tactic.ByContra
import Mathlib.Tactic.SplitIfs
import TemplateFacts.Proofs.Text.Decimal
import TemplateFacts.Timestamp

/-!
The date of a day is one of the calendar, and its year has four digits between the first day of the
year zero and the last one of the year 9999.

The two grammars of date-times: what a stamp given by hand needs besides to be a date-time of the
contract, and which points in time are written as one.
-/

namespace TemplateFacts.Calendar

/-- The year of an era that a day of the era belongs to, both counted from zero in March. -/
def yearOfEra (day : Nat) : Nat := (day - day / 1460 + day / 36524 - day / 146096) / 365

/-- The day of an era with which a year of the era begins. -/
def firstDay (year : Nat) : Nat := 365 * year + year / 4 - year / 100

/-- Later days belong to no earlier years. -/
theorem yearOfEra_mono {day later : Nat} (le : day ≤ later) : yearOfEra day ≤ yearOfEra later := by
  -- Within four hundred years the three corrections never take back more than a day brings.
  have fourth (n : Nat) : n / 146096 = n / 36524 / 4 := by rw [Nat.div_div_eq_div_mul]
  have centuries : day / 36524 ≤ later / 36524 := Nat.div_le_div_right le
  unfold yearOfEra
  rw [fourth, fourth]
  exact Nat.div_le_div_right (by omega)

/-- The first and the last day of a year belong to it. -/
theorem yearOfEra_table : (∀ year < 400, yearOfEra (firstDay year) = year) ∧
    (∀ year < 399, yearOfEra (firstDay (year + 1) - 1) = year) := by decide +kernel

/-- A year of more than 365 days ends in a leap year. -/
theorem isLeap_of_long {year : Nat} (long : firstDay year + 365 < firstDay (year + 1)) :
    isLeap (year + 1) = true := by
  unfold firstDay at long
  have centuries : year / 100 ≤ (year + 1) / 100 := Nat.div_le_div_right (Nat.le_succ year)
  -- A year with a day more has a quarter day to give back, and no century takes it away.
  have fourth : (year + 1) % 4 = 0 := by
    by_contra other
    have same : (year + 1) / 4 = year / 4 := by omega
    omega
  have noCentury : (year + 1) % 100 ≠ 0 := by
    intro century
    have next : (year + 1) / 4 = year / 4 + 1 := by omega
    have nextCentury : (year + 1) / 100 = year / 100 + 1 := by omega
    omega
  simp only [isLeap, Bool.and_eq_true, Bool.or_eq_true, beq_iff_eq, bne_iff_ne]
  omega

/-- A day of an era lies in its year, which has a leap day at its end if it ends in a leap year. -/
theorem day_within_year {day : Nat} (within : day ≤ 146096) :
    yearOfEra day ≤ 399 ∧ firstDay (yearOfEra day) ≤ day ∧ day ≤ firstDay (yearOfEra day) + 365 ∧
      (day = firstDay (yearOfEra day) + 365 → isLeap (yearOfEra day + 1) = true) := by
  -- No day before the first day of a year belongs to it, and no day from the first of the next on.
  obtain ⟨first, last⟩ := yearOfEra_table
  have most : yearOfEra day ≤ 399 := Nat.le_trans (yearOfEra_mono within) (by decide +kernel)
  have begun : firstDay (yearOfEra day) ≤ day := by
    by_contra before
    obtain ⟨year, same⟩ : ∃ year, yearOfEra day = year + 1 :=
      Nat.exists_eq_add_one_of_ne_zero fun none => by rw [none] at before; simp [firstDay] at before
    have earlier : day ≤ firstDay (year + 1) - 1 := by rw [same] at before; omega
    have le := yearOfEra_mono earlier
    rw [last year (by omega)] at le
    omega
  -- A day past the year would be one of the next year.
  have notOver : yearOfEra day < 399 → day < firstDay (yearOfEra day + 1) := by
    intro more
    by_contra past
    have le := yearOfEra_mono (Nat.not_lt.mp past)
    rw [first _ (by omega)] at le
    omega
  generalize yearOfEra day = year at *
  refine ⟨most, begun, ?_, fun leapDay => ?_⟩
  · -- A year has 365 days, and one more in a leap year.
    unfold firstDay at *
    omega
  · -- A year of 366 days is told by where the next one begins, but for the last one of the era.
    rcases Nat.lt_or_eq_of_le most with more | rfl
    · exact isLeap_of_long (leapDay ▸ notOver more)
    · decide

/-- The month of a day of a year that begins in March. -/
def monthOf (day : Nat) : Nat :=
  let march := (5 * day + 2) / 153
  if march < 10 then march + 3 else march - 9

/-- The day of the month of a day of a year that begins in March. -/
def dayOfMonth (day : Nat) : Nat := day - (153 * ((5 * day + 2) / 153) + 2) / 5 + 1

/-- The days of a year lie in its months, and only a leap day is the twenty-ninth of February. -/
theorem month_table : ∀ day < 366,
    (monthOf day ≤ 2 ↔ 306 ≤ day) ∧ 1 ≤ dayOfMonth day ∧
      if monthOf day = 2 then dayOfMonth day ≤ 28 ∨ (dayOfMonth day = 29 ∧ day = 365)
      else dayOfMonth day ≤ daysInMonth 1 (monthOf day) := by decide +kernel

/-- A date is found from the era of its day, the day in its era, and the day in its year. -/
theorem dateOfDays_eq {days era : Int} {day : Nat} (split : days + 719468 = era * 146097 + day)
    (within : day ≤ 146096) :
    dateOfDays days =
      { year := era * 400 + yearOfEra day +
          (if monthOf (day - firstDay (yearOfEra day)) ≤ 2 then 1 else 0)
        month := monthOf (day - firstDay (yearOfEra day))
        day := dayOfMonth (day - firstDay (yearOfEra day)) } := by
  -- The division by the length of an era is unique, so the era and the day in it are the given ones.
  have eraIs : Int.fdiv (days + 719468) 146097 = era := by
    rw [Int.fdiv_eq_ediv_of_nonneg _ (by decide)]
    omega
  have dayIs : (days + 719468 - era * 146097).toNat = day := by omega
  rw [dateOfDays]
  simp only [eraIs, dayIs]
  rfl

/-- Every day belongs to an era. -/
theorem exists_era (days : Int) :
    ∃ (era : Int) (day : Nat), days + 719468 = era * 146097 + day ∧ day ≤ 146096 :=
  ⟨(days + 719468) / 146097, ((days + 719468) % 146097).toNat, by omega, by omega⟩

/-- February has a day more in a leap year. -/
theorem daysInMonth_february (year : Int) : daysInMonth year 2 = if isLeap year then 29 else 28 := rfl

/-- The date of a day is one of the calendar. -/
theorem isDay_dateOfDays (days : Int) :
    isDay (dateOfDays days).year (dateOfDays days).month (dateOfDays days).day = true := by
  -- Day, month and year are told apart by the tables of an era and of a year.
  obtain ⟨era, day, split, within⟩ := exists_era days
  obtain ⟨most, begun, long, leapDay⟩ := day_within_year within
  rw [dateOfDays_eq split within]
  dsimp only
  generalize yearOfEra day = year at *
  generalize ofYearIs : day - firstDay year = ofYear
  obtain ⟨turn, least, most⟩ := month_table ofYear (by omega)
  rw [isDay, Bool.and_eq_true, decide_eq_true_eq, decide_eq_true_eq]
  refine ⟨least, ?_⟩
  -- February is the only month whose days depend on the year, and the tables know its last day.
  split at most
  · rename_i february
    rw [if_pos (by omega), february, daysInMonth_february]
    rcases most with short | ⟨last, leap⟩
    · split <;> omega
    · have isLeap : isLeap (era * 400 + year + 1) = true := by
        have ends := leapDay (by omega)
        simp only [Calendar.isLeap, Bool.and_eq_true, Bool.or_eq_true, beq_iff_eq, bne_iff_ne] at ends ⊢
        omega
      rw [if_pos isLeap]
      exact Nat.le_of_eq last
  · rename_i other
    -- The other months have the same days in every year.
    have same (year : Int) : daysInMonth year (monthOf ofYear) = daysInMonth 1 (monthOf ofYear) := by
      unfold daysInMonth
      split
      · contradiction
      all_goals rfl
    rw [same]
    exact most

/-- The numbers of a month and of a day in it have at most two digits. -/
theorem small_of_isDay {year : Int} {month day : Nat} (exists_ : isDay year month day = true) :
    month ≤ 12 ∧ day ≤ 31 := by
  -- Every month has at most 31 days, and there are 12.
  rw [isDay, Bool.and_eq_true, decide_eq_true_eq, decide_eq_true_eq] at exists_
  obtain ⟨least, most⟩ := exists_
  unfold daysInMonth at most
  split at most
  · split at most <;> omega
  all_goals omega

/-- The years of four digits are those of some days. -/
theorem year_dateOfDays_iff (days : Int) :
    (0 ≤ (dateOfDays days).year ∧ (dateOfDays days).year ≤ 9999) ↔
      -719528 ≤ days ∧ days < 2932897 := by
  -- Both ends are the first days of an era in March, moved by the two months that the year lacks.
  obtain ⟨era, day, split, within⟩ := exists_era days
  obtain ⟨most, begun, long, leapDay⟩ := day_within_year within
  rw [dateOfDays_eq split within]
  dsimp only
  generalize yearOfEra day = year at *
  generalize ofYearIs : day - firstDay year = ofYear
  obtain ⟨turn, -⟩ := month_table ofYear (by omega)
  have leaps : year / 4 ≤ year / 100 + 96 := by
    have years : ∀ year ≤ 399, year / 4 ≤ year / 100 + 96 := by decide +kernel
    exact years year most
  unfold firstDay at *
  -- In the last two months the year of the calendar is one more.
  split
  · rename_i turned
    have late := turn.mp turned
    omega
  · rename_i same
    have early : ofYear < 306 := Nat.not_le.mp fun late => same (turn.mpr late)
    constructor
    · rintro ⟨least, greatest⟩
      have first : 0 ≤ era := by omega
      have last : era ≤ 24 := by omega
      omega
    · rintro ⟨least, greatest⟩
      have first : 0 ≤ era := by
        by_contra negative
        omega
      omega

end TemplateFacts.Calendar

namespace TemplateFacts.Timestamp

section Grammar

/-- A character that both grammars of date-times have. -/
def IsMark (c : Char) : Prop := Text.isDigit c = true ∨ c ∈ ['-', ':', '.', '+', 'Z', 'z']

instance : DecidablePred IsMark := fun _ => inferInstanceAs (Decidable (_ ∨ _))

variable {isSeparator isMinus : Char → Bool} {cs rest : List Char}

/-- What is read stands before the rest, and consists of marks. -/
def Takes (cs rest : List Char) : Prop := ∃ taken, cs = taken ++ rest ∧ ∀ c ∈ taken, IsMark c

/-- Digits are read. -/
theorem isMark_of_twoDigits? {a b : Char} {n : Nat} (reads : twoDigits? a b = some n) :
    IsMark a ∧ IsMark b := by
  -- Two characters are read as a number only when both are digits.
  unfold twoDigits? at reads
  split at reads
  · rename_i digits
    obtain ⟨first, second⟩ := Bool.and_eq_true_iff.mp digits
    exact ⟨.inl first, .inl second⟩
  · cases reads

/-- A day is read from digits and dashes. -/
theorem takes_of_readDate? {date : Calendar.Date} (reads : readDate? cs = some (date, rest)) :
    Takes cs rest := by
  -- Only the ten characters of a day are taken, and all of them are digits or dashes.
  unfold readDate? at reads
  split at reads
  · rename_i y1 y2 y3 y4 m1 m2 d1 d2 more
    simp only [Option.bind_eq_bind, Option.bind_eq_some_iff] at reads
    obtain ⟨century, inCentury, year, inYear, month, inMonth, day, inDay, reads⟩ := reads
    split at reads
    · cases reads
      refine ⟨[y1, y2, y3, y4, '-', m1, m2, '-', d1, d2], rfl, ?_⟩
      have dash : IsMark '-' := .inr (by decide)
      simp [dash, isMark_of_twoDigits? inCentury, isMark_of_twoDigits? inYear,
        isMark_of_twoDigits? inMonth, isMark_of_twoDigits? inDay]
    · cases reads
  · cases reads

/-- A clock time is read from digits and colons. -/
theorem takes_of_readClock? {clock : Clock} (reads : readClock? cs = some (clock, rest)) :
    Takes cs rest := by
  unfold readClock? at reads
  -- Two digits each for the hour, the minute and the second, and what is in front is just that.
  split at reads
  · rename_i h1 h2 m1 m2 s1 s2 more
    simp only [Option.bind_eq_bind, Option.bind_eq_some_iff] at reads
    obtain ⟨hour, inHour, minute, inMinute, second, inSecond, reads⟩ := reads
    split at reads
    · cases reads
      refine ⟨[h1, h2, ':', m1, m2, ':', s1, s2], rfl, ?_⟩
      have colon : IsMark ':' := .inr (by decide)
      simp [colon, isMark_of_twoDigits? inHour, isMark_of_twoDigits? inMinute,
        isMark_of_twoDigits? inSecond]
    · cases reads
  · cases reads

/-- A fraction is read from a point and digits. -/
theorem takes_of_skipFraction? (reads : skipFraction? cs = some rest) : Takes cs rest := by
  unfold skipFraction? at reads
  split at reads
  · rename_i c more
    split at reads
    -- The fraction takes the point, its first digit, and all digits behind it.
    · rename_i digit
      cases reads
      refine ⟨'.' :: c :: more.takeWhile Text.isDigit, ?_, ?_⟩
      · rw [List.cons_append, List.cons_append, List.takeWhile_append_dropWhile]
      · have point : IsMark '.' := .inr (by decide)
        have first : IsMark c := .inl digit
        simp only [List.forall_mem_cons]
        exact ⟨point, first, fun d member => .inl (List.mem_takeWhile_imp member)⟩
    · cases reads
  · cases reads
  · cases reads
    exact ⟨[], rfl, fun c member => by cases member⟩

/-- An offset is read from digits, a colon and a sign, or is the letter of universal time. -/
theorem marks_of_readOffset? {offset : Int} (reads : readOffset? isMinus cs = some offset) :
    ∀ c ∈ cs, IsMark c ∨ isMinus c = true := by
  unfold readOffset? at reads
  split at reads
  · simp [IsMark]
  · simp [IsMark]
  · rename_i sign h1 h2 m1 m2
    simp only [Option.bind_eq_bind, Option.bind_eq_some_iff] at reads
    obtain ⟨hours, inHours, minutes, inMinutes, reads⟩ := reads
    have colon : IsMark ':' := .inr (by decide)
    -- What stands in place of the sign is a plus, or a minus of the grammar.
    have signed : IsMark sign ∨ isMinus sign = true := by
      split_ifs at reads with small plus minus
      · exact .inl (.inr (by simp [beq_iff_eq.mp plus]))
      · exact .inr minus
    simp [colon, signed, isMark_of_twoDigits? inHours, isMark_of_twoDigits? inMinutes]
  · cases reads

/-- Another choice of minus signs is no other offset, if it has those of the text. -/
theorem readOffset?_mono {isMinus' : Char → Bool} {offset : Int}
    (reads : readOffset? isMinus cs = some offset)
    (minuses : ∀ c ∈ cs, isMinus c = true → isMinus' c = true) :
    readOffset? isMinus' cs = some offset := by
  unfold readOffset? at reads ⊢
  split at reads
  · exact reads
  · exact reads
  · rename_i sign h1 h2 m1 m2
    simp only [Option.bind_eq_bind, Option.bind_eq_some_iff] at reads ⊢
    obtain ⟨hours, inHours, minutes, inMinutes, reads⟩ := reads
    refine ⟨hours, inHours, minutes, inMinutes, ?_⟩
    -- Behind the hour and the minute only the sign is looked at.
    split_ifs at reads with small plus minus
    · rw [if_pos small, if_pos plus, reads]
    · rw [if_pos small, if_neg plus, if_pos (minuses sign List.mem_cons_self minus), reads]
  · cases reads

/-- A date-time is a day, a separator, a clock time, perhaps a fraction, and an offset. -/
theorem read?_eq_some_iff {r : Reading} :
    read? isSeparator isMinus cs = some r ↔
      ∃ separator inClock behindClock behindFraction,
        readDate? cs = some (r.date, separator :: inClock) ∧ isSeparator separator = true ∧
        readClock? inClock = some (r.clock, behindClock) ∧
        skipFraction? behindClock = some behindFraction ∧
        readOffset? isMinus behindFraction = some r.offset := by
  -- The parts are read one behind the other, and each must be there.
  constructor
  · intro reads
    unfold read? at reads
    split at reads
    · rename_i date separator inClock day
      split at reads
      · rename_i separates
        simp only [Option.bind_eq_bind, Option.bind_eq_some_iff] at reads
        obtain ⟨⟨clock, behindClock⟩, time, behindFraction, fraction, offset, zone, same⟩ := reads
        cases same
        exact ⟨separator, inClock, behindClock, behindFraction, day, separates, time, fraction, zone⟩
      · cases reads
    · cases reads
  · rintro ⟨separator, inClock, behindClock, behindFraction, day, separates, time, fraction, zone⟩
    simp [read?, day, separates, time, fraction, zone]

/-- The characters of a date-time are marks, separators and minus signs. -/
theorem marks_of_read? {r : Reading} (reads : read? isSeparator isMinus cs = some r) :
    ∀ c ∈ cs, IsMark c ∨ isSeparator c = true ∨ isMinus c = true := by
  obtain ⟨separator, inClock, behindClock, behindFraction, day, separates, time, fraction, zone⟩ :=
    read?_eq_some_iff.mp reads
  obtain ⟨inDay, rfl, marksOfDay⟩ := takes_of_readDate? day
  obtain ⟨inTime, rfl, marksOfTime⟩ := takes_of_readClock? time
  obtain ⟨inFraction, rfl, marksOfFraction⟩ := takes_of_skipFraction? fraction
  have marksOfZone := marks_of_readOffset? zone
  simp only [List.mem_append, List.mem_cons]
  -- By the part that the character stands in.
  rintro c (inside | rfl | inside | inside | inside)
  · exact .inl (marksOfDay c inside)
  · exact .inr (.inl separates)
  · exact .inl (marksOfTime c inside)
  · exact .inl (marksOfFraction c inside)
  · exact (marksOfZone c inside).imp_right .inr

/-- Another choice of separators and minus signs is no other reading, if it agrees on the text. -/
theorem read?_mono {isSeparator' isMinus' : Char → Bool} {r : Reading}
    (reads : read? isSeparator isMinus cs = some r)
    (separators : ∀ c ∈ cs, isSeparator c = true → isSeparator' c = true)
    (minuses : ∀ c ∈ cs, isMinus c = true → isMinus' c = true) :
    read? isSeparator' isMinus' cs = some r := by
  obtain ⟨separator, inClock, behindClock, behindFraction, day, separates, time, fraction, zone⟩ :=
    read?_eq_some_iff.mp reads
  obtain ⟨inDay, rfl, -⟩ := takes_of_readDate? day
  obtain ⟨inTime, rfl, -⟩ := takes_of_readClock? time
  obtain ⟨inFraction, rfl, -⟩ := takes_of_skipFraction? fraction
  -- Only the separator and the offset look at what is chosen, and both are parts of the text.
  exact read?_eq_some_iff.mpr ⟨separator, _, _, behindFraction, day,
    separators separator (by simp) separates, time, fraction,
    readOffset?_mono zone fun c member => minuses c (by simp [member])⟩

end Grammar

section Stamp

/-- What a stamp given by hand says, in the grammar that accepts it. -/
def stampReading? (s : String) : Option Reading :=
  read? (fun c => isTimeLetter c || c == ' ') (fun c => c == '-' || c == '\u2212') s.toList

/-- A stamp is a date-time of the contract if it has neither a space nor the true minus sign, and its
leap second, if any, stands at the end of a day in universal time. -/
theorem isDateTime_iff_of_stamp {s : String} {r : Reading} (reads : stampReading? s = some r) :
    isDateTime s = true ↔ ' ' ∉ s.toList ∧ '\u2212' ∉ s.toList ∧
      (r.clock.second < 60 ∨ (r.clock.hour * 60 + r.clock.minute - r.offset : Int) % 1440 = 1439) := by
  constructor
  · -- The grammar of the contract is the narrower one, and so reads nothing else.
    intro holds
    unfold isDateTime at holds
    split at holds
    · rename_i strict readsStrictly
      have marks := marks_of_read? readsStrictly
      have loose : stampReading? s = some strict := read?_mono readsStrictly
        (fun c _ letter => by rw [letter, Bool.true_or]) (fun c _ hyphen => by rw [hyphen, Bool.true_or])
      cases reads.symm.trans loose
      refine ⟨fun space => ?_, fun minus => ?_, ?_⟩
      · exact absurd (marks ' ' space) (by decide)
      · exact absurd (marks '\u2212' minus) (by decide)
      · -- A leap second is told by the clock alone.
        simpa [Reading.leapIsRight] using holds
    · cases holds
  · -- No character of the text is a separator or a minus sign of the wider grammar only.
    rintro ⟨noSpace, noMinus, leap⟩
    have strict : read? isTimeLetter (· == '-') s.toList = some r := by
      refine read?_mono reads (fun c member separates => ?_) (fun c member minus => ?_)
      · rcases Bool.or_eq_true_iff.mp separates with letter | space
        · exact letter
        · rw [beq_iff_eq] at space
          exact absurd (space ▸ member) noSpace
      · rcases Bool.or_eq_true_iff.mp minus with hyphen | other
        · exact hyphen
        · rw [beq_iff_eq] at other
          exact absurd (other ▸ member) noMinus
    rw [isDateTime, strict]
    simpa [Reading.leapIsRight] using leap

end Stamp
section Digits

/-- The characters of a number with zeros in front. -/
theorem toList_padded (width n : Nat) :
    (padded width n).toList =
      List.replicate (width - (Nat.toDigits 10 n).length) '0' ++ Nat.toDigits 10 n := by
  -- The zeros that are missing come first.
  rw [padded, String.toList_ofList]

/-- One place more takes the last digit. -/
theorem toList_padded_succ {width : Nat} (wide : 0 < width) (n : Nat) :
    (padded (width + 1) n).toList = (padded width (n / 10)).toList ++ [(n % 10).digitChar] := by
  rw [toList_padded, toList_padded]
  -- A number of one digit has only zeros in front of the last digit.
  by_cases several : 10 ≤ n
  · rw [Nat.toDigits_of_base_le (by decide) several, List.length_append, List.length_singleton,
      Nat.add_sub_add_right, List.append_assoc]
  · have digit : n < 10 := Nat.not_le.mp several
    have none : n / 10 = 0 := Nat.div_eq_of_lt digit
    obtain ⟨before, rfl⟩ := Nat.exists_eq_add_one_of_ne_zero (Nat.ne_of_gt wide)
    rw [none, Nat.toDigits_of_lt_base digit, Nat.toDigits_of_lt_base (by decide), Nat.mod_eq_of_lt digit]
    exact congrArg (· ++ [n.digitChar]) List.replicate_succ'

theorem padded_one {n : Nat} (small : n < 10) : (padded 1 n).toList = [n.digitChar] := by
  rw [toList_padded, Nat.toDigits_of_lt_base small]
  rfl

theorem padded_two {n : Nat} (small : n < 100) :
    (padded 2 n).toList = [(n / 10).digitChar, (n % 10).digitChar] := by
  -- The digits of a number below a hundred are its quotient and its rest by ten.
  rw [toList_padded_succ (by decide), padded_one (by omega), List.singleton_append]

theorem padded_four {n : Nat} (small : n < 10000) :
    (padded 4 n).toList = [(n / 100 / 10).digitChar, (n / 100 % 10).digitChar,
      (n % 100 / 10).digitChar, (n % 100 % 10).digitChar] := by
  -- The first two digits are those of the hundreds, and the last two those of the rest.
  have third : n / 10 % 10 = n % 100 / 10 := by omega
  have last : n % 10 = n % 100 % 10 := by omega
  rw [toList_padded_succ (by decide), toList_padded_succ (by decide), Nat.div_div_eq_div_mul,
    padded_two (by omega), third, last]
  rfl

/-- A number with zeros in front has digits only, and at least one. -/
theorem isDigit_padded {width n : Nat} {c : Char} (member : c ∈ (padded width n).toList) :
    Text.isDigit c = true := by
  -- A padded number is zeros and digits.
  rw [toList_padded] at member
  rcases List.mem_append.mp member with zero | inside
  · rw [(List.mem_replicate.mp zero).2]
    decide
  · exact Text.isDigit_of_mem_toDigits inside

/-- Two digits are read as what they were written for. -/
theorem twoDigits?_digitChar {a b : Nat} (first : a < 10) (second : b < 10) :
    twoDigits? a.digitChar b.digitChar = some (a * 10 + b) := by
  -- There are a hundred pairs of digits, and each is evaluated.
  have all : ∀ a < 10, ∀ b < 10, twoDigits? a.digitChar b.digitChar = some (a * 10 + b) := by decide
  exact all a first b second

/-- Two digits of a number below a hundred are read as the number. -/
theorem twoDigits?_padded {n : Nat} (small : n < 100) :
    twoDigits? (n / 10).digitChar (n % 10).digitChar = some n := by
  rw [twoDigits?_digitChar (by omega) (by omega)]
  exact congrArg some (by omega)

end Digits

section Instant

variable {rest : List Char}

theorem readDate?_padded {year month day : Nat} (fits : year < 10000)
    (isDay : Calendar.isDay year month day = true) (months : month < 100) (days : day < 100) :
    readDate? ((padded 4 year).toList ++ '-' :: ((padded 2 month).toList ++ '-' ::
      ((padded 2 day).toList ++ rest))) = some (⟨year, month, day⟩, rest) := by
  -- A year of four digits is read as two pairs, and so is put together again.
  rw [padded_four fits, padded_two months, padded_two days]
  have whole : ((year / 100 : Nat) * 100 + (year % 100 : Nat) : Int) = year := by omega
  simp only [List.cons_append, List.nil_append, readDate?, twoDigits?_padded months, twoDigits?_padded days,
    twoDigits?_padded (show year / 100 < 100 by omega), twoDigits?_padded (show year % 100 < 100 by omega),
    Option.bind_eq_bind, Option.bind_some, whole, isDay, if_true]

theorem readClock?_padded {hour minute second : Nat} (hours : hour < 24) (minutes : minute < 60)
    (seconds : second ≤ 60) :
    readClock? ((padded 2 hour).toList ++ ':' :: ((padded 2 minute).toList ++ ':' ::
      ((padded 2 second).toList ++ rest))) = some (⟨hour, minute, second⟩, rest) := by
  -- Every field is below a hundred, so each is one pair of digits.
  rw [padded_two (by omega), padded_two (by omega), padded_two (by omega)]
  simp [readClock?, twoDigits?_padded (show hour < 100 by omega), twoDigits?_padded (show minute < 100 by omega),
    twoDigits?_padded (show second < 100 by omega), hours, minutes, seconds]

/-- A fraction of digits is passed. -/
theorem skipFraction?_digits {digits : List Char} (some : digits ≠ [])
    (all : ∀ c ∈ digits, Text.isDigit c = true) :
    skipFraction? ('.' :: (digits ++ ['Z'])) = .some ['Z'] := by
  -- The first digit is asked for, the others are passed while they come.
  obtain ⟨c, digits, rfl⟩ := List.exists_cons_of_ne_nil some
  obtain ⟨first, later⟩ := List.forall_mem_cons.mp all
  rw [List.cons_append, skipFraction?, if_pos first, List.dropWhile_append_of_pos later]
  rfl

/-- The day of a point in time. -/
def Instant.day (instant : Instant) : Int := Int.fdiv instant.seconds 86400

/-- The second of the day of a point in time. -/
def Instant.secondOfDay (instant : Instant) : Nat := (instant.seconds - instant.day * 86400).toNat

/-- A day ends after twenty-four hours. -/
theorem Instant.secondOfDay_lt (instant : Instant) : instant.secondOfDay < 86400 := by
  rw [secondOfDay, day, Int.fdiv_eq_ediv_of_nonneg _ (by decide)]
  omega

/-- The clock time of a point in time, with a fraction, in universal time. -/
def Instant.clockChars (instant : Instant) : List Char :=
  (padded 2 (instant.secondOfDay / 3600)).toList ++ ':' ::
    ((padded 2 (instant.secondOfDay / 60 % 60)).toList ++ ':' ::
      ((padded 2 (instant.secondOfDay % 60)).toList ++
        '.' :: ((padded 3 (instant.nanoseconds / 1000000)).toList ++ ['Z'])))

/-- The characters of a point in time. -/
theorem Instant.toList_text (instant : Instant) :
    instant.text.toList = (yearText (Calendar.dateOfDays instant.day).year).toList ++
      '-' :: ((padded 2 (Calendar.dateOfDays instant.day).month).toList ++
        '-' :: ((padded 2 (Calendar.dateOfDays instant.day).day).toList ++
          'T' :: instant.clockChars)) := by
  simp [text, clockChars, secondOfDay, day]

/-- The text of a point in time in a year of four digits is a date-time of the contract. -/
theorem isDateTime_text_of_year {instant : Instant}
    (least : 0 ≤ (Calendar.dateOfDays instant.day).year)
    (greatest : (Calendar.dateOfDays instant.day).year ≤ 9999) : isDateTime instant.text = true := by
  -- Every part has as many digits as it is read with, and the date is one of the calendar.
  have isDay := Calendar.isDay_dateOfDays instant.day
  have chars := instant.toList_text
  have ofDay := instant.secondOfDay_lt
  generalize Calendar.dateOfDays instant.day = date at *
  -- The year is not negative, and so it is a natural number.
  obtain ⟨year, month, day⟩ := date
  obtain ⟨year, rfl⟩ := Int.eq_ofNat_of_zero_le least
  obtain ⟨months, days⟩ := Calendar.small_of_isDay isDay
  have fits : year ≤ 9999 := Int.ofNat_le.mp greatest
  -- Up to four digits a year is written without a sign.
  have yearChars : yearText year = padded 4 year := by
    rw [yearText, if_pos (by simp [greatest]), Int.toNat_natCast]
  have fraction : (padded 3 (instant.nanoseconds / 1000000)).toList ≠ [] := by
    rw [toList_padded]
    exact List.append_ne_nil_of_right_ne_nil _ Nat.toDigits_ne_nil
  have reads : read? isTimeLetter (· == '-') instant.text.toList =
      some ⟨⟨year, month, day⟩, ⟨instant.secondOfDay / 3600, instant.secondOfDay / 60 % 60,
        instant.secondOfDay % 60⟩, 0⟩ := by
    rw [chars, yearChars]
    exact read?_eq_some_iff.mpr ⟨'T', _, _, ['Z'],
      readDate?_padded (by omega) isDay (by omega) (by omega), by decide,
      readClock?_padded (by omega) (by omega) (by omega),
      skipFraction?_digits fraction fun c member => isDigit_padded member, rfl⟩
  have noLeap : instant.secondOfDay % 60 < 60 := Nat.mod_lt _ (by decide)
  rw [isDateTime, reads]
  simp [Reading.leapIsRight, noLeap]

/-- What begins with a sign is no day. -/
theorem readDate?_sign {sign : Char} (noDigit : Text.isDigit sign = false) :
    readDate? (sign :: rest) = none := by
  -- The first character of a year is a digit.
  unfold readDate?
  split
  · rename_i same
    obtain ⟨rfl, rfl⟩ := List.cons.inj same
    simp [twoDigits?, noDigit]
  · rfl

/-- The text of a point in time in any other year begins with a sign, and is none. -/
theorem isDateTime_text_of_sign {instant : Instant}
    (outside : ¬ (0 ≤ (Calendar.dateOfDays instant.day).year ∧
      (Calendar.dateOfDays instant.day).year ≤ 9999)) : isDateTime instant.text = false := by
  -- A year outside is written with a sign, and a date begins with a digit.
  have chars := instant.toList_text
  generalize Calendar.dateOfDays instant.day = date at *
  obtain ⟨sign, behind, same, noDigit⟩ : ∃ sign behind,
      instant.text.toList = sign :: behind ∧ Text.isDigit sign = false := by
    rw [yearText, if_neg (by simpa using outside)] at chars
    split at chars
    · exact ⟨'-', _, by rw [chars, String.toList_append]; rfl, by decide⟩
    · exact ⟨'+', _, by rw [chars, String.toList_append]; rfl, by decide⟩
  rw [isDateTime, same, read?, readDate?_sign noDigit]

/-- The text of a point in time is a date-time of the contract from the beginning of the year zero to
the end of the year 9999. -/
theorem isDateTime_text_iff (instant : Instant) :
    isDateTime instant.text = true ↔
      -62167219200 ≤ instant.seconds ∧ instant.seconds < 253402300800 := by
  have range : (-719528 ≤ instant.day ∧ instant.day < 2932897) ↔
      -62167219200 ≤ instant.seconds ∧ instant.seconds < 253402300800 := by
    -- The first and the last second are those of the first and the last day.
    rw [Instant.day, Int.fdiv_eq_ediv_of_nonneg _ (by decide)]
    omega
  rw [← range, ← Calendar.year_dateOfDays_iff]
  constructor
  · intro holds
    by_contra outside
    rw [isDateTime_text_of_sign outside] at holds
    cases holds
  · rintro ⟨least, greatest⟩
    exact isDateTime_text_of_year least greatest

end Instant

end TemplateFacts.Timestamp
