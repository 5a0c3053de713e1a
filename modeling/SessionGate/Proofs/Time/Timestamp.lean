import Mathlib.Algebra.Group.Nat.Defs
import Mathlib.Data.List.TakeWhile
import SessionGate.Time.Timestamp

/-! Points in time are read back from their text. -/

namespace SessionGate.Timestamp

/-- A point in time of a year of four digits, on the calendar and on the clock, and in no leap
second. -/
structure Ordinary (point : Timestamp) : Prop where
  year : 0 ≤ point.year ∧ point.year ≤ 9999
  month : 1 ≤ point.month ∧ point.month ≤ 12
  day : 1 ≤ point.day ∧ point.day ≤ daysInMonth point.year point.month
  hour : point.hour ≤ 23
  minute : point.minute ≤ 59
  second : point.second ≤ 59
  nanosecond : point.nanosecond < Nat.pow 10 9

/-- The number that digits spell. -/
theorem numberOf_eq (digits : List Char) : numberOf digits = Nat.ofDigitChars 10 digits 0 := by
  -- Both count in tens from the left.
  rw [numberOf, Nat.ofDigitChars_eq_foldl]
  exact congrArg (fun step => digits.foldl step 0) (funext fun value => funext fun c =>
    congrArg (· + (c.toNat - 48)) (Nat.mul_comm value 10))

section Padded

variable {width value : Nat} {c : Char} {rest : List Char}

/-- Zeros before a number are digits as well. -/
theorem isDigit_of_mem_padded (member : c ∈ padded width value) : isDigit c = true := by
  -- The characters are the zeros in front and the digits of the number.
  rcases List.mem_append.mp member with zero | digit
  · rw [List.eq_of_mem_replicate zero]
    rfl
  · exact Nat.isDigit_of_mem_toDigits (by decide) (by decide) digit

/-- Zeros before a number do not change it. -/
theorem numberOf_padded (width value : Nat) : numberOf (padded width value) = value := by
  -- Zeros in front count for nothing.
  rw [numberOf_eq, padded, Nat.ofDigitChars_append, Nat.ofDigitChars_replicate_zero, Nat.mul_zero,
    Nat.ofDigitChars_ten_toDigits]

/-- A number that fits is filled up to the width. -/
theorem length_padded (positive : 0 < width) (fits : value < 10 ^ width) :
    (padded width value).length = width := by
  -- The number has at most as many digits as the width, and zeros fill up the rest.
  have short : (Nat.toDigits 10 value).length ≤ width :=
    (Nat.length_toDigits_le_iff (by decide) positive).mpr fits
  rw [padded, List.length_append, List.length_replicate]
  omega

/-- A padded number begins with a digit. -/
theorem padded_cons (width value : Nat) :
    ∃ c chars, padded width value = c :: chars ∧ isDigit c = true := by
  -- A number has at least one digit.
  cases digits : padded width value with
  | nil => exact absurd (List.append_eq_nil_iff.mp digits).2 Nat.toDigits_ne_nil
  | cons c chars =>
    have member : c ∈ padded width value := by simp [digits]
    exact ⟨c, chars, rfl, isDigit_of_mem_padded member⟩

/-- A digit is no blank. -/
theorem isBlank_of_isDigit (digit : isDigit c = true) : Text.isBlank c = false := by
  -- Digits lie between the blanks, which are all told by their numbers.
  have bounds : 48 ≤ c.toNat ∧ c.toNat ≤ 57 := Char.isDigit_iff_toNat.mp digit
  have others : ∀ point, point < 48 ∨ 57 < point → (c.toNat == point) = false := by
    intro point outside
    rw [beq_eq_false_iff_ne]
    omega
  simp [Text.isBlank, others]
  omega

/-- No blank stands before a padded number. -/
theorem dropWhile_padded (width value : Nat) (rest : List Char) :
    (padded width value ++ rest).dropWhile Text.isBlank = padded width value ++ rest := by
  -- The first character is a digit, and a digit is no blank.
  obtain ⟨c, chars, leading, digit⟩ := padded_cons width value
  rw [leading, List.cons_append, List.dropWhile_cons_of_neg]
  simp [isBlank_of_isDigit digit]

/-- A padded number is read back. -/
theorem number?_padded (positive : 0 < width) (fits : value < 10 ^ width) (rest : List Char) :
    number? width (padded width value ++ rest) = some (value, rest) := by
  -- As many characters are taken as the number is wide, and all of them are digits.
  have length := length_padded positive fits
  have taken : (padded width value ++ rest).take width = padded width value :=
    List.take_left' length
  have digits : (padded width value).takeWhile isDigit = padded width value :=
    List.takeWhile_eq_self_iff.mpr fun c member => isDigit_of_mem_padded member
  obtain ⟨c, chars, leading, -⟩ := padded_cons width value
  have filled : (padded width value).isEmpty = false := by rw [leading]; rfl
  simp only [number?, dropWhile_padded, taken, digits, filled, numberOf_padded, List.drop_left,
    Bool.false_eq_true, if_false]

/-- A year of four digits is read back. -/
theorem year?_padded (fits : value < 10 ^ 4) (rest : List Char) :
    year? (padded 4 value ++ rest) = some ((value : Int), rest) := by
  have read := number?_padded (by decide) fits rest
  obtain ⟨c, chars, leading, digit⟩ := padded_cons 4 value
  rw [year?, dropWhile_padded]
  rw [leading, List.cons_append] at read ⊢
  -- A digit is no sign.
  split
  next sign =>
    cases sign
    exact absurd digit (by decide)
  next sign =>
    cases sign
    exact absurd digit (by decide)
  next =>
    rw [read]
    rfl

/-- Behind the point, digits up to the ninth are a part of a second. -/
theorem fraction?_padded (positive : 0 < width) (narrow : width ≤ 9) (fits : value < 10 ^ width) :
    fraction? ('.' :: padded width value ++ ['Z']) =
      some (value * Nat.pow 10 (9 - width), ['Z']) := by
  -- The digits end at the mark of UTC, and at most nine of them count.
  have length := length_padded positive fits
  have digits : (padded width value ++ ['Z']).takeWhile isDigit = padded width value := by
    rw [List.takeWhile_append_of_pos fun c member => isDigit_of_mem_padded member]
    exact List.append_nil _
  have behind : (padded width value ++ ['Z']).drop width = ['Z'] := List.drop_left' length
  have kept : (padded width value).take 9 = padded width value :=
    List.take_of_length_le (length.trans_le narrow)
  obtain ⟨c, chars, leading, -⟩ := padded_cons width value
  have filled : (padded width value).isEmpty = false := by rw [leading]; rfl
  simp only [fraction?, List.cons_append, digits, filled, kept, numberOf_padded, length,
    behind, Bool.false_eq_true, if_false]

end Padded

/-- A part of a second is read back from its digits. -/
theorem fraction?_fractionText {nanosecond : Nat} (within : nanosecond < Nat.pow 10 9) :
    fraction? (fractionText nanosecond ++ ['Z']) = some (nanosecond, ['Z']) := by
  have bound : nanosecond < 1000000000 := within
  rw [fractionText]
  -- There are no digits, three, six or nine, whichever tells the part exactly.
  split
  next none =>
    rw [beq_iff_eq.mp none]
    rfl
  -- Milliseconds are told by three digits, and nothing is lost.
  split
  next whole =>
    have exact : nanosecond / 1000000 * Nat.pow 10 6 = nanosecond :=
      Nat.div_mul_cancel (Nat.dvd_of_mod_eq_zero (beq_iff_eq.mp whole))
    rw [fraction?_padded (by decide) (by decide) (by omega), exact]
  split
  next whole =>
    have exact : nanosecond / 1000 * Nat.pow 10 3 = nanosecond :=
      Nat.div_mul_cancel (Nat.dvd_of_mod_eq_zero (beq_iff_eq.mp whole))
    rw [fraction?_padded (by decide) (by decide) (by omega), exact]
  -- Otherwise all of the nine digits are told.
  next =>
    rw [fraction?_padded (by decide) (by decide) (by omega)]
    simp

/-- A point in time that is already in UTC is not moved. -/
theorem shiftMinutes_zero {point : Timestamp} (hour : point.hour ≤ 23)
    (minute : point.minute ≤ 59) : shiftMinutes point 0 = point := by
  -- Neither the day nor the time of day is changed.
  have total : (point.hour * 60 + point.minute + 0 : Int).emod 1440 =
      point.hour * 60 + point.minute := Int.emod_eq_of_lt (by omega) (by omega)
  have early : ¬ (point.hour * 60 + point.minute + 0 : Int) < 0 := by omega
  have late : ¬ (1440 : Int) ≤ point.hour * 60 + point.minute + 0 := by omega
  have hours : ((point.hour * 60 + point.minute : Int) / 60).toNat = point.hour := by omega
  have minutes : ((point.hour * 60 + point.minute : Int) % 60).toNat = point.minute := by omega
  simp only [shiftMinutes, total, if_neg early, if_neg late, hours, minutes]

/-- A mark that stands next is read, where no blank stands for itself. -/
theorem mark?_cons {wanted : Char} (notBlank : Text.isBlank wanted = false) (rest : List Char) :
    mark? wanted ((wanted :: rest).dropWhile Text.isBlank) = some rest := by
  -- The mark is no blank, so nothing stands before it.
  rw [List.dropWhile_cons_of_neg (by simp [notBlank]), mark?, if_pos (beq_self_eq_true wanted)]

/-- What is on the calendar and on the clock passes every check of the reader. -/
theorem Ordinary.checks {point : Timestamp} (ordinary : point.Ordinary) :
    (point.month == 0 || 12 < point.month || point.day == 0 ||
        daysInMonth point.year point.month < point.day) = false ∧
      (23 < point.hour || 59 < point.minute || 60 < point.second) = false ∧
      (point.year < firstYear || lastYear < point.year) = false := by
  -- Every check asks for what the fields are already known to keep to.
  obtain ⟨year, month, day, hour, minute, second, -⟩ := ordinary
  have span : ¬ point.year < firstYear ∧ ¬ lastYear < point.year := by
    rw [show firstYear = -262143 from rfl, show lastYear = 262142 from rfl]
    omega
  simp only [Bool.or_eq_false_iff, beq_eq_false_iff_ne, decide_eq_false_iff_not, ne_eq]
  exact ⟨by omega, by omega, span⟩

/-- A point in time is read back from its text. -/
theorem read?_render {point : Timestamp} (ordinary : point.Ordinary) :
    read? point.render = some point := by
  -- An ordinary time passes each of the checks, which are made when all parts are read.
  obtain ⟨date, clock, reach⟩ := ordinary.checks
  have still := shiftMinutes_zero ordinary.hour ordinary.minute
  obtain ⟨year, month, day, hour, minute, second, nanosecond⟩ := point
  obtain ⟨years, months, days, hours, minutes, seconds, nanoseconds⟩ := ordinary
  dsimp only at years months days hours minutes seconds nanoseconds date clock reach
  have short : daysInMonth year month ≤ 31 := by
    unfold daysInMonth
    split <;> split <;> omega
  obtain ⟨year, rfl⟩ := Int.eq_ofNat_of_zero_le years.1
  have written : yearText (year : Int) = padded 4 year := by
    rw [yearText, if_pos (by simpa using years), Int.toNat_natCast]
  -- Two digits are enough for every part but the year and the fraction.
  have two {value : Nat} (small : value < 100) (rest : List Char) :
      number? 2 (padded 2 value ++ rest) = some (value, rest) :=
    number?_padded (by decide) small rest
  rw [read?, render, String.toList_ofList, chars, written]
  simp only [List.append_assoc, List.cons_append]
  -- The text is read from its front, one number and one mark after the other.
  refine Option.bind_eq_some_iff.mpr ⟨_, year?_padded (show year < 10 ^ 4 by omega) _, ?_⟩
  refine Option.bind_eq_some_iff.mpr ⟨_, mark?_cons rfl _, ?_⟩
  refine Option.bind_eq_some_iff.mpr ⟨_, two (show month < 100 by omega) _, ?_⟩
  refine Option.bind_eq_some_iff.mpr ⟨_, mark?_cons rfl _, ?_⟩
  refine Option.bind_eq_some_iff.mpr ⟨_, two (show day < 100 by omega) _, ?_⟩
  refine Option.bind_eq_some_iff.mpr ⟨_, two (show hour < 100 by omega) _, ?_⟩
  refine Option.bind_eq_some_iff.mpr ⟨_, mark?_cons rfl _, ?_⟩
  refine Option.bind_eq_some_iff.mpr ⟨_, two (show minute < 100 by omega) _, ?_⟩
  refine Option.bind_eq_some_iff.mpr ⟨_, mark?_cons rfl _, ?_⟩
  refine Option.bind_eq_some_iff.mpr ⟨_, two (show second < 100 by omega) _, ?_⟩
  refine Option.bind_eq_some_iff.mpr ⟨_, fraction?_fractionText nanoseconds, ?_⟩
  refine Option.bind_eq_some_iff.mpr ⟨_, show offset? ['Z'] = some (0, []) from rfl, ?_⟩
  -- Nothing is left behind the mark of the time zone.
  have ended : (!([] : List Char).all Text.isBlank) = false := rfl
  simp only [ended, date, clock, reach, Int.neg_zero, still, Bool.false_eq_true, if_false]
  rfl

end SessionGate.Timestamp
