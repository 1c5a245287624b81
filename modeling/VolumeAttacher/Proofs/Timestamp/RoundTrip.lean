import Mathlib.Tactic.SplitIfs
import VolumeAttacher.Proofs.Timestamp.Calendar
import VolumeAttacher.Timestamp.Reader

/-!
# Reading written times

A time that RFC 3339 can express is read back from its text. The text with six digits of the
fraction tells the time to the microsecond.
-/

namespace VolumeAttacher
namespace Timestamp

/-- A time of the years 0 to 9999 outside of leap seconds. -/
structure IsExpressible (time : Timestamp) : Prop where
  nanos : time.nanos < perSecond
  year : 0 ≤ (Date.ofDayNumber (time.seconds / 86400)).year ∧
    (Date.ofDayNumber (time.seconds / 86400)).year ≤ 9999

/-! ## Numbers -/

theorem isDigit_of_mem_padded
    {width value : Nat}
    {character : Char}
    (present : character ∈ (padded width value).toList) :
    character.isDigit = true := by
  simp only [padded, String.toList_ofList] at present
  obtain zero | digit := List.mem_append.mp present
  · rw [List.eq_of_mem_replicate zero]
    rfl
  · exact Nat.isDigit_of_mem_toDigits (by decide) (by decide) digit

theorem ofDigitChars_padded (width value : Nat) :
    Nat.ofDigitChars 10 (padded width value).toList 0 = value := by
  simp only [padded, String.toList_ofList]
  rw [Nat.ofDigitChars_append, Nat.ofDigitChars_replicate_zero, Nat.mul_zero,
    Nat.ofDigitChars_ten_toDigits]

/-- A digit is no blank. -/
theorem isBlank_of_isDigit {character : Char} (digit : character.isDigit = true) :
    Text.isBlank character = false := by
  have bounds : 48 ≤ character.toNat ∧ character.toNat ≤ 57 := by
    simpa [Char.isDigit, UInt32.le_iff_toNat_le] using digit
  simp only [Text.isBlank, Bool.or_eq_false_iff, Bool.and_eq_false_iff, decide_eq_false_iff_not,
    beq_eq_false_iff_ne]
  omega

section Padded

variable {width value : Nat} (wide : 0 < width) (small : value < 10 ^ width)

include wide small

theorem length_padded : (padded width value).toList.length = width := by
  have short := (Nat.length_toDigits_le_iff (b := 10) (by decide) wide).mpr small
  simp only [padded, String.toList_ofList, List.length_append, List.length_replicate]
  omega

theorem exists_padded : ∃ first rest,
    (padded width value).toList = first :: rest ∧ first.isDigit = true := by
  have long := length_padded wide small
  cases digits : (padded width value).toList with
  | nil =>
    rw [digits] at long
    exact absurd long (Nat.ne_of_lt wide)
  | cons first rest =>
    exact ⟨first, rest, rfl, isDigit_of_mem_padded (digits ▸ List.mem_cons_self)⟩

/-- As many digits are taken as were written, if no digit that may be taken follows. -/
theorem takeWhile_take_padded
    {limit : Nat}
    {rest : List Char}
    (fits : width ≤ limit)
    (ends : (rest.take (limit - width)).takeWhile Char.isDigit = []) :
    (((padded width value).toList ++ rest).take limit).takeWhile Char.isDigit =
      (padded width value).toList := by
  have long := length_padded wide small
  rw [List.take_append, List.take_of_length_le (by omega), long,
    List.takeWhile_append_of_pos (fun _ => isDigit_of_mem_padded), ends, List.append_nil]

theorem readNumber_padded (rest : List Char) :
    readNumber width ((padded width value).toList ++ rest) = some (value, rest) := by
  obtain ⟨first, digits, isThere, -⟩ := exists_padded wide small
  have nonempty : (padded width value).toList.isEmpty = false := by
    rw [isThere]
    rfl
  unfold readNumber
  dsimp only
  rw [takeWhile_take_padded wide small (Nat.le_refl _) (by simp), nonempty, ofDigitChars_padded,
    List.drop_left]
  rfl

theorem trimStart_padded (rest : List Char) :
    Text.trimStart ((padded width value).toList ++ rest) =
      (padded width value).toList ++ rest := by
  obtain ⟨first, digits, isThere, isDigit⟩ := exists_padded wide small
  rw [isThere, List.cons_append, Text.trimStart,
    List.dropWhile_cons_of_neg (by simp [isBlank_of_isDigit isDigit])]

theorem readField_padded (rest : List Char) :
    readField width ((padded width value).toList ++ rest) = some (value, rest) := by
  rw [readField, trimStart_padded wide small, readNumber_padded wide small]

/-- The fraction of a second is read up to the zone. -/
theorem readFraction_padded (fits : width ≤ 9) :
    readFraction (("." ++ padded width value).toList ++ ['Z']) =
      some (value * 10 ^ (9 - width), ['Z']) := by
  obtain ⟨first, digits, isThere, -⟩ := exists_padded wide small
  have nonempty : (padded width value).toList.isEmpty = false := by
    rw [isThere]
    rfl
  have ends : (['Z'].take (9 - width)).takeWhile Char.isDigit = [] := by
    cases 9 - width <;> rfl
  have point : ("." ++ padded width value).toList = '.' :: (padded width value).toList := by
    rw [String.toList_append]
    rfl
  rw [point, List.cons_append, readFraction]
  dsimp only
  rw [takeWhile_take_padded wide small fits ends, nonempty, ofDigitChars_padded,
    length_padded wide small, List.drop_left' (length_padded wide small)]
  rfl

end Padded

theorem readYear_yearText
    {year : Int}
    (early : 0 ≤ year)
    (late : year ≤ 9999)
    (rest : List Char) :
    readYear ((yearText year).toList ++ rest) = some (year, rest) := by
  have small : year.toNat < 10 ^ 4 := by omega
  have isYear : yearText year = padded 4 year.toNat := by
    simp [yearText, early, late]
  obtain ⟨first, digits, isThere, isDigit⟩ := exists_padded (by decide) small
  have number := readNumber_padded (by decide) small rest
  unfold readYear
  rw [isYear, trimStart_padded (by decide) small]
  rw [isThere, List.cons_append] at number ⊢
  split
  · next same =>
    obtain ⟨rfl, -⟩ := List.cons.inj same
    cases isDigit
  · next same =>
    obtain ⟨rfl, -⟩ := List.cons.inj same
    cases isDigit
  · rw [number]
    simp
    omega

theorem readSeparator_self
    {mark : Char}
    (shown : Text.isBlank mark = false)
    (rest : List Char) :
    readSeparator mark (mark :: rest) = some rest := by
  rw [readSeparator, Text.trimStart, List.dropWhile_cons_of_neg (by simp [shown]), readMark,
    if_pos rfl]

/-! ## Times -/

/-- A date and a time of day are the point in time that they were taken from. -/
theorem ofParts?_ofDayNumber
    {seconds : Int}
    (year : 0 ≤ (Date.ofDayNumber (seconds / 86400)).year ∧
      (Date.ofDayNumber (seconds / 86400)).year ≤ 9999)
    (fraction : Nat) :
    ofParts? (Date.ofDayNumber (seconds / 86400)) ((seconds % 86400).toNat / 3600)
        ((seconds % 86400).toNat / 60 % 60) ((seconds % 86400).toNat % 60) fraction 0 =
      some ⟨seconds, fraction⟩ := by
  have valid := Date.isValid_ofDayNumber (seconds / 86400)
  have day := Date.dayNumber_ofDayNumber (seconds / 86400)
  generalize Date.ofDayNumber (seconds / 86400) = date at *
  obtain ⟨⟨firstMonth, lastMonth⟩, ⟨firstDay, lastDay⟩⟩ := valid
  unfold ofParts?
  rw [if_pos (by simp; omega), day]
  dsimp only
  rw [if_neg (by omega), Option.some.injEq, mk.injEq]
  refine ⟨?_, rfl⟩
  omega

/-- A text is read part by part. -/
theorem ofText?_of_parts
    {text : String}
    {year offset : Int}
    {month day hour minute second fraction : Nat}
    {afterYear ofMonth afterMonth ofDay ofHour afterHour ofMinute afterMinute ofSecond afterSecond
      ofZone : List Char}
    (isYear : readYear text.toList = some (year, afterYear))
    (dash : readSeparator '-' afterYear = some ofMonth)
    (isMonth : readField 2 ofMonth = some (month, afterMonth))
    (dash' : readSeparator '-' afterMonth = some ofDay)
    (isDay : readField 2 ofDay = some (day, 'T' :: ofHour))
    (isHour : readField 2 ofHour = some (hour, afterHour))
    (colon : readSeparator ':' afterHour = some ofMinute)
    (isMinute : readField 2 ofMinute = some (minute, afterMinute))
    (colon' : readSeparator ':' afterMinute = some ofSecond)
    (isSecond : readField 2 ofSecond = some (second, afterSecond))
    (isFraction : readFraction afterSecond = some (fraction, ofZone))
    (isZone : readZone (Text.trimStart ofZone) = some (offset, [])) :
    ofText? text = ofParts? ⟨year, month, day⟩ hour minute second fraction offset := by
  unfold ofText?
  rw [isYear]
  dsimp only [Option.bind_eq_bind, Option.bind_some]
  rw [dash, Option.bind_some, isMonth]
  dsimp only [Option.bind_some]
  rw [dash', Option.bind_some, isDay]
  dsimp only [Option.bind_some]
  change (readField 2 ofHour).bind _ = _
  rw [isHour]
  dsimp only [Option.bind_some]
  rw [colon, Option.bind_some, isMinute]
  dsimp only [Option.bind_some]
  rw [colon', Option.bind_some, isSecond]
  dsimp only [Option.bind_some]
  rw [isFraction]
  dsimp only [Option.bind_some]
  rw [isZone]
  rfl

/-- The characters of a date and of a second of the day, and what follows them. -/
def clockText (date : Date) (second : Nat) (rest : List Char) : List Char :=
  (yearText date.year).toList ++ '-' :: ((padded 2 date.month).toList ++
    '-' :: ((padded 2 date.day).toList ++ 'T' :: ((padded 2 (second / 3600)).toList ++
      ':' :: ((padded 2 (second / 60 % 60)).toList ++
        ':' :: ((padded 2 (second % 60)).toList ++ rest)))))

theorem toList_wholeText
    {time : Timestamp}
    (noLeap : time.nanos < perSecond)
    (fraction : String) :
    (time.wholeText ++ fraction ++ "Z").toList =
      clockText (Date.ofDayNumber (time.seconds / 86400)) (time.seconds % 86400).toNat
        (fraction.toList ++ ['Z']) := by
  have leap : time.nanos / perSecond = 0 := Nat.div_eq_of_lt noLeap
  unfold wholeText clockText
  rw [leap]
  simp

/-- A date and a second of the day are read up to the fraction, and the fraction as it is
written. -/
theorem ofText?_clockText
    {text : String}
    {date : Date}
    {second nanos : Nat}
    {fraction : List Char}
    (valid : date.IsValid)
    (early : 0 ≤ date.year)
    (late : date.year ≤ 9999)
    (inDay : second < 86400)
    (isText : text.toList = clockText date second (fraction ++ ['Z']))
    (isFraction : readFraction (fraction ++ ['Z']) = some (nanos, ['Z'])) :
    ofText? text = ofParts? date (second / 3600) (second / 60 % 60) (second % 60) nanos 0 := by
  obtain ⟨⟨-, lastMonth⟩, ⟨-, lastDay⟩⟩ := valid
  have days := daysInMonth_le date.year date.month
  have field {value : Nat} (small : value < 10 ^ 2) := readField_padded (by decide) small
  have isYear := readYear_yearText early late
  obtain ⟨year, month, day⟩ := date
  refine ofText?_of_parts ?_ (readSeparator_self rfl _) (field ?_ _) (readSeparator_self rfl _)
    (field ?_ _) (field ?_ _) (readSeparator_self rfl _) (field ?_ _) (readSeparator_self rfl _)
    (field ?_ _) isFraction rfl
  · rw [isText, clockText, isYear]
  all_goals
    dsimp only at *
    omega

/-- The text of a time is read up to its fraction, and the fraction as it is written. -/
theorem ofText?_wholeText
    {time : Timestamp}
    {fraction : String}
    {nanos : Nat}
    (expressible : time.IsExpressible)
    (isFraction : readFraction (fraction.toList ++ ['Z']) = some (nanos, ['Z'])) :
    ofText? (time.wholeText ++ fraction ++ "Z") = some ⟨time.seconds, nanos⟩ := by
  obtain ⟨noLeap, early, late⟩ := expressible
  have inDay : (time.seconds % 86400).toNat < 86400 := by omega
  rw [ofText?_clockText (Date.isValid_ofDayNumber _) early late inDay
    (toList_wholeText noLeap fraction) isFraction, ofParts?_ofDayNumber ⟨early, late⟩]

/-- A time is read from its text. -/
theorem ofText?_render {time : Timestamp} (expressible : time.IsExpressible) :
    ofText? time.render = some time := by
  have nanos := expressible.nanos
  have below : time.nanos % perSecond = time.nanos := Nat.mod_eq_of_lt nanos
  have read {fraction : String} {value : Nat} (same : value = time.nanos)
      (isFraction : readFraction (fraction.toList ++ ['Z']) = some (value, ['Z'])) :
      ofText? (time.wholeText ++ fraction ++ "Z") = some time := by
    rw [ofText?_wholeText expressible isFraction, same]
  unfold render perSecond at *
  dsimp only
  rw [below]
  split_ifs with whole millis micros
  · exact read whole.symm rfl
  · exact read (by omega) (readFraction_padded (by decide) (by omega) (by decide))
  · exact read (by omega) (readFraction_padded (by decide) (by omega) (by decide))
  · exact read (by omega) (readFraction_padded (by decide) (by omega) (by decide))

/-- The text with six digits of the fraction is read as the time to the microsecond. -/
theorem ofText?_renderMicros {time : Timestamp} (expressible : time.IsExpressible) :
    ofText? time.renderMicros = some time.toMicros := by
  have below : time.nanos % perSecond = time.nanos := Nat.mod_eq_of_lt expressible.nanos
  have small : time.nanos / 1000 < 10 ^ 6 := by
    have := expressible.nanos
    unfold perSecond at this
    omega
  unfold renderMicros
  rw [below, @String.append_assoc time.wholeText]
  exact ofText?_wholeText expressible (readFraction_padded (by decide) small (by decide))

end Timestamp

end VolumeAttacher
