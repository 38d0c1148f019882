import RowSync.Calendar.Reading
import RowSync.Proofs.Calendar.Parts
import RowSync.Proofs.Number.Digits
import RowSync.Proofs.Number.ExactDecimal

/-!
Dates and times read from their written form, padded numbers with a sign between any two of them.
Each reader takes its own number and leaves what follows. A date is read when its numbers name one,
a time of day always, and a span that is negative or as long as a day never.
-/

set_option autoImplicit false

namespace RowSync.Calendar

open Decimal (pow_parts pow_pos)
open Integer (digit?_of_isDigit ne_sign_of_isDigit)

def dateChars (year month day : Nat) : List Char :=
  paddedDigits 4 year ++ '-' :: (paddedDigits 2 month ++ '-' :: paddedDigits 2 day)

def clockChars (hours minute second : Nat) : List Char :=
  paddedDigits 2 hours ++ ':' :: (paddedDigits 2 minute ++ ':' :: paddedDigits 2 second)

/-- So many places of a second as they are written. -/
def fractionChars (places micro : Nat) : List Char :=
  if places = 0 then [] else '.' :: paddedDigits places (micro / Nat.pow 10 (6 - places))

/-- The microseconds are of a second, and so many places hold them. -/
def HoldsMicro (places micro : Nat) : Prop :=
  places ≤ 6 ∧ micro < Nat.pow 10 6 ∧ Nat.pow 10 (6 - places) ∣ micro

theorem HoldsMicro.nano_lt {places micro : Nat} (held : HoldsMicro places micro) :
    micro * 1000 < nanosPerSecond := by
  have below : micro < 1000000 := held.2.1
  unfold nanosPerSecond
  omega

section Numbers

variable {cs : List Char}

theorem upToDigits_of_digits {rest : List Char} : ∀ (acc : Nat) {width : Nat},
    (∀ c ∈ cs, c.isDigit = true) → cs.length ≤ width → cs.length = width ∨ rest = [] →
      upToDigits acc width (cs ++ rest) = (Nat.ofDigitChars 10 cs acc, rest) := by
  -- Induction on the digits, with the width and the value so far as they fall and grow.
  induction cs with
  | nil =>
    intro acc width _ _ stop
    cases width with
    | zero => rfl
    | succ width =>
      obtain rfl : rest = [] := by simpa using stop
      rfl
  | cons c cs ih =>
    intro acc width digits room stop
    cases width with
    | zero => exact absurd room (Nat.not_succ_le_zero _)
    | succ width =>
      rw [List.length_cons] at room stop
      rw [List.cons_append, upToDigits, digit?_of_isDigit (digits c List.mem_cons_self)]
      simp only
      rw [ih _ (fun d later => digits d (List.mem_cons_of_mem c later)) (by omega)
        (stop.imp_left Nat.succ.inj), Nat.ofDigitChars_cons, Nat.mul_comm 10 acc]

theorem number_of_digits (width : Nat) (rest : List Char) (some_digit : cs ≠ [])
    (digits : ∀ c ∈ cs, c.isDigit = true) (room : cs.length ≤ width)
    (stop : cs.length = width ∨ rest = []) :
    number width (cs ++ rest) = .ok (Nat.ofDigitChars 10 cs 0, rest) := by
  obtain ⟨c, cs, rfl⟩ := List.exists_cons_of_ne_nil some_digit
  obtain ⟨width, rfl⟩ : ∃ w, width = w + 1 := ⟨width - 1, by rw [List.length_cons] at room; omega⟩
  have read := upToDigits_of_digits 0 digits room stop
  rw [List.cons_append, upToDigits, digit?_of_isDigit (digits c List.mem_cons_self)] at read
  simp only [Nat.zero_mul, Nat.zero_add] at read
  rw [List.cons_append, number, digit?_of_isDigit (digits c List.mem_cons_self)]
  simp only [Nat.add_sub_cancel]
  rw [read]

theorem number_paddedDigits {width n : Nat} (rest : List Char) (some_digit : 0 < width)
    (small : n < Nat.pow 10 width) :
    number width (paddedDigits width n ++ rest) = .ok (n, rest) := by
  have length := length_paddedDigits some_digit small
  rw [number_of_digits width rest (paddedDigits_ne_nil width n)
    (fun c => isDigit_of_mem_paddedDigits) (Nat.le_of_eq length) (.inl length),
    ofDigitChars_paddedDigits]

theorem dropBlanks_paddedDigits (width n : Nat) (rest : List Char) :
    Text.dropBlanks (paddedDigits width n ++ rest) = paddedDigits width n ++ rest := by
  obtain ⟨c, cs, form, digit⟩ := paddedDigits_cons width n
  rw [form, List.cons_append]
  exact Text.dropBlanks_of_solid _ (Text.isBlank_of_isDigit digit)

theorem bounded_paddedDigits {n : Nat} (low high : Nat) (rest : List Char)
    (small : n < Nat.pow 10 2) :
    bounded low high (paddedDigits 2 n ++ rest) =
      if low ≤ n ∧ n ≤ high then .ok (n, rest) else .error .outOfRange := by
  rw [bounded, dropBlanks_paddedDigits, number_paddedDigits rest (by decide) small]
  rfl

-- Stated for an integer variable: with a cast in its place the comparisons would be computed.
private theorem bind_year {y : Int} (rest : List Char)
    (inside : -2147483648 ≤ y ∧ y < 2147483648) :
    (Except.ok (y, rest) : Except CalendarFault (Int × List Char)).bind (fun (year, rest) =>
      if -2147483648 ≤ year ∧ year < 2147483648 then .ok (year, rest) else .error .outOfRange) =
        .ok (y, rest) :=
  if_pos inside

theorem signedYear_paddedDigits {n : Nat} (rest : List Char) (small : n < Nat.pow 10 4) :
    signedYear (paddedDigits 4 n ++ rest) = .ok ((n : Int), rest) := by
  have read := number_paddedDigits rest (by decide) small
  have bound : n < 10000 := small
  obtain ⟨c, cs, form, digit⟩ := paddedDigits_cons 4 n
  rw [form, List.cons_append] at read ⊢
  obtain ⟨minus, plus⟩ := ne_sign_of_isDigit digit
  unfold signedYear
  split
  case h_1 later signed => exact absurd (List.cons.inj signed).1 minus
  case h_2 later signed => exact absurd (List.cons.inj signed).1 plus
  case h_3 =>
    rw [read]
    exact bind_year rest ⟨by omega, by omega⟩

theorem fractionDigits_paddedDigits {places n : Nat} (some_digit : 0 < places) (room : places ≤ 9)
    (small : n < Nat.pow 10 places) :
    fractionDigits (paddedDigits places n) = .ok (n * Nat.pow 10 (9 - places), []) := by
  have length := length_paddedDigits some_digit small
  have read := number_of_digits 9 [] (paddedDigits_ne_nil places n)
    (fun c => isDigit_of_mem_paddedDigits) (by omega) (.inr rfl)
  rw [List.append_nil, ofDigitChars_paddedDigits] at read
  rw [fractionDigits, read, length]
  rfl

end Numbers

section Lengths

variable {year month day : Nat}

theorem length_dateChars (year_lt : year < Nat.pow 10 4) (month_lt : month < Nat.pow 10 2)
    (day_lt : day < Nat.pow 10 2) : (dateChars year month day).length = 10 := by
  simp only [dateChars, List.length_append, List.length_cons,
    length_paddedDigits (Nat.succ_pos 3) year_lt, length_paddedDigits (Nat.succ_pos 1) month_lt,
    length_paddedDigits (Nat.succ_pos 1) day_lt]

theorem dateChars_inj {year' month' day' : Nat} (year_lt : year < Nat.pow 10 4)
    (month_lt : month < Nat.pow 10 2) (year_lt' : year' < Nat.pow 10 4)
    (month_lt' : month' < Nat.pow 10 2) :
    dateChars year month day = dateChars year' month' day' ↔
      year = year' ∧ month = month' ∧ day = day' := by
  constructor
  · intro same
    -- The fields have their widths, so both lists part at the same signs.
    have years : (paddedDigits 4 year).length = (paddedDigits 4 year').length := by
      rw [length_paddedDigits (by decide) year_lt, length_paddedDigits (by decide) year_lt']
    have months : (paddedDigits 2 month).length = (paddedDigits 2 month').length := by
      rw [length_paddedDigits (by decide) month_lt, length_paddedDigits (by decide) month_lt']
    obtain ⟨sameYear, behind⟩ := List.append_inj same years
    obtain ⟨sameMonth, sameDay⟩ := List.append_inj (List.cons.inj behind).2 months
    exact ⟨paddedDigits_injective 4 sameYear, paddedDigits_injective 2 sameMonth,
      paddedDigits_injective 2 (List.cons.inj sameDay).2⟩
  · rintro ⟨rfl, rfl, rfl⟩
    rfl

end Lengths

section Items

variable (fields : Fields)

theorem readItems_dateChars {year month day : Nat} (rest : List Char) (items : List Item)
    (year_lt : year < Nat.pow 10 4) (month_lt : month < Nat.pow 10 2)
    (day_lt : day < Nat.pow 10 2) :
    readItems fields (dateChars year month day ++ rest) (datePattern ++ items) =
      if (1 ≤ month ∧ month ≤ 12) ∧ 1 ≤ day ∧ day ≤ 31 then
        readItems { fields with year, month, day } rest items
      else .error .outOfRange := by
  have chars : dateChars year month day ++ rest = paddedDigits 4 year ++
      '-' :: (paddedDigits 2 month ++ '-' :: (paddedDigits 2 day ++ rest)) := by
    simp [dateChars]
  rw [chars]
  simp only [datePattern, List.cons_append, List.nil_append, readItems, readItem,
    dropBlanks_paddedDigits, signedYear_paddedDigits _ year_lt,
    bounded_paddedDigits _ _ _ month_lt, Except.map, beq_self_eq_true, if_true]
  by_cases months : 1 ≤ month ∧ month ≤ 12
  · by_cases days : 1 ≤ day ∧ day ≤ 31
    · simp [bounded_paddedDigits, day_lt, months, days]
    · simp [bounded_paddedDigits, day_lt, months, days]
  · simp [months]

theorem readItems_clockChars {hour minute second : Nat} (rest : List Char) (items : List Item)
    (hour_lt : hour < 24) (minute_lt : minute < 60) (second_lt : second < 60) :
    readItems fields (clockChars hour minute second ++ rest)
        ([.hour, .literal ':', .minute, .literal ':', .second] ++ items) =
      readItems { fields with hour, minute, second } rest items := by
  have chars : clockChars hour minute second ++ rest = paddedDigits 2 hour ++
      ':' :: (paddedDigits 2 minute ++ ':' :: (paddedDigits 2 second ++ rest)) := by
    simp [clockChars]
  have below : ∀ {n}, n < 60 → n < Nat.pow 10 2 := fun small => Nat.lt_trans small (by decide)
  have hours : 0 ≤ hour ∧ hour ≤ 23 := by omega
  have minutes : 0 ≤ minute ∧ minute ≤ 59 := by omega
  have seconds : 0 ≤ second ∧ second ≤ 60 := by omega
  rw [chars]
  simp only [List.cons_append, List.nil_append, readItems, readItem, Except.map,
    beq_self_eq_true, if_true,
    bounded_paddedDigits _ _ _ (below (Nat.lt_trans hour_lt (by decide))),
    bounded_paddedDigits _ _ _ (below minute_lt), bounded_paddedDigits _ _ _ (below second_lt),
    if_pos hours, if_pos minutes, if_pos seconds]

theorem readItem_fractionChars {places micro : Nat} (none : fields.nano = 0)
    (held : HoldsMicro places micro) :
    readItem fields (fractionChars places micro) .fraction =
      .ok ({ fields with nano := micro * 1000 }, []) := by
  obtain ⟨room, below, digits, rfl⟩ := held
  rw [fractionChars]
  split
  · rename_i whole
    subst whole
    -- Without places there are whole seconds only, and these are no part of a second.
    obtain rfl : digits = 0 := by
      by_contra some_digit
      have least := Nat.le_mul_of_pos_right (Nat.pow 10 6) (Nat.pos_of_ne_zero some_digit)
      exact absurd below (Nat.not_lt.mpr least)
    rw [Nat.mul_zero, Nat.zero_mul, ← none]
    rfl
  · rename_i some_place
    have small : digits < Nat.pow 10 places := by
      rw [pow_parts (n := 6) (6 - places) places (by omega)] at below
      exact Nat.lt_of_mul_lt_mul_left below
    -- Places that are not written count three more in nanoseconds.
    have nanos : digits * Nat.pow 10 (9 - places) = Nat.pow 10 (6 - places) * digits * 1000 := by
      rw [pow_parts (n := 9 - places) (6 - places) 3 (by omega), ← Nat.mul_assoc,
        Nat.mul_comm digits]
    rw [Nat.mul_div_cancel_left _ (pow_pos _), readItem,
      fractionDigits_paddedDigits (Nat.pos_of_ne_zero some_place) (by omega) small, nanos]
    rfl

theorem readItems_time {hour minute second places micro : Nat} (none : fields.nano = 0)
    (hour_lt : hour < 24) (minute_lt : minute < 60) (second_lt : second < 60)
    (held : HoldsMicro places micro) :
    readItems fields (clockChars hour minute second ++ fractionChars places micro) timePattern =
      .ok { fields with hour, minute, second, nano := micro * 1000 } := by
  have pattern : timePattern =
      [.hour, .literal ':', .minute, .literal ':', .second] ++ [.fraction] := rfl
  have fraction := readItem_fractionChars { fields with hour, minute, second } none held
  rw [pattern, readItems_clockChars _ _ _ hour_lt minute_lt second_lt, readItems, fraction]
  rfl

end Items

theorem Fields.time_of_lt {fields : Fields} (second_lt : fields.second < 60) :
    fields.time = (TimeOfDay.ofParts? fields.hour fields.minute fields.second fields.nano).elim
      (.error .outOfRange) .ok := by
  have usual : (fields.second == 60) = false := by
    rw [beq_eq_false_iff_ne]
    omega
  rw [Fields.time, usual]
  simp only [Bool.false_eq_true, if_false]
  cases TimeOfDay.ofParts? fields.hour fields.minute fields.second fields.nano <;> rfl

theorem Fields.date_eq (fields : Fields) :
    fields.date = (Date.ofParts? fields.year fields.month fields.day).elim
      (.error .outOfRange) .ok := by
  rw [Fields.date]
  cases Date.ofParts? fields.year fields.month fields.day <;> rfl

theorem ofParts?_of_outside {year : Int} {month day : Nat}
    (outside : ¬ ((1 ≤ month ∧ month ≤ 12) ∧ 1 ≤ day ∧ day ≤ 31)) :
    Date.ofParts? year month day = none := by
  apply dif_neg
  intro named
  obtain ⟨first, last, first', last'⟩ := bounds_of_isDate named
  exact outside ⟨⟨first, last⟩, first', last'⟩

section Written

variable {year month day : Nat}

theorem readDate_dateChars (year_lt : year < Nat.pow 10 4) (month_lt : month < Nat.pow 10 2)
    (day_lt : day < Nat.pow 10 2) :
    readDate (String.ofList (dateChars year month day)) =
      (Date.ofParts? year month day).elim (.error .outOfRange) .ok := by
  have read := readItems_dateChars {} [] [] year_lt month_lt day_lt
  rw [List.append_nil, List.append_nil] at read
  rw [readDate, String.toList_ofList, read]
  split
  · exact Fields.date_eq _
  · rename_i outside
    rw [ofParts?_of_outside outside]
    rfl

variable {hour minute second places micro : Nat} {t : TimeOfDay}

theorem readTime_chars (hour_lt : hour < 24) (minute_lt : minute < 60) (second_lt : second < 60)
    (held : HoldsMicro places micro)
    (named : TimeOfDay.ofParts? hour minute second (micro * 1000) = some t) :
    readTime (String.ofList (clockChars hour minute second ++ fractionChars places micro)) =
      .ok t := by
  rw [readTime, String.toList_ofList, readItems_time _ rfl hour_lt minute_lt second_lt held]
  exact (Fields.time_of_lt second_lt).trans (by rw [named]; rfl)

theorem readDateTime_chars (year_lt : year < Nat.pow 10 4) (month_lt : month < Nat.pow 10 2)
    (day_lt : day < Nat.pow 10 2) (hour_lt : hour < 24) (minute_lt : minute < 60)
    (second_lt : second < 60) (held : HoldsMicro places micro)
    (named : TimeOfDay.ofParts? hour minute second (micro * 1000) = some t) :
    readDateTime .blanks (String.ofList (dateChars year month day ++
        ' ' :: (clockChars hour minute second ++ fractionChars places micro))) =
      (Date.ofParts? year month day).elim (.error .outOfRange) fun date => .ok ⟨date, t⟩ := by
  have read := readItems_dateChars {}
    (' ' :: (clockChars hour minute second ++ fractionChars places micro)) (.blanks :: timePattern)
    year_lt month_lt day_lt
  -- The one blank is an element of the pattern, and the clock begins with a digit.
  have gap : Text.dropBlanks
      (' ' :: (clockChars hour minute second ++ fractionChars places micro)) =
        clockChars hour minute second ++ fractionChars places micro := by
    rw [clockChars, List.append_assoc]
    exact dropBlanks_paddedDigits 2 hour _
  rw [readDateTime, String.toList_ofList, read]
  split
  · rw [readItems, readItem]
    simp only [gap]
    rw [readItems_time _ rfl hour_lt minute_lt second_lt held, Except.bind, Fields.date_eq,
      Fields.time_of_lt second_lt, named]
    simp only
    cases Date.ofParts? year month day <;> rfl
  · rename_i outside
    rw [ofParts?_of_outside outside]
    rfl

theorem readTime_minus (cs : List Char) :
    readTime (String.ofList ('-' :: cs)) = .error .invalid := by
  rw [readTime, String.toList_ofList]
  rfl

theorem readItems_three_digits {fields : Fields} {items : List Item} {c d e : Char}
    (rest : List Char) (digits : ∀ x ∈ [c, d, e], x.isDigit = true) :
    ∃ fault, readItems fields (c :: d :: e :: rest) (.hour :: .literal ':' :: items) =
      .error fault := by
  have two : ∀ x ∈ [c, d], x.isDigit = true :=
    fun x mem => digits x (List.mem_append_left [e] mem)
  have third : (e == ':') = false := by
    rw [beq_eq_false_iff_ne]
    rintro rfl
    exact absurd (digits ':' (by simp)) (by decide)
  have read := number_of_digits 2 (e :: rest) (List.cons_ne_nil c [d]) two
    (Nat.le_refl 2) (.inl rfl)
  have solid := Text.dropBlanks_of_solid (d :: e :: rest)
    (Text.isBlank_of_isDigit (digits c List.mem_cons_self))
  rw [List.cons_append, List.singleton_append] at read
  by_cases inside : 0 ≤ Nat.ofDigitChars 10 [c, d] 0 ∧ Nat.ofDigitChars 10 [c, d] 0 ≤ 23
  · refine ⟨.invalid, ?_⟩
    simp only [readItems, readItem, bounded, solid, read, Except.bind, Except.map, if_pos inside,
      third, Bool.false_eq_true, if_false]
  · refine ⟨.outOfRange, ?_⟩
    simp only [readItems, readItem, bounded, solid, read, Except.bind, Except.map, if_neg inside]

/-- A span as long as a day is no time of day, however many digits its hours have. -/
theorem readTime_long {hours minute second : Nat} (rest : List Char) (long : 24 ≤ hours) :
    ∃ fault, readTime (String.ofList (clockChars hours minute second ++ rest)) = .error fault := by
  have refused : ∃ fault, readItems {} (clockChars hours minute second ++ rest) timePattern =
      .error fault := by
    rw [clockChars, List.append_assoc]
    -- Two digits are read and are too many hours; of more digits the third stands in the way.
    rcases Nat.lt_or_ge hours (Nat.pow 10 2) with two | three
    · have outside : ¬ (0 ≤ hours ∧ hours ≤ 23) := by omega
      refine ⟨.outOfRange, ?_⟩
      rw [timePattern, readItems, readItem, bounded_paddedDigits _ _ _ two, if_neg outside]
      rfl
    · have more : ¬ (Nat.toDigits 10 hours).length ≤ 2 :=
        fun few => absurd ((Nat.length_toDigits_le_iff (by decide) (by decide)).mp few)
          (Nat.not_lt.mpr three)
      have long : 3 ≤ (paddedDigits 2 hours).length := by
        rw [length_paddedDigits_eq]
        omega
      have digits : ∀ c ∈ paddedDigits 2 hours, c.isDigit = true :=
        fun c => isDigit_of_mem_paddedDigits
      match form : paddedDigits 2 hours with
      | [] | [_] | [_, _] =>
        rw [form] at long
        exact absurd long (Nat.not_le.mpr (by simp))
      | c :: d :: e :: others =>
        exact readItems_three_digits _ fun x mem => digits x (by
          rw [form]
          exact List.mem_append_left others mem)
  obtain ⟨fault, refused⟩ := refused
  refine ⟨fault, ?_⟩
  rw [readTime, String.toList_ofList, refused]
  rfl

end Written

end RowSync.Calendar
