import RowSync.Proofs.Calendar.Parts

/-!
A date found by the number of its day has that number. The year of a day begins no later than the
day, and month and day come from the days that are left of the year.
-/

set_option autoImplicit false

namespace RowSync

namespace Date

theorem daysBeforeYear_yearOfDay_le (n : Int) : daysBeforeYear (yearOfDay n) ≤ n := by
  unfold yearOfDay
  dsimp only
  split
  · assumption
  · split
    -- The guess is at most one year late.
    · unfold daysBeforeYear at *
      omega
    · omega

private theorem monthAndDay_spec (lengths : List Nat) : ∀ month n,
    ∃ passed, (monthAndDay month n lengths).1 = month + passed ∧
      (lengths.take passed).foldr (· + ·) 0 + (monthAndDay month n lengths).2 = n + 1 := by
  induction lengths with
  | nil => exact fun month n => ⟨0, rfl, Nat.zero_add _⟩
  | cons length rest ih =>
    intro month n
    rw [monthAndDay]
    split
    · exact ⟨0, rfl, Nat.zero_add _⟩
    · obtain ⟨passed, months, days⟩ := ih (month + 1) (n - length)
      refine ⟨passed + 1, by omega, ?_⟩
      rw [List.take_succ_cons, List.foldr_cons]
      omega

theorem dayNumber_of_ofDayNumber? {n : Int} {d : Date} (found : ofDayNumber? n = some d) :
    d.dayNumber = n := by
  have begun := daysBeforeYear_yearOfDay_le n
  obtain ⟨passed, months, days⟩ := monthAndDay_spec (monthLengths (yearOfDay n)) 1
    (n - daysBeforeYear (yearOfDay n)).toNat
  obtain ⟨year, month, day⟩ : d.year = yearOfDay n ∧
      d.month = (monthAndDay 1 (n - daysBeforeYear (yearOfDay n)).toNat
        (monthLengths (yearOfDay n))).1 ∧
      d.day = (monthAndDay 1 (n - daysBeforeYear (yearOfDay n)).toNat
        (monthLengths (yearOfDay n))).2 := eq_of_ofParts? found
  have before : daysBeforeMonth d.year d.month =
      ((monthLengths (yearOfDay n)).take passed).foldr (· + ·) 0 := by
    rw [daysBeforeMonth, year, month, months, Nat.add_sub_cancel_left]
  rw [dayNumber, before, day, year]
  omega

end Date

def TimeOfDay.micros (t : TimeOfDay) : Nat := (t.second * nanosPerSecond + t.nano) / 1000

namespace DateTime

theorem nanos_timeOfNanos (nanos : Int) :
    (((timeOfNanos nanos).second * nanosPerSecond + (timeOfNanos nanos).nano : Nat) : Int) =
      nanos % nanosPerDay := by
  simp only [timeOfNanos, nanosPerSecond, nanosPerDay]
  omega

theorem epochMicros_of_ofEpochMicros? {micros : Int} {t : DateTime}
    (found : ofEpochMicros? micros = some t) : t.epochMicros = micros := by
  rw [ofEpochMicros?, ofEpochNanos?, Option.map_eq_some_iff] at found
  obtain ⟨date, day, rfl⟩ := found
  have clock := nanos_timeOfNanos (micros * 1000)
  have exact : (((epochDay + micros * 1000 / nanosPerDay - epochDay) * secondsPerDay +
      (timeOfNanos (micros * 1000)).second) * nanosPerSecond +
      (timeOfNanos (micros * 1000)).nano : Int) = micros * 1000 := by
    simp only [nanosPerDay, secondsPerDay, nanosPerSecond] at clock ⊢
    omega
  rw [epochMicros, Date.dayNumber_of_ofDayNumber? day, exact]
  exact Int.mul_tdiv_cancel micros (by decide)

theorem micros_timeOfMicros (micros : Int) :
    ((timeOfMicros micros).micros : Int) = micros % 86400000000 := by
  have clock := nanos_timeOfNanos (micros * 1000)
  rw [← timeOfMicros] at clock
  rw [TimeOfDay.micros, Int.natCast_ediv, clock]
  simp only [nanosPerDay]
  omega

theorem timeOfMicros_emod (micros : Int) :
    timeOfMicros (micros % 86400000000) = timeOfMicros micros := by
  have days : micros % 86400000000 * 1000 % nanosPerDay = micros * 1000 % nanosPerDay := by
    simp only [nanosPerDay]
    omega
  simp only [timeOfMicros, timeOfNanos, days]

end DateTime

end RowSync
