import RowSync.Database.Memory

/-!
What storing does to a value: times lose what the resolution cannot hold, and identifiers become
sixteen bytes. Both are done once for all: storing a stored value changes nothing.
-/

set_option autoImplicit false

namespace RowSync

namespace TimeOfDay

@[simp] theorem subsecond_truncate (t : TimeOfDay) : t.truncate.subsecond = 0 := by
  simp [truncate, subsecond]

theorem truncate_of_subsecond {t : TimeOfDay} (whole : t.subsecond = 0) : t.truncate = t := by
  cases t with
  | mk second nano second_lt nano_ok =>
    have parts := Nat.div_add_mod nano nanosPerSecond
    simp only [subsecond] at whole
    simp only [truncate, mk.injEq, true_and]
    rw [whole, Nat.add_zero, Nat.mul_comm] at parts
    exact parts

end TimeOfDay

namespace DateTime

theorem nano_of_nextSecond? {t u : DateTime} (next : t.nextSecond? = some u) : u.time.nano = 0 := by
  unfold nextSecond? at next
  cases later : t.time.nextSecond? with
  | some time =>
    rw [later] at next
    cases next
    simp only [TimeOfDay.nextSecond?] at later
    split at later
    · cases later
      rfl
    · cases later
  | none =>
    rw [later] at next
    obtain ⟨date, -, rfl⟩ := Option.map_eq_some_iff.mp next
    rfl

theorem subsecond_roundToSecond (t : DateTime) : t.roundToSecond.time.subsecond = 0 := by
  unfold roundToSecond roundToSecond?
  split
  · cases next : t.nextSecond? with
    | some u =>
      change u.time.nano % nanosPerSecond = 0
      rw [nano_of_nextSecond? next, Nat.zero_mod]
    | none => exact t.time.subsecond_truncate
  · exact t.time.subsecond_truncate

theorem truncate_of_subsecond {t : DateTime} (whole : t.time.subsecond = 0) : t.truncate = t := by
  rw [truncate, TimeOfDay.truncate_of_subsecond whole]

end DateTime

theorem Binary.numericEq_comm {f : BinaryFormat} (x y : Binary f) :
    x.numericEq y = y.numericEq x := by
  have bits : (x.bits == y.bits) = (y.bits == x.bits) := BEq.comm
  unfold numericEq
  rw [bits, Bool.and_comm (!x.isNaN), Bool.and_comm (x.magnitude == 0)]

namespace Value

/-- A date-time that the resolution holds as it is. -/
def TimeResolution.Holds : TimeResolution → DateTime → Prop
  | .exact, _ => True
  | .rounded, t | .truncated, t => t.time.subsecond = 0

theorem TimeResolution.holds_normalize (resolution : TimeResolution) (t : DateTime) :
    resolution.Holds (resolution.normalize t) := by
  cases resolution with
  | exact => trivial
  | rounded => exact t.subsecond_roundToSecond
  | truncated => exact t.time.subsecond_truncate

theorem TimeResolution.normalize_of_holds {resolution : TimeResolution} {t : DateTime}
    (holds : resolution.Holds t) : resolution.normalize t = t := by
  cases resolution with
  | exact => rfl
  | rounded =>
    change t.time.subsecond = 0 at holds
    change t.roundToSecond = t
    rw [DateTime.roundToSecond, DateTime.roundToSecond?, holds, if_neg (by decide),
      DateTime.truncate_of_subsecond holds, Option.getD_some]
  | truncated => exact DateTime.truncate_of_subsecond holds

theorem TimeResolution.holds_of_time_eq {resolution : TimeResolution} {s t : DateTime}
    (holds : resolution.Holds s) (same : t.time = s.time) : resolution.Holds t := by
  cases resolution with
  | exact => trivial
  | rounded => exact (congrArg TimeOfDay.subsecond same).trans holds
  | truncated => exact (congrArg TimeOfDay.subsecond same).trans holds

/-- The value can be brought to the resolution: a date-time that rounding leads out of the calendar
cannot, a time of day always can. -/
def isResolvable (resolution : TimeResolution) : Value → Bool
  | dateTime t | instant t => resolution != .rounded || t.roundToSecond?.isSome
  | _ => true

theorem mapTime_mapTime (resolution : TimeResolution) (v : Value) :
    (v.mapTime resolution.normalize).mapTime resolution.normalize =
      v.mapTime resolution.normalize := by
  have fixed (t : DateTime) : resolution.normalize (resolution.normalize t) =
      resolution.normalize t :=
    TimeResolution.normalize_of_holds (resolution.holds_normalize t)
  cases v with
  | dateTime t => exact congrArg Value.dateTime (fixed t)
  | instant t => exact congrArg Value.instant (fixed t)
  | time t =>
    -- A time of day is normalized on the first date, whatever date its rounding leads to.
    have holds : resolution.Holds ⟨.first, (resolution.normalize ⟨.first, t⟩).time⟩ :=
      TimeResolution.holds_of_time_eq (resolution.holds_normalize ⟨.first, t⟩) rfl
    simp only [mapTime, TimeResolution.normalize_of_holds holds]
  | _ => rfl

theorem mapTime_unhex {resolution : TimeResolution} {v : Value}
    (normal : v.mapTime resolution.normalize = v) :
    (MemoryStore.unhex v).mapTime resolution.normalize = MemoryStore.unhex v := by
  cases v with
  | text s =>
    simp only [MemoryStore.unhex]
    split <;> rfl
  | uuid u => rfl
  | _ => exact normal

def isNaN : Value → Bool
  | float32 x => x.isNaN
  | float64 x => x.isNaN
  | _ => false

theorem isNaN_mapTime (normalize : DateTime → DateTime) (v : Value) :
    (v.mapTime normalize).isNaN = v.isNaN := by cases v <;> rfl

theorem isNaN_unhex (v : Value) : (MemoryStore.unhex v).isNaN = v.isNaN := by
  cases v with
  | text s =>
    simp only [MemoryStore.unhex]
    split <;> rfl
  | _ => rfl

theorem sameKindEq_self {v : Value} (number : v.isNaN = false) : v.sameKindEq v = true := by
  cases v with
  | float32 x =>
    change x.isNaN = false at number
    simp [sameKindEq, Binary.numericEq, number]
  | float64 x =>
    change x.isNaN = false at number
    simp [sameKindEq, Binary.numericEq, number]
  | decimal d => simp [sameKindEq, Decimal.valueEq]
  | _ => simp [sameKindEq]

theorem nullSafeEq_self {v : Value} (number : v.isNaN = false) : v.nullSafeEq v = true := by
  unfold nullSafeEq
  cases v.integer? with
  | some n => simp
  | none => exact sameKindEq_self number

theorem nullSafeEq_of_isNaN (v : Value) {w : Value} (nan : w.isNaN = true) :
    v.nullSafeEq w = false := by
  cases w with
  | float32 y =>
    change y.isNaN = true at nan
    cases v <;> simp [nullSafeEq, integer?, sameKindEq, Binary.numericEq, nan]
  | float64 y =>
    change y.isNaN = true at nan
    cases v <;> simp [nullSafeEq, integer?, sameKindEq, Binary.numericEq, nan]
  | _ => cases nan

private theorem sameKindEq_comm (v w : Value) : v.sameKindEq w = w.sameKindEq v := by
  cases v <;> cases w <;> first
    | rfl
    | exact BEq.comm
    | exact Binary.numericEq_comm _ _

theorem nullSafeEq_comm (v w : Value) : v.nullSafeEq w = w.nullSafeEq v := by
  unfold nullSafeEq
  cases v.integer? with
  | none =>
    cases w.integer? with
    | none => exact sameKindEq_comm v w
    | some n => exact sameKindEq_comm v w
  | some m =>
    cases w.integer? with
    | none => exact sameKindEq_comm v w
    | some n => exact BEq.comm

def isNumber : Value → Bool
  | int16 _ | int32 _ | int64 _ | float32 _ | float64 _ | decimal _ => true
  | _ => false

theorem mapTime_of_isNumber {v : Value} (number : v.isNumber = true)
    (normalize : DateTime → DateTime) : v.mapTime normalize = v := by
  cases v with
  | dateTime t => cases number
  | instant t => cases number
  | time t => cases number
  | _ => rfl

theorem unhex_of_isNumber {v : Value} (number : v.isNumber = true) :
    MemoryStore.unhex v = v := by
  cases v with
  | text s => cases number
  | uuid u => cases number
  | _ => rfl

private theorem eq_of_sameKindEq {v w : Value} (other : v.isNumber = false)
    (equal : v.sameKindEq w = true) : v = w := by
  cases v <;> cases w <;> simp_all [sameKindEq, isNumber]

private theorem isNumber_of_sameKindEq {v w : Value} (equal : v.sameKindEq w = true) :
    w.isNumber = v.isNumber := by
  cases v <;> cases w <;> simp_all [sameKindEq, isNumber]

private theorem isNumber_of_integer? {v : Value} {n : Int} (integer : v.integer? = some n) :
    v.isNumber = true := by
  cases v <;> simp_all [integer?, isNumber]

/-- Equal values are the same value, or two spellings of a number. -/
theorem eq_or_isNumber {v w : Value} (equal : v.nullSafeEq w = true) :
    v = w ∨ v.isNumber = true ∧ w.isNumber = true := by
  unfold nullSafeEq at equal
  split at equal
  · rename_i m n left right
    exact .inr ⟨isNumber_of_integer? left, isNumber_of_integer? right⟩
  · cases kind : v.isNumber with
    | true => exact .inr ⟨rfl, (isNumber_of_sameKindEq equal).trans kind⟩
    | false => exact .inl (eq_of_sameKindEq kind equal)

end Value

end RowSync
