import RowSync.Proofs.Value.IntegerParameter
import RowSync.Proofs.Value.StoredForm

/-!
Equality in which NULL matches NULL compares what values stand for: integers and decimals their
number, floats their datum without the sign of a zero, all others themselves. On the values that are
no NaN it is therefore an equivalence, and storing equal values leaves them equal.
-/

set_option autoImplicit false

namespace RowSync

namespace Binary

variable {f : BinaryFormat}

/-- The datum, without its sign if it is a zero. -/
def withoutZeroSign (x : Binary f) : Binary f := if x.magnitude = 0 then ⟨0⟩ else x

theorem magnitude_withoutZeroSign (x : Binary f) :
    x.withoutZeroSign.magnitude = x.magnitude := by
  unfold withoutZeroSign
  split
  · rename_i zero
    rw [zero]
    simp [magnitude]
  · rfl

theorem withoutZeroSign_eq_iff {x y : Binary f} : x.withoutZeroSign = y.withoutZeroSign ↔
    x = y ∨ x.magnitude = 0 ∧ y.magnitude = 0 := by
  constructor
  · intro same
    have magnitudes : x.magnitude = y.magnitude := by
      rw [← x.magnitude_withoutZeroSign, same, y.magnitude_withoutZeroSign]
    by_cases zero : y.magnitude = 0
    · exact .inr ⟨magnitudes.trans zero, zero⟩
    · rw [withoutZeroSign, withoutZeroSign, magnitudes, if_neg zero, if_neg zero] at same
      exact .inl same
  · rintro (rfl | ⟨left, right⟩)
    · rfl
    · rw [withoutZeroSign, withoutZeroSign, if_pos left, if_pos right]

theorem numericEq_iff {x y : Binary f} : x.numericEq y = true ↔
    x.isNaN = false ∧ y.isNaN = false ∧ x.withoutZeroSign = y.withoutZeroSign := by
  have bits : x.bits = y.bits ↔ x = y := by
    cases x
    cases y
    simp
  rw [withoutZeroSign_eq_iff, ← bits]
  simp [numericEq, and_assoc]

end Binary

theorem Decimal.valueEq_iff {a b : Decimal} : a.valueEq b = true ↔ a.toRat = b.toRat := by
  have nonzero (n : Nat) : ((Nat.pow 10 n : Nat) : ℚ) ≠ 0 :=
    Nat.cast_ne_zero.mpr (Nat.pow_pos (by decide)).ne'
  rw [valueEq, beq_iff_eq, toRat, toRat, div_eq_div_iff (nonzero a.scale) (nonzero b.scale)]
  exact_mod_cast Iff.rfl

namespace Value

/-- What a value is compared by. -/
inductive Comparand
  | integer (n : Int)
  | decimal (q : ℚ)
  | single (x : Binary32)
  | double (x : Binary64)
  | itself (v : Value)

/-- What the value stands for in comparisons. -/
def comparand : Value → Comparand
  | int16 n => .integer n.toInt
  | int32 n => .integer n.toInt
  | int64 n => .integer n.toInt
  | decimal d => .decimal d.toRat
  | float32 x => .single x.withoutZeroSign
  | float64 x => .double x.withoutZeroSign
  | v => .itself v

/-- Two values are equal when they stand for the same, and neither is a NaN. -/
theorem nullSafeEq_iff {v w : Value} : v.nullSafeEq w = true ↔
    v.isNaN = false ∧ w.isNaN = false ∧ v.comparand = w.comparand := by
  cases v <;> cases w <;>
    simp [nullSafeEq, integer?, sameKindEq, comparand, isNaN, Binary.numericEq_iff,
      Decimal.valueEq_iff]

theorem nullSafeEq_trans {u v w : Value} (first : u.nullSafeEq v = true)
    (second : v.nullSafeEq w = true) : u.nullSafeEq w = true := by
  rw [nullSafeEq_iff] at first second ⊢
  exact ⟨first.1, second.2.1, first.2.2.trans second.2.2⟩

/-- The values that hold a whole number, in any width. -/
inductive IsInteger : Value → Int → Prop
  | int16 (n : Int16) : IsInteger (.int16 n) n.toInt
  | int32 (n : Int32) : IsInteger (.int32 n) n.toInt
  | int64 (n : Int64) : IsInteger (.int64 n) n.toInt

theorem IsInteger.comparand_eq {v : Value} {n : Int} (integer : v.IsInteger n) :
    v.comparand = .integer n := by cases integer <;> rfl

theorem IsInteger.isNaN_eq {v : Value} {n : Int} (integer : v.IsInteger n) : v.isNaN = false := by
  cases integer <;> rfl

theorem IsInteger.nullSafeEq_iff {v w : Value} {m n : Int} (left : v.IsInteger m)
    (right : w.IsInteger n) : v.nullSafeEq w = true ↔ m = n := by
  rw [Value.nullSafeEq_iff, left.comparand_eq, right.comparand_eq, Comparand.integer.injEq]
  simp [left.isNaN_eq, right.isNaN_eq]

theorem nullSafeEq_null_iff {v : Value} : v.nullSafeEq null = true ↔ v = null := by
  rw [nullSafeEq_iff]
  cases v <;> simp [comparand, isNaN]

section Storing

variable {v w : Value}

theorem isNaN_of_nullSafeEq (equal : v.nullSafeEq w = true) : v.isNaN = false :=
  (nullSafeEq_iff.mp equal).1

/-- What maps a value to itself if it is a number, and to a NaN only if it is one, keeps equal
values equal. -/
theorem nullSafeEq_map {f : Value → Value}
    (number : ∀ v : Value, v.isNumber = true → f v = v)
    (nan : ∀ v : Value, (f v).isNaN = v.isNaN) (equal : v.nullSafeEq w = true) :
    (f v).nullSafeEq (f w) = true := by
  rcases eq_or_isNumber equal with rfl | ⟨left, right⟩
  · apply nullSafeEq_self
    rw [nan]
    exact isNaN_of_nullSafeEq equal
  · rw [number v left, number w right]
    exact equal

theorem nullSafeEq_mapTime (normalize : DateTime → DateTime) (equal : v.nullSafeEq w = true) :
    (v.mapTime normalize).nullSafeEq (w.mapTime normalize) = true :=
  nullSafeEq_map (fun _ number => mapTime_of_isNumber number normalize) (isNaN_mapTime normalize)
    equal

theorem nullSafeEq_unhex (equal : v.nullSafeEq w = true) :
    (MemoryStore.unhex v).nullSafeEq (MemoryStore.unhex w) = true :=
  nullSafeEq_map (fun _ => unhex_of_isNumber) isNaN_unhex equal

end Storing

/-- On the values that are no NaN the equality of probes, filters and keys is an equivalence; it
compares what values stand for, so that integers are equal by their numbers and NULL is equal to
NULL only. Equal values stay equal when they are stored, and a NaN is equal to nothing. -/
theorem nullSafeEq_equivalence :
    Equivalence (fun v w : {v : Value // v.isNaN = false} => v.val.nullSafeEq w.val = true) ∧
    (∀ v w : Value, v.isNaN = false → w.isNaN = false →
      (v.nullSafeEq w = true ↔ v.comparand = w.comparand)) ∧
    (∀ (v w : Value) (m n : Int), v.IsInteger m → w.IsInteger n →
      (v.nullSafeEq w = true ↔ m = n)) ∧
    (∀ v : Value, (null.nullSafeEq v = true ↔ v = null) ∧ (v.nullSafeEq null = true ↔ v = null)) ∧
    (∀ v w : Value, v.nullSafeEq w = true →
      (∀ normalize, (v.mapTime normalize).nullSafeEq (w.mapTime normalize) = true) ∧
        (MemoryStore.unhex v).nullSafeEq (MemoryStore.unhex w) = true) ∧
    ∀ v w : Value, v.isNaN = true → v.nullSafeEq w = false ∧ w.nullSafeEq v = false := by
  refine ⟨⟨?_, ?_, ?_⟩, ?_, ?_, ?_, ?_, ?_⟩
  · exact fun v => nullSafeEq_self v.property
  · intro v w equal
    rwa [nullSafeEq_comm]
  · exact fun first second => nullSafeEq_trans first second
  · intro v w left right
    rw [nullSafeEq_iff]
    simp [left, right]
  · exact fun v w m n left right => left.nullSafeEq_iff right
  · intro v
    rw [nullSafeEq_comm null v]
    exact ⟨nullSafeEq_null_iff, nullSafeEq_null_iff⟩
  · intro v w equal
    exact ⟨fun normalize => nullSafeEq_mapTime normalize equal, nullSafeEq_unhex equal⟩
  · intro v w nan
    rw [nullSafeEq_comm v w]
    exact ⟨nullSafeEq_of_isNaN w nan, nullSafeEq_of_isNaN w nan⟩

private def shortSeven : Value := int16 7

private def longSeven : Value := int64 7

private def price : Value := decimal ⟨false, 15, 1⟩

private def paddedPrice : Value := decimal ⟨false, 150, 2⟩

private def notANumber : Value := float64 (.quietNaN .double false)

/-- Sevens of two widths are equal, a price is equal to itself with one place more, and what is not
a number is not even equal to itself. -/
theorem nullSafeEq_equivalence_of_sevens :
    shortSeven.IsInteger 7 ∧ longSeven.IsInteger 7 ∧ shortSeven.nullSafeEq longSeven = true ∧
      longSeven.nullSafeEq shortSeven = true ∧
      (MemoryStore.unhex shortSeven).nullSafeEq (MemoryStore.unhex longSeven) = true ∧
      price.isNaN = false ∧ paddedPrice.isNaN = false ∧ price.comparand = paddedPrice.comparand ∧
      price.nullSafeEq null = false ∧
      notANumber.isNaN = true ∧ notANumber.nullSafeEq notANumber = false := by
  obtain ⟨equivalence, compared, integers, nulls, stored, nans⟩ := nullSafeEq_equivalence
  have short : shortSeven.IsInteger 7 := .int16 7
  have long : longSeven.IsInteger 7 := .int64 7
  have equal := (integers shortSeven longSeven 7 7 short long).mpr rfl
  have prices := (compared price paddedPrice rfl rfl).mp (by decide)
  have priced : price.nullSafeEq null = false :=
    Bool.eq_false_iff.mpr fun same => nomatch (nulls price).2.mp same
  have nan : notANumber.isNaN = true := by decide
  exact ⟨short, long, equal, @equivalence.symm ⟨shortSeven, rfl⟩ ⟨longSeven, rfl⟩ equal,
    (stored _ _ equal).2, rfl, rfl, prices, priced, nan, (nans _ _ nan).1⟩

end Value

end RowSync
