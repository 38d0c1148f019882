import RowSync.Number.Decimal
import Mathlib.Data.List.Basic

/-!
Decimals counted in units of the last place that one can have. Where a sum is the number of units of
some decimal, adding gives it without rounding, and so does a change of places.
-/

set_option autoImplicit false

namespace RowSync

namespace Decimal

/-- The magnitude in units of the last place that a decimal can have. -/
def units (d : Decimal) : Nat := d.coefficient * Nat.pow 10 (maxScale - d.scale)

/-- Some decimal has that many units. -/
def Representable (units : Nat) : Prop := ∃ d : Decimal, d.WellFormed ∧ d.units = units

theorem pow_parts {n : Nat} (a b : Nat) (parts : n = a + b) :
    Nat.pow 10 n = Nat.pow 10 a * Nat.pow 10 b := by
  subst parts
  exact Nat.pow_add 10 a b

theorem pow_pos (n : Nat) : 0 < Nat.pow 10 n := Nat.pow_pos (by decide)

theorem representable_of_parts {units coefficient scale : Nat}
    (small : coefficient < coefficientBound) (short : scale ≤ maxScale)
    (equal : units = coefficient * Nat.pow 10 (maxScale - scale)) : Representable units :=
  ⟨⟨false, coefficient, scale⟩, ⟨small, short⟩, equal.symm⟩

theorem representable_of_front {n rest place : Nat}
    (inside : place ≤ maxScale) (below : rest < Nat.pow 10 (maxScale - place))
    (exact : Representable (n * Nat.pow 10 (maxScale - place) + rest)) :
    Representable (n * Nat.pow 10 (maxScale - place)) := by
  obtain ⟨d, ⟨small, short⟩, whole⟩ := exact
  have positive := pow_pos (maxScale - place)
  rw [units] at whole
  rcases Nat.le_total place d.scale with more | fewer
  -- With as many places, the front has no greater coefficient than the decimal.
  · have wide : Nat.pow 10 (maxScale - d.scale) ≤ Nat.pow 10 (maxScale - place) :=
      Nat.pow_le_pow_right (by decide) (by omega)
    have bounded : n ≤ d.coefficient := by
      have scaled := Nat.mul_le_mul_left d.coefficient wide
      exact Nat.le_of_mul_le_mul_right (by omega) positive
    exact representable_of_parts (Nat.lt_of_le_of_lt bounded small) inside rfl
  -- With fewer, nothing of the decimal lies behind the place.
  · have aligned : d.coefficient * Nat.pow 10 (place - d.scale) * Nat.pow 10 (maxScale - place) =
        n * Nat.pow 10 (maxScale - place) + rest := by
      rw [← whole,
        pow_parts (n := maxScale - d.scale) (place - d.scale) (maxScale - place) (by omega),
        Nat.mul_assoc]
    have none : rest = 0 := by
      have divides : Nat.pow 10 (maxScale - place) ∣ rest :=
        (Nat.dvd_add_right (Nat.dvd_mul_left _ n)).mp (aligned ▸ Nat.dvd_mul_left _ _)
      exact Nat.eq_zero_of_dvd_of_lt divides below
    rw [none, Nat.add_zero] at whole
    exact representable_of_parts small short whole.symm

theorem valueEq_of_units {d e : Decimal} (scale : d.scale ≤ maxScale) (scale' : e.scale ≤ maxScale)
    (sign : d.negative = e.negative ∨ d.coefficient = 0) (equal : d.units = e.units) :
    d.valueEq e = true := by
  have magnitude : d.coefficient * Nat.pow 10 e.scale = e.coefficient * Nat.pow 10 d.scale := by
    apply Nat.eq_of_mul_eq_mul_right (pow_pos maxScale)
    calc d.coefficient * Nat.pow 10 e.scale * Nat.pow 10 maxScale
        = d.units * Nat.pow 10 d.scale * Nat.pow 10 e.scale := by
          rw [units, pow_parts (n := maxScale) (maxScale - d.scale) d.scale (by omega)]
          ac_rfl
      _ = e.units * Nat.pow 10 d.scale * Nat.pow 10 e.scale := by rw [equal]
      _ = e.coefficient * Nat.pow 10 d.scale * Nat.pow 10 maxScale := by
          rw [units, pow_parts (n := maxScale) (maxScale - e.scale) e.scale (by omega)]
          ac_rfl
  have positive := pow_pos d.scale
  have signed : d.signedCoefficient * (Nat.pow 10 e.scale : Nat) =
      e.signedCoefficient * (Nat.pow 10 d.scale : Nat) := by
    unfold signedCoefficient
    rcases sign with same | zero
    · rw [same]
      split
      · rw [Int.neg_mul, Int.neg_mul]
        exact congrArg Neg.neg (by exact_mod_cast magnitude)
      · exact_mod_cast magnitude
    · have none : e.coefficient = 0 := by
        rw [zero, Nat.zero_mul] at magnitude
        rcases Nat.mul_eq_zero.mp magnitude.symm with none | none
        · exact none
        · omega
      simp [zero, none]
  rw [valueEq, beq_iff_eq]
  exact signed

private theorem shortenEven_exact (c n : Nat) : shortenEven (c * Nat.pow 10 n) n = c := by
  have positive := pow_pos n
  have quotient : c * Nat.pow 10 n / Nat.pow 10 n = c := Nat.mul_div_cancel _ positive
  have rest : c * Nat.pow 10 n % Nat.pow 10 n = 0 := Nat.mul_mod_left _ _
  have odd : (2 * 0 == Nat.pow 10 n) = false := by
    rw [beq_eq_false_iff_ne]
    omega
  simp only [shortenEven, quotient, rest, odd]
  rw [if_neg (by simp)]

theorem of_fitPlaces {sum scale : Nat} : ∀ {fuel : Nat} {e : Decimal},
    fitPlaces sum scale fuel = some e →
      e.negative = false ∧ e.coefficient < coefficientBound ∧ e.scale < fuel := by
  intro fuel
  induction fuel with
  | zero =>
    intro e found
    cases found
  | succ fuel ih =>
    intro e found
    rw [fitPlaces] at found
    split at found
    · cases found
      exact ⟨rfl, ‹_›, Nat.lt_succ_self _⟩
    · obtain ⟨sign, small, short⟩ := ih found
      exact ⟨sign, small, Nat.lt_succ_of_lt short⟩

private theorem fitPlaces_exact {sum scale c lost : Nat} (small : c < coefficientBound)
    (within : lost ≤ scale) (equal : sum = c * Nat.pow 10 lost) :
    ∀ fuel, scale < fuel + lost → fuel ≤ scale + 1 →
      ∃ e, fitPlaces sum scale fuel = some e ∧
        sum = e.coefficient * Nat.pow 10 (scale - e.scale) := by
  intro fuel
  induction fuel with
  | zero =>
    intro above
    omega
  | succ fuel ih =>
    intro above bound
    have cut : shortenEven sum (scale - fuel) = c * Nat.pow 10 (lost - (scale - fuel)) := by
      rw [equal, pow_parts (n := lost) (lost - (scale - fuel)) (scale - fuel) (by omega),
        ← Nat.mul_assoc]
      exact shortenEven_exact _ _
    rw [fitPlaces, cut]
    by_cases fits : c * Nat.pow 10 (lost - (scale - fuel)) < coefficientBound
    · refine ⟨_, if_pos fits, ?_⟩
      rw [equal, pow_parts (n := lost) (lost - (scale - fuel)) (scale - fuel) (by omega),
        ← Nat.mul_assoc]
    · rw [if_neg fits]
      -- Were all zeros given up, the coefficient would be the one that fits.
      have more : lost ≠ scale - fuel := by
        rintro rfl
        rw [Nat.sub_self] at fits
        exact fits ((Nat.mul_one c).symm ▸ small)
      exact ih (by omega) (by omega)

/-- Numbers of units add up where the sum is that of a decimal. -/
theorem addMagnitude?_exact {a b : Decimal} (short : a.scale ≤ maxScale)
    (short' : b.scale ≤ maxScale) (exact : Representable (a.units + b.units)) :
    ∃ e, a.addMagnitude? b = some e ∧ e.negative = false ∧ e.WellFormed ∧
      e.scale ≤ max a.scale b.scale ∧ e.units = a.units + b.units := by
  obtain ⟨d, ⟨small, shown⟩, whole⟩ := exact
  rw [units] at whole
  generalize places : max a.scale b.scale = scale
  generalize total : a.coefficient * Nat.pow 10 (scale - a.scale) +
    b.coefficient * Nat.pow 10 (scale - b.scale) = sum
  have summed : sum * Nat.pow 10 (maxScale - scale) = a.units + b.units := by
    rw [← total, units, units,
      pow_parts (n := maxScale - a.scale) (scale - a.scale) (maxScale - scale) (by omega),
      pow_parts (n := maxScale - b.scale) (scale - b.scale) (maxScale - scale) (by omega),
      Nat.add_mul, Nat.mul_assoc, Nat.mul_assoc]
  have positive := pow_pos (maxScale - scale)
  -- The sum fits as it is, or behind zeros, by whether the decimal has as many places.
  obtain ⟨c, lost, fits, within, equal⟩ : ∃ c lost, c < coefficientBound ∧ lost ≤ scale ∧
      sum = c * Nat.pow 10 lost := by
    rcases Nat.le_total scale d.scale with more | fewer
    · refine ⟨sum, 0, ?_, Nat.zero_le _, (Nat.mul_one _).symm⟩
      have widened : sum * Nat.pow 10 (d.scale - scale) = d.coefficient := by
        apply Nat.eq_of_mul_eq_mul_right (pow_pos (maxScale - d.scale))
        rw [whole, ← summed,
          pow_parts (n := maxScale - scale) (d.scale - scale) (maxScale - d.scale) (by omega),
          Nat.mul_assoc]
      exact Nat.lt_of_le_of_lt (Nat.le_mul_of_pos_right _ (pow_pos _)) (widened ▸ small)
    · refine ⟨d.coefficient, scale - d.scale, small, Nat.sub_le _ _, ?_⟩
      apply Nat.eq_of_mul_eq_mul_right positive
      rw [summed, ← whole,
        pow_parts (n := maxScale - d.scale) (scale - d.scale) (maxScale - scale) (by omega),
        Nat.mul_assoc]
  obtain ⟨e, found, value⟩ := fitPlaces_exact fits within equal (scale + 1) (by omega)
    (Nat.le_refl _)
  obtain ⟨sign, bound, below⟩ := of_fitPlaces found
  refine ⟨e, ?_, sign, ⟨bound, by omega⟩, by omega, ?_⟩
  · simp only [addMagnitude?, places, total, found]
  · rw [← summed, value, units,
      pow_parts (n := maxScale - e.scale) (scale - e.scale) (maxScale - scale) (by omega),
      Nat.mul_assoc]

theorem wellFormed_of_addMagnitude? {a b e : Decimal} (short : a.scale ≤ maxScale)
    (short' : b.scale ≤ maxScale) (found : a.addMagnitude? b = some e) : e.WellFormed := by
  obtain ⟨-, small, below⟩ := of_fitPlaces found
  exact ⟨small, by omega⟩

private theorem cutPlaces_exact (c : Nat) {n : Nat} (some_place : 0 < n) :
    cutPlaces (c * Nat.pow 10 n) n = c := by
  obtain ⟨n, rfl⟩ := Nat.exists_eq_succ_of_ne_zero (Nat.ne_of_gt some_place)
  have shortened : c * Nat.pow 10 (n + 1) / Nat.pow 10 n = c * 10 := by
    rw [pow_parts (n := n + 1) 1 n (by omega), ← Nat.mul_assoc,
      Nat.mul_div_cancel _ (pow_pos n)]
  rw [cutPlaces, shortened, Nat.mul_mod_left, Nat.mul_div_cancel _ (by decide)]
  rfl

private theorem cutPlaces_lt {c n : Nat} (small : c < coefficientBound) (some_place : 0 < n) :
    cutPlaces c n < coefficientBound := by
  obtain ⟨n, rfl⟩ := Nat.exists_eq_succ_of_ne_zero (Nat.ne_of_gt some_place)
  have shortened : c / Nat.pow 10 n ≤ c := Nat.div_le_self _ _
  have room : 1 < coefficientBound := by decide
  rw [cutPlaces]
  split <;> omega

private theorem widen_spec : ∀ (n c : Nat), c < coefficientBound →
    (widen c n).1 = c * Nat.pow 10 (widen c n).2 ∧ (widen c n).1 < coefficientBound ∧
      (widen c n).2 ≤ n := by
  intro n
  induction n with
  | zero => exact fun c small => ⟨(Nat.mul_one c).symm, small, Nat.le_refl _⟩
  | succ n ih =>
    intro c small
    rw [widen]
    split
    · obtain ⟨value, bound, steps⟩ := ih (c * 10) ‹_›
      refine ⟨?_, bound, Nat.succ_le_succ steps⟩
      rw [value, pow_parts (n := (widen (c * 10) n).2 + 1) 1 (widen (c * 10) n).2 (by omega),
        ← Nat.mul_assoc]
    · exact ⟨(Nat.mul_one c).symm, small, Nat.zero_le _⟩

theorem rescale_negative (d : Decimal) (scale : Nat) : (d.rescale scale).negative = d.negative := by
  unfold rescale
  dsimp only
  split
  · rfl
  · split <;> rfl

theorem WellFormed.rescale {d : Decimal} (formed : d.WellFormed) (scale : Nat) :
    (d.rescale scale).WellFormed := by
  obtain ⟨small, short⟩ := formed
  unfold Decimal.rescale
  dsimp only
  split
  · exact ⟨show 0 < coefficientBound by decide, Nat.min_le_right _ _⟩
  · split
    · exact ⟨cutPlaces_lt small (by omega), Nat.min_le_right _ _⟩
    · obtain ⟨-, bound, steps⟩ := widen_spec (min scale maxScale - d.scale) d.coefficient small
      refine ⟨bound, ?_⟩
      show d.scale + _ ≤ maxScale
      omega

theorem units_rescale {d : Decimal} (formed : d.WellFormed) {c scale : Nat}
    (short : scale ≤ maxScale) (equal : d.units = c * Nat.pow 10 (maxScale - scale)) :
    (d.rescale scale).units = d.units := by
  have wanted : min scale maxScale = scale := by omega
  obtain ⟨small, places⟩ := formed
  unfold rescale
  dsimp only
  rw [wanted]
  split
  · rename_i zero
    rw [units, units, beq_iff_eq.mp zero, Nat.zero_mul, Nat.zero_mul]
  · split
    · have parts := pow_parts (n := maxScale - scale) (d.scale - scale) (maxScale - d.scale)
        (by omega)
      have padded : d.coefficient = c * Nat.pow 10 (d.scale - scale) := by
        apply Nat.eq_of_mul_eq_mul_right (pow_pos (maxScale - d.scale))
        rw [← units, equal, parts, Nat.mul_assoc]
      rw [units, equal, padded, cutPlaces_exact _ (by omega)]
    · obtain ⟨value, -, steps⟩ := widen_spec (scale - d.scale) d.coefficient small
      rw [units, units, value,
        pow_parts (n := maxScale - d.scale) (widen d.coefficient (scale - d.scale)).2
          (maxScale - (d.scale + (widen d.coefficient (scale - d.scale)).2)) (by omega),
        Nat.mul_assoc]

end Decimal

end RowSync
