import RowSync.Postgres.Numeric
import RowSync.Proofs.Number.ExactDecimal
import RowSync.Proofs.Number.Integer
import Mathlib.Data.List.Basic
import Mathlib.Data.List.TakeWhile

/-!
A decimal in groups of four digits comes back as the same number, from the groups and from their
bytes. The groups in front of the point make up the whole part, and each one behind it adds its
units; no sum on the way needs more room than the decimal.
-/

set_option autoImplicit false

namespace RowSync

namespace PostgresNumeric

/-- The number that groups spell, the most significant first. -/
def groupsValue : List Nat → Nat
  | [] => 0
  | g :: groups => g * Nat.pow base groups.length + groupsValue groups

theorem groupsValue_append (front behind : List Nat) :
    groupsValue (front ++ behind) =
      groupsValue front * Nat.pow base behind.length + groupsValue behind := by
  induction front with
  | nil => simp [groupsValue]
  | cons g front ih =>
    have longer : Nat.pow base (front ++ behind).length =
        Nat.pow base front.length * Nat.pow base behind.length := by
      rw [List.length_append]
      exact Nat.pow_add _ _ _
    rw [List.cons_append, groupsValue, ih, longer, groupsValue, Nat.add_mul, Nat.mul_assoc,
      Nat.add_assoc]

theorem groupsValue_groupsOf (n : Nat) : groupsValue (groupsOf n) = n := by
  induction n using groupsOf.induct with
  | case1 => rw [groupsOf, groupsValue]
  | case2 n ih =>
    rw [groupsOf, groupsValue_append, ih]
    simp only [groupsValue, List.length_singleton, List.length_nil, base]
    show (n + 1) / 10000 * 10000 + ((n + 1) % 10000 * 1 + 0) = n + 1
    omega

theorem lt_of_mem_groupsOf {n g : Nat} (mem : g ∈ groupsOf n) : g < base := by
  induction n using groupsOf.induct with
  | case1 =>
    rw [groupsOf] at mem
    cases mem
  | case2 n ih =>
    rw [groupsOf, List.mem_append, List.mem_singleton] at mem
    rcases mem with before | rfl
    · exact ih before
    · exact Nat.mod_lt _ (by decide)

theorem length_groupsOf_le : ∀ {count n : Nat}, n < Nat.pow base count →
    (groupsOf n).length ≤ count := by
  intro count
  induction count with
  | zero =>
    intro n small
    have zero : n = 0 := Nat.lt_one_iff.mp small
    subst zero
    rw [groupsOf]
    exact Nat.le_refl 0
  | succ count ih =>
    intro n small
    cases n with
    | zero =>
      rw [groupsOf]
      exact Nat.zero_le _
    | succ n =>
      have shorter : (n + 1) / base < Nat.pow base count := Nat.div_lt_of_lt_mul (by
        rw [Nat.mul_comm]
        exact small)
      rw [groupsOf, List.length_append]
      exact Nat.succ_le_succ (ih shorter)

theorem wholeOf?_eq {groups : List Nat} : ∀ {acc : Nat},
    acc * Nat.pow base groups.length + groupsValue groups < Decimal.coefficientBound →
      wholeOf? acc groups = some (acc * Nat.pow base groups.length + groupsValue groups) := by
  induction groups with
  | nil =>
    intro acc _
    exact congrArg some (Nat.mul_one acc).symm
  | cons g groups ih =>
    intro acc small
    have joined : acc * Nat.pow base (g :: groups).length + groupsValue (g :: groups) =
        (acc * base + g) * Nat.pow base groups.length + groupsValue groups := by
      have longer : Nat.pow base (g :: groups).length = Nat.pow base groups.length * base := rfl
      rw [longer, groupsValue, Nat.add_mul, Nat.mul_assoc, Nat.mul_comm base, Nat.add_assoc]
    rw [joined] at small ⊢
    have positive : 0 < Nat.pow base groups.length := Nat.pow_pos (by decide)
    have step : acc * base + g < Decimal.coefficientBound := by
      have wider := Nat.le_mul_of_pos_right (acc * base + g) positive
      omega
    rw [wholeOf?, if_pos step]
    exact ih small

theorem pow_base (count : Nat) : Nat.pow base count = Nat.pow 10 (4 * count) :=
  (Nat.pow_mul 10 4 count).symm

/-- Groups behind the point in units, the first of which ends at the given place. -/
def fractionUnits (place : Nat) : List Nat → Nat
  | [] => 0
  | g :: groups => g * Nat.pow 10 (Decimal.maxScale - place) + fractionUnits (place + 4) groups

theorem fractionUnits_eq {groups : List Nat} : ∀ {place : Nat} (rest : Nat),
    place + 4 * groups.length + rest = Decimal.maxScale + 4 →
      fractionUnits place groups = groupsValue groups * Nat.pow 10 rest := by
  induction groups with
  | nil => exact fun _ _ => (Nat.zero_mul _).symm
  | cons g groups ih =>
    intro place rest room
    rw [List.length_cons] at room
    have shift : Nat.pow 10 (Decimal.maxScale - place) =
        Nat.pow base groups.length * Nat.pow 10 rest := by
      rw [pow_base]
      exact Decimal.pow_parts (4 * groups.length) rest (by omega)
    rw [fractionUnits, groupsValue, shift, ih rest (by omega), Nat.add_mul,
      Nat.mul_assoc]

theorem fractionUnits_lt {groups : List Nat} : ∀ (place : Nat), (∀ g ∈ groups, g < base) →
    place + 4 * groups.length ≤ Decimal.maxScale + 4 →
      fractionUnits place groups < Nat.pow 10 (Decimal.maxScale + 4 - place) := by
  induction groups with
  | nil => exact fun _ _ _ => Nat.pow_pos (by decide)
  | cons g groups ih =>
    intro place digits room
    rw [List.length_cons] at room
    have later : fractionUnits (place + 4) groups < Nat.pow 10 (Decimal.maxScale - place) := by
      have below := ih (place + 4) (fun g' mem => digits g' (List.mem_cons_of_mem g mem))
        (by omega)
      rwa [Nat.add_sub_add_right] at below
    have whole : Nat.pow 10 (Decimal.maxScale + 4 - place) =
        base * Nat.pow 10 (Decimal.maxScale - place) :=
      Decimal.pow_parts 4 (Decimal.maxScale - place) (by omega)
    calc fractionUnits place (g :: groups)
        < (g + 1) * Nat.pow 10 (Decimal.maxScale - place) := by
          rw [fractionUnits, Nat.succ_mul]
          omega
      _ ≤ base * Nat.pow 10 (Decimal.maxScale - place) :=
          Nat.mul_le_mul_right _ (digits g List.mem_cons_self)
      _ = _ := whole.symm

theorem fractionUnits_append (front behind : List Nat) : ∀ place,
    fractionUnits place (front ++ behind) =
      fractionUnits place front + fractionUnits (place + 4 * front.length) behind := by
  induction front with
  | nil => exact fun place => (Nat.zero_add _).symm
  | cons g front ih =>
    intro place
    have shift : place + 4 * (g :: front).length = place + 4 + 4 * front.length := by
      rw [List.length_cons]
      omega
    rw [List.cons_append, fractionUnits, ih, fractionUnits, shift]
    exact (Nat.add_assoc _ _ _).symm

private theorem fractionUnits_zeros {zeros : List Nat} : ∀ {place : Nat}, (∀ g ∈ zeros, g = 0) →
    fractionUnits place zeros = 0 := by
  induction zeros with
  | nil => exact fun _ => rfl
  | cons g zeros ih =>
    intro place none
    rw [fractionUnits, none g List.mem_cons_self, Nat.zero_mul,
      ih (fun g' mem => none g' (List.mem_cons_of_mem g mem))]

private theorem dropZeros_append (groups : List Nat) :
    ∃ zeros, groups = dropZeros groups ++ zeros ∧ ∀ g ∈ zeros, g = 0 := by
  refine ⟨(groups.reverse.takeWhile (· == 0)).reverse, ?_, ?_⟩
  · rw [dropZeros, ← List.reverse_append, List.takeWhile_append_dropWhile, List.reverse_reverse]
  · intro g mem
    simpa using List.mem_takeWhile_imp (List.mem_reverse.mp mem)

theorem fractionUnits_dropZeros (place : Nat) (groups : List Nat) :
    fractionUnits place (dropZeros groups) = fractionUnits place groups := by
  obtain ⟨zeros, whole, none⟩ := dropZeros_append groups
  conv => rhs; rw [whole, fractionUnits_append, fractionUnits_zeros none, Nat.add_zero]

/-- Adding the groups behind the point loses nothing when all of them make up some decimal. -/
theorem addFraction?_exact {groups : List Nat} : ∀ {d : Decimal} {place : Nat},
    (∀ g ∈ groups, g < base) → place + 4 * groups.length ≤ Decimal.maxScale + 4 →
    d.WellFormed → d.negative = false → d.scale ≤ place →
    Decimal.Representable (d.units + fractionUnits place groups) →
      ∃ e, addFraction? d place groups = some e ∧ e.negative = false ∧ e.WellFormed ∧
        e.units = d.units + fractionUnits place groups := by
  induction groups with
  | nil => exact fun _ _ formed sign _ _ => ⟨_, rfl, sign, formed, rfl⟩
  | cons g groups ih =>
    intro d place digits room formed sign shown exact
    rw [List.length_cons] at room
    have later : ∀ g' ∈ groups, g' < base := fun g' mem => digits g' (List.mem_cons_of_mem g mem)
    have next : (⟨false, g, place⟩ : Decimal).units = g * Nat.pow 10 (Decimal.maxScale - place) :=
      rfl
    rw [fractionUnits, ← next, ← Nat.add_assoc] at exact ⊢
    have inside : place ≤ Decimal.maxScale := by omega
    -- The sum so far is what the whole sum has in front of a place.
    have partial_sum : Decimal.Representable (d.units + (⟨false, g, place⟩ : Decimal).units) := by
      have parts : d.units + (⟨false, g, place⟩ : Decimal).units =
          (d.coefficient * Nat.pow 10 (place - d.scale) + g) *
            Nat.pow 10 (Decimal.maxScale - place) := by
        have places : Nat.pow 10 (Decimal.maxScale - d.scale) =
            Nat.pow 10 (place - d.scale) * Nat.pow 10 (Decimal.maxScale - place) :=
          Decimal.pow_parts _ _ (by omega)
        rw [next, Decimal.units, places, Nat.add_mul, Nat.mul_assoc]
      have below := fractionUnits_lt (place + 4) later (by omega)
      rw [Nat.add_sub_add_right] at below
      rw [parts] at exact ⊢
      exact Decimal.representable_of_front inside below exact
    obtain ⟨e, added, sign', formed', scale, value⟩ :=
      Decimal.addMagnitude?_exact formed.2 inside partial_sum
    have short : e.scale ≤ place := Nat.le_trans scale (Nat.max_le.mpr ⟨shown, Nat.le_refl place⟩)
    rw [← value] at exact ⊢
    have found := ih later (by omega) formed' sign' (by omega) exact
    rw [addFraction?]
    simp only [inside, if_true, added]
    exact found

theorem shiftWhole?_zero {n : Nat} (small : n < Decimal.coefficientBound) :
    shiftWhole? n 0 = some n := by
  have whole : n * Nat.pow base 0 = n := Nat.mul_one n
  simp only [shiftWhole?, whole, small, if_true]
  rfl

private theorem toDecimal?_exact {n : PostgresNumeric} {d : Decimal} (whole : Nat)
    (formed : d.WellFormed) (sign : n.negative = d.negative) (scale : n.scale = d.scale)
    (small : whole < Decimal.coefficientBound) (digits : ∀ g ∈ n.groups, g < base)
    (joined : wholeOf? 0 (n.groups.take (n.weight + 1).toNat) = some whole)
    (shifted : shiftWhole? whole ((n.weight + 1).toNat - n.groups.length) = some whole)
    (room : 4 * ((-n.weight).toNat - 1) + 4 + 4 * (n.groups.drop (n.weight + 1).toNat).length ≤
      Decimal.maxScale + 4)
    (total : whole * Nat.pow 10 Decimal.maxScale + fractionUnits (4 * ((-n.weight).toNat - 1) + 4)
      (n.groups.drop (n.weight + 1).toNat) = d.units) :
    ∃ e, n.toDecimal? = some e ∧ e.valueEq d = true := by
  have start : (⟨false, whole, 0⟩ : Decimal).units = whole * Nat.pow 10 Decimal.maxScale := rfl
  rw [← start] at total
  have exact : Decimal.Representable ((⟨false, whole, 0⟩ : Decimal).units +
      fractionUnits (4 * ((-n.weight).toNat - 1) + 4) (n.groups.drop (n.weight + 1).toNat)) :=
    ⟨d, formed, total.symm⟩
  obtain ⟨e, added, plus, formed', units⟩ := addFraction?_exact
    (fun g mem => digits g (List.mem_of_mem_drop mem)) room ⟨small, Nat.zero_le _⟩ rfl
    (Nat.zero_le _) exact
  have signed : ({ e with negative := n.negative } : Decimal).WellFormed := formed'
  have value : ({ e with negative := n.negative } : Decimal).units = d.units := units.trans total
  refine ⟨({ e with negative := n.negative } : Decimal).rescale n.scale, ?_, ?_⟩
  · simp only [toDecimal?, joined, Option.bind_some, shifted, added, Option.map_some]
  · apply Decimal.valueEq_of_units (signed.rescale n.scale).2 formed.2
    · exact .inl ((Decimal.rescale_negative _ _).trans sign)
    · rw [scale]
      exact (Decimal.units_rescale signed formed.2 value).trans value

/-- The number of groups behind the point. -/
def groupsBehind (d : Decimal) : Nat := (d.scale + 3) / 4

/-- All groups of a decimal, zeros at the end included. -/
def allGroups (d : Decimal) : List Nat :=
  groupsOf (d.coefficient * Nat.pow 10 (4 * groupsBehind d - d.scale))

theorem ofDecimal_zero {d : Decimal} (zero : d.isZero = true) :
    ofDecimal d = ⟨[], 0, false, 0⟩ := by
  rw [ofDecimal, zero]
  rfl

/-- A decimal has groups in front of the point, and then those behind it lose their zeros, or all
its groups are behind the point and are kept. -/
theorem ofDecimal_cases {d : Decimal} (some_unit : d.isZero = false) :
    (∃ front behind, allGroups d = front ++ behind ∧ behind.length = groupsBehind d ∧
      front ≠ [] ∧
      ofDecimal d = ⟨front ++ dropZeros behind, (front.length : Int) - 1, d.negative, d.scale⟩) ∨
    ((allGroups d).length ≤ groupsBehind d ∧
      ofDecimal d =
        ⟨allGroups d, ((allGroups d).length : Int) - groupsBehind d - 1, d.negative, d.scale⟩) := by
  rw [ofDecimal, some_unit]
  simp only [Bool.false_eq_true, if_false]
  rw [← groupsBehind, ← allGroups]
  by_cases whole : groupsBehind d < (allGroups d).length
  · refine .inl ⟨(allGroups d).take ((allGroups d).length - groupsBehind d),
      (allGroups d).drop ((allGroups d).length - groupsBehind d),
      (List.take_append_drop _ _).symm, ?_, ?_, ?_⟩
    · rw [List.length_drop]
      omega
    · rw [ne_eq, ← List.length_eq_zero_iff, List.length_take]
      omega
    · rw [if_pos (by omega), List.length_take, PostgresNumeric.mk.injEq]
      exact ⟨rfl, by omega, rfl, rfl⟩
  · refine .inr ⟨Nat.le_of_not_lt whole, ?_⟩
    rw [if_neg (by omega)]

private theorem units_eq {d : Decimal} (formed : d.WellFormed) :
    d.units = groupsValue (allGroups d) * Nat.pow 10 (Decimal.maxScale - 4 * groupsBehind d) := by
  have short : d.scale ≤ 28 := formed.2
  have places : Nat.pow 10 (Decimal.maxScale - d.scale) =
      Nat.pow 10 (4 * groupsBehind d - d.scale) *
        Nat.pow 10 (Decimal.maxScale - 4 * groupsBehind d) := by
    apply Decimal.pow_parts
    unfold groupsBehind Decimal.maxScale
    omega
  rw [allGroups, groupsValue_groupsOf, Decimal.units, places, Nat.mul_assoc]

theorem length_dropZeros_le (groups : List Nat) : (dropZeros groups).length ≤ groups.length := by
  have same : groups.reverse.length = groups.length := List.length_reverse
  rw [dropZeros, List.length_reverse, ← same]
  exact (List.dropWhile_sublist _).length_le

theorem mem_of_mem_dropZeros {groups : List Nat} {g : Nat} (mem : g ∈ dropZeros groups) :
    g ∈ groups :=
  List.mem_reverse.mp ((List.dropWhile_sublist _).mem (List.mem_reverse.mp mem))

/-- A decimal comes back from its groups as the same number. -/
theorem toDecimal?_ofDecimal {d : Decimal} (formed : d.WellFormed) :
    ∃ e, (ofDecimal d).toDecimal? = some e ∧ e.valueEq d = true := by
  have short : d.scale ≤ 28 := formed.2
  have few : 4 * groupsBehind d ≤ Decimal.maxScale := by
    unfold groupsBehind Decimal.maxScale
    omega
  have units := units_eq formed
  have digits : ∀ g ∈ allGroups d, g < base := fun g => lt_of_mem_groupsOf
  cases zero : d.isZero with
  | true =>
    have none : d.coefficient = 0 := beq_iff_eq.mp zero
    refine ⟨⟨false, 0, 0⟩, ?_, ?_⟩
    · rw [ofDecimal_zero zero]
      rfl
    · exact Decimal.valueEq_of_units (Nat.zero_le _) formed.2 (.inr rfl) (by
        rw [Decimal.units, Decimal.units, none, Nat.zero_mul, Nat.zero_mul])
  | false =>
    rcases ofDecimal_cases zero with ⟨front, behind, groups, length, some_front, form⟩ |
      ⟨fits, form⟩
    · have weight : ((front.length : Int) - 1 + 1).toNat = front.length := by omega
      have place : (-((front.length : Int) - 1)).toNat - 1 = 0 := by
        have positive := List.length_pos_iff.mpr some_front
        omega
      have total : groupsValue front * Nat.pow 10 Decimal.maxScale + fractionUnits 4 behind =
          d.units := by
        have places : Nat.pow 10 Decimal.maxScale = Nat.pow base behind.length *
            Nat.pow 10 (Decimal.maxScale - 4 * groupsBehind d) := by
          rw [pow_base]
          exact Decimal.pow_parts _ _ (by omega)
        rw [units, groups, groupsValue_append, places,
          fractionUnits_eq (Decimal.maxScale - 4 * groupsBehind d) (by omega), Nat.add_mul,
          Nat.mul_assoc]
      -- The whole part has no greater coefficient than the decimal.
      have small : groupsValue front < Decimal.coefficientBound := by
        have fewer : Nat.pow 10 (Decimal.maxScale - d.scale) ≤ Nat.pow 10 Decimal.maxScale :=
          Nat.pow_le_pow_right (by decide) (Nat.sub_le _ _)
        have wider := Nat.mul_le_mul_left d.coefficient fewer
        rw [← Decimal.units, ← total] at wider
        have bounded : groupsValue front ≤ d.coefficient :=
          Nat.le_of_mul_le_mul_right (Nat.le_trans (Nat.le_add_right _ _) wider)
            (Decimal.pow_pos Decimal.maxScale)
        exact Nat.lt_of_le_of_lt bounded formed.1
      rw [form]
      apply toDecimal?_exact (groupsValue front) formed rfl rfl small
      · intro g mem
        apply digits g
        rw [groups]
        exact List.mem_append.mpr ((List.mem_append.mp mem).imp id mem_of_mem_dropZeros)
      · rw [weight, List.take_left]
        have joined : wholeOf? 0 front =
            some (0 * Nat.pow base front.length + groupsValue front) := wholeOf?_eq (by omega)
        rwa [Nat.zero_mul, Nat.zero_add] at joined
      · have none : front.length - (front ++ dropZeros behind).length = 0 := by
          rw [List.length_append]
          omega
        rw [weight, none, shiftWhole?_zero small]
      · rw [weight, List.drop_left, place]
        have kept := length_dropZeros_le behind
        omega
      · rw [weight, List.drop_left, place, fractionUnits_dropZeros]
        exact total
    -- Everything stands behind the point, and the whole part is zero.
    · generalize allGroups d = groups at *
      have weight : ((groups.length : Int) - groupsBehind d - 1 + 1).toNat = 0 := by omega
      have place : (-((groups.length : Int) - groupsBehind d - 1)).toNat - 1 =
          groupsBehind d - groups.length := by omega
      have small : 0 < Decimal.coefficientBound := by decide
      rw [form]
      apply toDecimal?_exact 0 formed rfl rfl small digits
      · rw [weight, List.take_zero, wholeOf?]
      · rw [weight, Nat.zero_sub, shiftWhole?_zero small]
      · rw [weight, List.drop_zero, place]
        dsimp only
        omega
      · rw [weight, List.drop_zero, place, units, Nat.zero_mul, Nat.zero_add]
        exact fractionUnits_eq _ (by dsimp only; omega)

theorem wellFormed_of_addFraction? {groups : List Nat} : ∀ {d e : Decimal} {place : Nat},
    d.WellFormed → addFraction? d place groups = some e → e.WellFormed := by
  induction groups with
  | nil =>
    intro d e place formed found
    cases found
    exact formed
  | cons g groups ih =>
    intro d e place formed found
    rw [addFraction?] at found
    split at found
    · rename_i next added
      apply ih _ found
      split at added
      · exact Decimal.wellFormed_of_addMagnitude? formed.2 ‹_› added
      · split at added
        · exact Decimal.wellFormed_of_addMagnitude? formed.2 (Nat.le_refl _) added
        · cases added
          exact formed
    · cases found

theorem lt_of_shiftWhole? {n missing whole : Nat} (found : shiftWhole? n missing = some whole) :
    whole < Decimal.coefficientBound := by
  unfold shiftWhole? at found
  dsimp only at found
  split at found
  · cases found
  · split at found
    · cases found
      assumption
    · cases found

/-- Whatever groups are sent, the decimal that they stand for fits its representation. -/
theorem wellFormed_of_toDecimal? {n : PostgresNumeric} {d : Decimal}
    (found : n.toDecimal? = some d) : d.WellFormed := by
  obtain ⟨sum, added, rfl⟩ := Option.map_eq_some_iff.mp found
  obtain ⟨whole, front, added⟩ := Option.bind_eq_some_iff.mp added
  obtain ⟨joined, -, shifted⟩ := Option.bind_eq_some_iff.mp front
  have formed := wellFormed_of_addFraction? ⟨lt_of_shiftWhole? shifted, Nat.zero_le _⟩ added
  exact Decimal.WellFormed.rescale (d := { sum with negative := n.negative }) formed n.scale

private theorem takeGroups?_flatMap {groups : List Nat} (small : ∀ g ∈ groups, g < 65536) :
    takeGroups? groups.length (groups.flatMap (BigEndian.ofNat 2)) = some groups := by
  induction groups with
  | nil => rfl
  | cons g groups ih =>
    have pair : BigEndian.toNat (BigEndian.ofNat 2 g) = g := by
      rw [BigEndian.toNat_ofNat]
      exact Nat.mod_eq_of_lt (small g List.mem_cons_self)
    have rest := ih fun g' mem => small g' (List.mem_cons_of_mem g mem)
    show (takeGroups? groups.length (groups.flatMap (BigEndian.ofNat 2))).map
      (BigEndian.toNat (BigEndian.ofNat 2 g) :: ·) = _
    rw [rest, pair]
    rfl

private theorem ofBytes?_append {count weight mark scale groups : Bytes} (h₁ : count.length = 2)
    (h₂ : weight.length = 2) (h₃ : mark.length = 2) (h₄ : scale.length = 2)
    (known : BigEndian.toNat mark = 0 ∨ BigEndian.toNat mark = negativeMark) :
    ofBytes? (count ++ weight ++ mark ++ scale ++ groups) =
      (takeGroups? (BigEndian.toNat count) groups).map fun groups =>
        ⟨groups, BigEndian.toInt weight, BigEndian.toNat mark == negativeMark,
          BigEndian.toNat scale⟩ := by
  obtain ⟨c₁, c₂, rfl⟩ := List.length_eq_two.mp h₁
  obtain ⟨w₁, w₂, rfl⟩ := List.length_eq_two.mp h₂
  obtain ⟨m₁, m₂, rfl⟩ := List.length_eq_two.mp h₃
  obtain ⟨s₁, s₂, rfl⟩ := List.length_eq_two.mp h₄
  simp only [List.cons_append, List.nil_append, ofBytes?]
  rw [if_neg]
  rcases known with zero | marked
  · simp [zero]
  · simp [marked]

theorem ofBytes?_toBytes {n : PostgresNumeric} (few : n.groups.length < 65536)
    (lower : -32768 ≤ n.weight) (upper : n.weight < 32768) (scale : n.scale < 65536)
    (small : ∀ g ∈ n.groups, g < 65536) : ofBytes? n.toBytes = some n := by
  have mark : BigEndian.toNat (BigEndian.ofNat 2 (if n.negative then negativeMark else 0)) =
      if n.negative then negativeMark else 0 := by
    rw [BigEndian.toNat_ofNat]
    exact Nat.mod_eq_of_lt (by split <;> decide)
  have count : BigEndian.toNat (BigEndian.ofNat 2 n.groups.length) = n.groups.length := by
    rw [BigEndian.toNat_ofNat]
    exact Nat.mod_eq_of_lt few
  have places : BigEndian.toNat (BigEndian.ofNat 2 n.scale) = n.scale := by
    rw [BigEndian.toNat_ofNat]
    exact Nat.mod_eq_of_lt scale
  have whole : Nat.pow 256 2 = 65536 := rfl
  have weight : BigEndian.toInt (BigEndian.ofInt 2 n.weight) = n.weight :=
    BigEndian.toInt_ofInt (by omega) (by omega)
  rw [toBytes, ofBytes?_append (BigEndian.length_ofNat _ _) (BigEndian.length_ofInt _ _)
    (BigEndian.length_ofNat _ _) (BigEndian.length_ofNat _ _)]
  · rw [count, takeGroups?_flatMap small, weight, mark, places]
    obtain ⟨groups, weight, negative, scale⟩ := n
    cases negative <;> rfl
  · rw [mark]
    split
    · exact .inr rfl
    · exact .inl rfl

theorem ofBytes?_ofDecimal {d : Decimal} (formed : d.WellFormed) :
    ofBytes? (ofDecimal d).toBytes = some (ofDecimal d) := by
  have short : d.scale ≤ 28 := formed.2
  have behind : groupsBehind d ≤ 7 := by
    unfold groupsBehind
    omega
  have few : (allGroups d).length ≤ 8 := by
    apply length_groupsOf_le
    have shift : Nat.pow 10 (4 * groupsBehind d - d.scale) ≤ Nat.pow 10 3 :=
      Nat.pow_le_pow_right (by decide) (by
        unfold groupsBehind
        omega)
    calc d.coefficient * Nat.pow 10 (4 * groupsBehind d - d.scale)
        ≤ Decimal.coefficientBound * Nat.pow 10 3 :=
          Nat.mul_le_mul (Nat.le_of_lt formed.1) shift
      _ < Nat.pow base 8 := by decide
  have small : ∀ g ∈ allGroups d, g < 65536 := fun g mem =>
    Nat.lt_trans (lt_of_mem_groupsOf mem) (by decide)
  cases zero : d.isZero with
  | true =>
    rw [ofDecimal_zero zero]
    exact ofBytes?_toBytes (by decide) (by decide) (by decide) (by decide) (by simp)
  | false =>
    rcases ofDecimal_cases zero with ⟨front, rest, groups, length, -, form⟩ | ⟨-, form⟩
    · have kept := length_dropZeros_le rest
      rw [groups, List.length_append] at few
      rw [form]
      refine ofBytes?_toBytes ?_ ?_ ?_ ?_ ?_ <;> dsimp only
      · rw [List.length_append]
        omega
      · omega
      · omega
      · omega
      · intro g mem
        apply small g
        rw [groups]
        exact List.mem_append.mpr ((List.mem_append.mp mem).imp id mem_of_mem_dropZeros)
    · rw [form]
      refine ofBytes?_toBytes ?_ ?_ ?_ ?_ small <;> dsimp only <;> omega

end PostgresNumeric

end RowSync
