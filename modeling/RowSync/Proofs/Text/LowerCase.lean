import Mathlib.Data.String.Basic
import RowSync.Proofs.Text.PlainName

/-!
Lower-casing of arbitrary text: doing it twice is doing it once, the case of ASCII letters does
not matter for it, and a text that goes on behind a blank keeps its beginning.
-/

set_option autoImplicit false

namespace RowSync.Text

section Images

private def CaseRun.image (run : CaseRun) : CaseRun :=
  ⟨(run.first + run.shift).toNat, (run.last + run.shift).toNat, run.stride, 0⟩

private def CaseRun.alternates (run : CaseRun) : Bool := run.stride == 2 || run.first == run.last

/-- The runs cover different ranges, or one has the even and the other the odd code points. -/
private def CaseRun.apart (a b : CaseRun) : Bool :=
  Nat.blt a.last b.first || Nat.blt b.last a.first ||
    a.alternates && b.alternates && a.first % 2 != b.first % 2

/-- The code points that lower-casing moves; the dotted capital i is not in the table of runs. -/
private def moved : List CaseRun := ⟨0x41, 0x5a, 1, 0⟩ :: ⟨0x130, 0x130, 1, 0⟩ :: lowerCaseRuns

private theorem images_apart :
    (lowerCaseRuns.all fun a => moved.all fun b => a.image.apart b) = true := by
  decide +kernel

private theorem images_valid : (lowerCaseRuns.all fun run =>
    decide (0 ≤ (run.first : Int) + run.shift) && (Nat.blt run.image.last 0xd800 ||
      Nat.blt 0xdfff run.image.first && Nat.blt run.image.last 0x110000)) = true := by
  decide +kernel

private theorem contains_iff {run : CaseRun} {n : Nat} :
    run.contains n = true ↔ run.first ≤ n ∧ n ≤ run.last ∧ (n - run.first) % run.stride = 0 := by
  simp [CaseRun.contains, and_assoc]

private theorem parity_of_alternates {run : CaseRun} {n : Nat} (inside : run.contains n = true)
    (alternates : run.alternates = true) : n % 2 = run.first % 2 := by
  obtain ⟨low, high, strided⟩ := contains_iff.mp inside
  rcases Bool.or_eq_true _ _ ▸ alternates with two | single
  · rw [beq_iff_eq.mp two] at strided
    omega
  · have same := beq_iff_eq.mp single
    omega

private theorem not_contains_of_apart {a b : CaseRun} {n : Nat} (apart : a.apart b = true)
    (inside : a.contains n = true) : b.contains n = false := by
  rw [← Bool.not_eq_true]
  intro also
  obtain ⟨low, high, -⟩ := contains_iff.mp inside
  obtain ⟨low', high', -⟩ := contains_iff.mp also
  simp only [CaseRun.apart, Bool.or_eq_true, Bool.and_eq_true, Nat.blt_eq, bne_iff_ne] at apart
  rcases apart with (before | after) | ⟨⟨alternates, alternates'⟩, parity⟩
  · omega
  · omega
  · have one := parity_of_alternates inside alternates
    have other := parity_of_alternates also alternates'
    omega

private theorem image_contains {run : CaseRun} {n : Nat} (inside : run.contains n = true)
    (based : 0 ≤ (run.first : Int) + run.shift) :
    run.image.contains ((n : Int) + run.shift).toNat = true := by
  obtain ⟨low, high, strided⟩ := contains_iff.mp inside
  have same : ((n : Int) + run.shift).toNat - ((run.first : Int) + run.shift).toNat =
      n - run.first := by omega
  refine contains_iff.mpr ⟨?_, ?_, ?_⟩
  · change ((run.first : Int) + run.shift).toNat ≤ _
    omega
  · change _ ≤ ((run.last : Int) + run.shift).toNat
    omega
  · change (_ - ((run.first : Int) + run.shift).toNat) % run.stride = 0
    rw [same, strided]

end Images

theorem lowerAscii_of_not_capital {c : Char} (other : ¬(0x41 ≤ c.toNat ∧ c.toNat ≤ 0x5a)) :
    lowerAscii c = c := by
  refine if_neg fun capital => other ?_
  exact ⟨UInt32.le_iff_toNat_le.mp capital.1, UInt32.le_iff_toNat_le.mp capital.2⟩

theorem forall_of_capitals {P : Char → Prop}
    (capitals : ∀ n < 26, P (Char.ofNat (0x41 + n)))
    (others : ∀ c, lowerAscii c = c → P c) (c : Char) : P c := by
  by_cases capital : 0x41 ≤ c.toNat ∧ c.toNat ≤ 0x5a
  · have here := capitals (c.toNat - 0x41) (by omega)
    rwa [Nat.add_sub_cancel' capital.1, Char.ofNat_toNat] at here
  · exact others c (lowerAscii_of_not_capital capital)

/-- Lower-casing leaves the character as it is wherever it stands. -/
def Settled (c : Char) : Prop := lowerChar c = [c] ∧ c ≠ 'Σ'

private theorem settled_of_not_moved {c : Char}
    (still : ∀ run ∈ moved, run.contains c.toNat = false) : Settled c := by
  have capital := still ⟨0x41, 0x5a, 1, 0⟩ (by simp [moved])
  have dotted := still ⟨0x130, 0x130, 1, 0⟩ (by simp [moved])
  rw [← Bool.not_eq_true, contains_iff] at capital dotted
  simp only [Nat.mod_one, and_true] at capital dotted
  have none : lowerCaseRuns.find? (·.contains c.toNat) = none :=
    List.find?_eq_none.mpr fun run member => by
      simp [still run (List.mem_cons_of_mem _ (List.mem_cons_of_mem _ member))]
  refine ⟨?_, ?_⟩
  · unfold lowerChar
    split
    · rw [lowerAscii_of_not_capital (by omega)]
    · rw [if_neg (by simp only [beq_iff_eq]; omega), none]
  · rintro rfl
    have found : (lowerCaseRuns.find? (·.contains 'Σ'.toNat)).isSome = true := by decide +kernel
    rw [none] at found
    cases found

private theorem toNat_ofNat {n : Nat} (valid : n.isValidChar) : (Char.ofNat n).toNat = n := by
  rw [Char.ofNat, dif_pos valid]
  rfl

private theorem settled_of_mem_lowerChar {c d : Char} (member : d ∈ lowerChar c) : Settled d := by
  unfold lowerChar at member
  split at member
  case isTrue small =>
    obtain rfl := List.mem_singleton.mp member
    exact forall_ascii (P := fun c => Settled (lowerAscii c))
      (by unfold Settled; decide) small
  rename_i large
  split at member
  · rcases List.mem_cons.mp member with rfl | last
    · exact ⟨by decide, by decide⟩
    · obtain rfl := List.mem_singleton.mp last
      exact ⟨by decide +kernel, by decide⟩
  rename_i dotted
  cases found : lowerCaseRuns.find? (·.contains c.toNat) with
  | none =>
    rw [found] at member
    obtain rfl := List.mem_singleton.mp member
    rw [beq_iff_eq] at dotted
    -- The two runs in front are those of the cases excluded, the others were searched.
    refine settled_of_not_moved fun run member => ?_
    rw [← Bool.not_eq_true]
    intro inside
    rcases List.mem_cons.mp member with rfl | member
    · obtain ⟨low, high, -⟩ := contains_iff.mp inside
      dsimp only at low high
      omega
    rcases List.mem_cons.mp member with rfl | member
    · obtain ⟨low, high, -⟩ := contains_iff.mp inside
      dsimp only at low high
      omega
    · exact List.find?_eq_none.mp found run member inside
  | some run =>
    rw [found] at member
    obtain rfl := List.mem_singleton.mp member
    have listed := List.mem_of_find?_eq_some found
    have inside : run.contains c.toNat = true := by simpa using List.find?_some found
    have checked := List.all_eq_true.mp images_valid run listed
    simp only [Bool.and_eq_true, decide_eq_true_eq, Bool.or_eq_true, Nat.blt_eq] at checked
    obtain ⟨based, range⟩ := checked
    have imaged := image_contains inside based
    obtain ⟨low, high, -⟩ := contains_iff.mp imaged
    have valid : ((c.toNat : Int) + run.shift).toNat.isValidChar := by
      unfold Nat.isValidChar
      omega
    refine settled_of_not_moved fun b member => ?_
    rw [toNat_ofNat valid]
    have apart := List.all_eq_true.mp (List.all_eq_true.mp images_apart run listed) b member
    exact not_contains_of_apart apart imaged

private theorem lowerAfter_of_settled {cs : List Char} (settled : ∀ c ∈ cs, Settled c)
    (before : List Char) : lowerAfter before cs = cs := by
  induction cs generalizing before with
  | nil => rfl
  | cons c cs ih =>
    obtain ⟨fixed, other⟩ := settled c List.mem_cons_self
    have tail := ih (fun d member => settled d (List.mem_cons_of_mem c member)) (c :: before)
    simp [lowerAfter, other, fixed, tail]

private theorem settled_of_mem_lowerAfter {cs before : List Char} {d : Char}
    (member : d ∈ lowerAfter before cs) : Settled d := by
  induction cs generalizing before with
  | nil => cases member
  | cons c cs ih =>
    rw [lowerAfter] at member
    rcases List.mem_append.mp member with here | later
    · split at here
      · have sigma : d = 'ς' ∨ d = 'σ' := by
          split at here
          · exact .inl (List.mem_singleton.mp here)
          · exact .inr (List.mem_singleton.mp here)
        rcases sigma with rfl | rfl
        · exact ⟨by decide +kernel, by decide⟩
        · exact ⟨by decide +kernel, by decide⟩
      · exact settled_of_mem_lowerChar here
    · exact ih later

/-- A text in lower case stays as it is. -/
theorem lower_lower (s : String) : lower (lower s) = lower s := by
  rw [lower, lower, String.toList_ofList,
    lowerAfter_of_settled fun c member => settled_of_mem_lowerAfter member]

/-- A character that lower-casing leaves as it is stays in every text. -/
theorem mem_lower {c : Char} {s : String} (settled : Settled c) (member : c ∈ s.toList) :
    c ∈ (lower s).toList := by
  have within (cs : List Char) : ∀ before, c ∈ cs → c ∈ lowerAfter before cs := by
    induction cs with
    | nil => exact fun _ none => nomatch none
    | cons d cs ih =>
      intro before member
      rw [lowerAfter]
      rcases List.mem_cons.mp member with rfl | later
      · simp [settled.1, settled.2]
      · exact List.mem_append_right _ (ih _ later)
  rw [lower, String.toList_ofList]
  exact within s.toList [] member

private theorem inRanges_lowerAscii {ranges : List (Nat × Nat)}
    (capitals : ∀ n < 26, inRanges ranges (lowerAscii (Char.ofNat (0x41 + n))) =
      inRanges ranges (Char.ofNat (0x41 + n))) (c : Char) :
    inRanges ranges (lowerAscii c) = inRanges ranges c :=
  forall_of_capitals (P := fun c => inRanges ranges (lowerAscii c) = inRanges ranges c) capitals
    (fun c same => by rw [same]) c

private theorem nextIsCased_cons (c : Char) (cs : List Char) :
    nextIsCased (c :: cs) =
      if inRanges caseIgnorableRanges c then nextIsCased cs else inRanges casedRanges c := by
  rw [nextIsCased, List.dropWhile_cons]
  cases inRanges caseIgnorableRanges c with
  | true => rfl
  | false => rfl

private theorem nextIsCased_map (cs : List Char) :
    nextIsCased (cs.map lowerAscii) = nextIsCased cs := by
  have skipped : ∀ c, inRanges caseIgnorableRanges (lowerAscii c) =
      inRanges caseIgnorableRanges c := inRanges_lowerAscii (by decide +kernel)
  have cased : ∀ c, inRanges casedRanges (lowerAscii c) = inRanges casedRanges c :=
    inRanges_lowerAscii (by decide +kernel)
  induction cs with
  | nil => rfl
  | cons c cs ih => rw [List.map_cons, nextIsCased_cons, nextIsCased_cons, skipped, cased, ih]

private theorem lowerAfter_map (before cs : List Char) :
    lowerAfter (before.map lowerAscii) (cs.map lowerAscii) = lowerAfter before cs := by
  have sigma : ∀ c, (lowerAscii c == 'Σ') = (c == 'Σ') :=
    forall_of_capitals (by decide) fun c same => by rw [same]
  have image : ∀ c, lowerChar (lowerAscii c) = lowerChar c :=
    forall_of_capitals (by decide) fun c same => by rw [same]
  induction cs generalizing before with
  | nil => rfl
  | cons c cs ih =>
    rw [List.map_cons, lowerAfter, lowerAfter, sigma, image, nextIsCased_map, nextIsCased_map,
      ← ih (c :: before), List.map_cons]

theorem lower_eq_of_sameAscii {s t : String} (same : sameAscii s t = true) :
    lower s = lower t := by
  have respelled (s : String) : lower (asciiLower s) = lower s := by
    rw [lower, lower, asciiLower, String.toList_ofList]
    exact congrArg _ (lowerAfter_map [] s.toList)
  rw [← respelled s, sameAscii_iff.mp same, respelled]

private theorem nextIsCased_blank (cs rest : List Char) :
    nextIsCased (cs ++ ' ' :: rest) = nextIsCased cs := by
  have stops : inRanges caseIgnorableRanges ' ' = false := by decide +kernel
  have caseless : inRanges casedRanges ' ' = false := by decide +kernel
  induction cs with
  | nil =>
    rw [List.nil_append, nextIsCased_cons, stops, caseless]
    rfl
  | cons c cs ih => rw [List.cons_append, nextIsCased_cons, nextIsCased_cons, ih]

private theorem lowerAfter_blank (before cs rest : List Char) :
    lowerAfter before (cs ++ ' ' :: rest) =
      lowerAfter before cs ++ lowerAfter (cs.reverse ++ before) (' ' :: rest) := by
  induction cs generalizing before with
  | nil => rfl
  | cons c cs ih =>
    rw [List.cons_append, lowerAfter, lowerAfter, ih, nextIsCased_blank]
    simp

private theorem le_append (l m : List Char) : l ≤ l ++ m := by
  induction l with
  | nil => exact not_lt.mp (List.not_lt_nil m)
  | cons c l ih => exact List.cons_le_cons c ih

theorem lower_le_of_blank (part rest : List Char) :
    lower (String.ofList part) ≤ lower (String.ofList (part ++ ' ' :: rest)) := by
  rw [String.le_iff_toList_le]
  simp only [lower, String.toList_ofList, lowerAfter_blank]
  exact le_append _ _

end RowSync.Text
