import Mathlib.Data.List.Basic
import RowSync.Text.Search

/-!
Where separators are found. A part is clear of a separator when no occurrence of it begins inside
the part, whatever follows; joined parts that are clear are split back into themselves.
-/

set_option autoImplicit false

namespace RowSync.Text

variable {sep part rest : List Char}

theorem stripPrefix?_eq_some_iff {pre cs rest : List Char} :
    stripPrefix? pre cs = some rest ↔ cs = pre ++ rest := by
  induction pre generalizing cs with
  | nil => simp [stripPrefix?]
  | cons p pre ih =>
    cases cs with
    | nil => simp [stripPrefix?]
    | cons c cs =>
      by_cases equal : p = c
      · subst equal
        simp [stripPrefix?, ih]
      · simp [stripPrefix?, equal, Ne.symm equal]

@[simp] theorem stripPrefix?_append (pre rest : List Char) :
    stripPrefix? pre (pre ++ rest) = some rest := stripPrefix?_eq_some_iff.mpr rfl

theorem stripPrefix?_head_ne {p c : Char} {pre cs : List Char} (different : p ≠ c) :
    stripPrefix? (p :: pre) (c :: cs) = none := by simp [stripPrefix?, different]

@[simp] theorem stripSuffix?_append (cs suff : List Char) :
    stripSuffix? suff (cs ++ suff) = some cs := by
  have found : suff.isSuffixOf (cs ++ suff) = true :=
    List.isSuffixOf_iff_suffix.mpr (List.suffix_append cs suff)
  simp [stripSuffix?, found]

/-- No occurrence of the separator begins inside the part when the other characters follow it. -/
def Clear (sep : List Char) : List Char → List Char → Prop
  | [], _ => True
  | c :: part, after => stripPrefix? sep (c :: (part ++ after)) = none ∧ Clear sep part after

theorem clear_append {a b after : List Char} :
    Clear sep (a ++ b) after ↔ Clear sep a (b ++ after) ∧ Clear sep b after := by
  induction a with
  | nil => simp [Clear]
  | cons c a ih => simp [Clear, ih, and_assoc]

theorem clear_of_not_mem {s : Char} (absent : s ∉ part) (after : List Char) :
    Clear (s :: sep) part after := by
  induction part with
  | nil => trivial
  | cons c part ih =>
    rw [List.mem_cons, not_or] at absent
    exact ⟨stripPrefix?_head_ne absent.1, ih absent.2⟩

theorem clear_of_not_infix_append {c : Char} (absent : ¬ sep <:+: part ++ [c])
    (ends : c ∉ sep.tail.dropLast) (after : List Char) : Clear sep part (c :: after) := by
  induction part with
  | nil => trivial
  | cons d part ih =>
    refine ⟨?_, ih fun inside => absent (inside.trans (List.suffix_cons d _).isInfix)⟩
    rw [Option.eq_none_iff_forall_ne_some]
    intro rest found
    have whole : (d :: part ++ [c]) ++ after = sep ++ rest := by
      simpa using stripPrefix?_eq_some_iff.mp found
    rcases List.append_eq_append_iff.mp whole with ⟨more, longer, -⟩ | ⟨more, shorter, -⟩
    · cases more with
      | nil =>
        rw [List.append_nil] at longer
        exact absent (longer ▸ List.infix_refl _)
      | cons e more =>
        refine ends ?_
        rw [longer, List.append_assoc, List.cons_append, List.tail_cons,
          List.dropLast_append_of_ne_nil (by simp)]
        simp
    · exact absent (shorter ▸ List.infix_append' [] sep more)

theorem not_infix_concat {c : Char} (nonempty : sep ≠ []) (absent : ¬ sep <:+: part)
    (foreign : c ∉ sep) : ¬ sep <:+: part ++ [c] := by
  rw [List.infix_concat_iff, List.suffix_concat_iff]
  rintro ((empty | ⟨front, ended, -⟩) | inside)
  · exact nonempty empty
  · exact foreign (by simp [ended])
  · exact absent inside

theorem splitOnce?_append (clear : Clear sep part (sep ++ rest)) :
    splitOnce? sep (part ++ (sep ++ rest)) = some (part, rest) := by
  induction part with
  | nil =>
    cases whole : sep ++ rest with
    | nil =>
      obtain ⟨rfl, rfl⟩ := List.append_eq_nil_iff.mp whole
      rfl
    | cons c cs =>
      have found : stripPrefix? sep (c :: cs) = some rest := by
        rw [← whole, stripPrefix?_append]
      simp [splitOnce?, found]
  | cons c part ih =>
    have tail := ih clear.2
    simp [splitOnce?, clear.1, tail]

theorem splitOnce?_eq_none (nonempty : sep ≠ []) (clear : Clear sep part []) :
    splitOnce? sep part = none := by
  induction part with
  | nil =>
    cases sep with
    | nil => exact absurd rfl nonempty
    | cons s sep => rfl
  | cons c part ih =>
    have here : stripPrefix? sep (c :: part) = none := by simpa using clear.1
    simp [splitOnce?, here, ih clear.2]

theorem eq_append_of_splitOnce? {cs : List Char} (split : splitOnce? sep cs = some (part, rest)) :
    cs = part ++ (sep ++ rest) := by
  induction cs generalizing part with
  | nil =>
    simp only [splitOnce?, Option.map_eq_some_iff, Prod.mk.injEq, stripPrefix?_eq_some_iff] at split
    obtain ⟨r, whole, rfl, rfl⟩ := split
    simpa using whole
  | cons c cs ih =>
    simp only [splitOnce?] at split
    cases found : stripPrefix? sep (c :: cs) with
    | some r =>
      simp only [found, Option.some.injEq, Prod.mk.injEq] at split
      obtain ⟨rfl, rfl⟩ := split
      rw [List.nil_append]
      exact stripPrefix?_eq_some_iff.mp found
    | none =>
      simp only [found, Option.map_eq_some_iff] at split
      obtain ⟨⟨front, back⟩, tail, equal⟩ := split
      obtain ⟨rfl, rfl⟩ := Prod.mk.inj equal
      rw [List.cons_append, ← ih tail]

theorem length_le_of_splitOnce? {before after : List Char}
    (split : splitOnce? sep (before ++ (sep ++ after)) = some (part, rest)) :
    part.length ≤ before.length := by
  induction before generalizing part with
  | nil =>
    have known : splitOnce? sep ([] ++ (sep ++ after)) = some ([], after) :=
      splitOnce?_append trivial
    rw [known] at split
    cases split
    exact Nat.le_refl 0
  | cons c before ih =>
    rw [List.cons_append, splitOnce?] at split
    cases found : stripPrefix? sep (c :: (before ++ (sep ++ after))) with
    | some r =>
      simp only [found, Option.some.injEq, Prod.mk.injEq] at split
      simp [← split.1]
    | none =>
      simp only [found, Option.map_eq_some_iff] at split
      obtain ⟨⟨front, back⟩, tail, equal⟩ := split
      obtain ⟨rfl, rfl⟩ := Prod.mk.inj equal
      exact Nat.succ_le_succ (ih tail)

theorem exists_splitOnce? (sep before after : List Char) :
    ∃ part rest, splitOnce? sep (before ++ (sep ++ after)) = some (part, rest) := by
  induction before with
  | nil => exact ⟨[], after, splitOnce?_append trivial⟩
  | cons c before ih =>
    obtain ⟨part, rest, split⟩ := ih
    rw [List.cons_append, splitOnce?]
    cases found : stripPrefix? sep (c :: (before ++ (sep ++ after))) with
    | some r => exact ⟨[], r, rfl⟩
    | none => exact ⟨c :: part, rest, by rw [split]; rfl⟩

/-- A split is made at a known occurrence of the separator, or inside of what precedes it, where
the first character of the separator is found. -/
theorem splitOnce?_known (s : Char) (sep before after : List Char) :
    splitOnce? (s :: sep) (before ++ (s :: sep ++ after)) = some (before, after) ∨
      ∃ part more rest, before = part ++ s :: more ∧
        splitOnce? (s :: sep) (before ++ (s :: sep ++ after)) = some (part, rest) := by
  obtain ⟨part, rest, split⟩ := exists_splitOnce? (s :: sep) before after
  have short := length_le_of_splitOnce? split
  rcases List.append_eq_append_iff.mp (eq_append_of_splitOnce? split) with
    ⟨more, first, second⟩ | ⟨more, first, second⟩
  · have none : more = [] := by
      have lengths := congrArg List.length first
      rw [List.length_append] at lengths
      exact List.length_eq_zero_iff.mp (by omega)
    rw [none, List.append_nil] at first
    rw [none, List.nil_append] at second
    rw [split, first, List.append_cancel_left second]
    exact .inl rfl
  · cases more with
    | nil =>
      rw [List.append_nil] at first
      rw [List.nil_append] at second
      rw [split, first, List.append_cancel_left second]
      exact .inl rfl
    | cons c more =>
      obtain rfl : s = c := (List.cons.inj second).1
      exact .inr ⟨part, more, rest, first, split⟩

/-- More fuel than characters is never used up. -/
theorem splitUpTo_eq (nonempty : sep ≠ []) {m n : Nat} {cs : List Char} (hm : cs.length ≤ m)
    (hn : cs.length ≤ n) : splitUpTo sep m cs = splitUpTo sep n cs := by
  induction m generalizing n cs with
  | zero =>
    obtain rfl := List.length_eq_zero_iff.mp (Nat.le_zero.mp hm)
    have none : splitOnce? sep [] = none := splitOnce?_eq_none nonempty trivial
    cases n <;> simp [splitUpTo, none]
  | succ m ih =>
    cases n with
    | zero =>
      obtain rfl := List.length_eq_zero_iff.mp (Nat.le_zero.mp hn)
      have none : splitOnce? sep [] = none := splitOnce?_eq_none nonempty trivial
      simp [splitUpTo, none]
    | succ n =>
      cases split : splitOnce? sep cs with
      | none => simp [splitUpTo, split]
      | some parts =>
        have whole := congrArg List.length (eq_append_of_splitOnce? split)
        have positive := List.length_pos_iff.mpr nonempty
        simp only [List.length_append] at whole
        simp only [splitUpTo, split]
        rw [ih (by omega : parts.2.length ≤ m) (by omega : parts.2.length ≤ n)]

theorem splitAll_eq_of_none {cs : List Char} (split : splitOnce? sep cs = none) :
    splitAll sep cs = [cs] := by
  unfold splitAll
  cases cs.length <;> simp [splitUpTo, split]

theorem splitAll_eq_of_some (nonempty : sep ≠ []) {cs : List Char}
    (split : splitOnce? sep cs = some (part, rest)) :
    splitAll sep cs = part :: splitAll sep rest := by
  have positive := List.length_pos_iff.mpr nonempty
  have whole := congrArg List.length (eq_append_of_splitOnce? split)
  simp only [List.length_append] at whole
  obtain ⟨fuel, length⟩ : ∃ fuel, cs.length = fuel + 1 :=
    Nat.exists_eq_succ_of_ne_zero (by omega)
  rw [splitAll, length, splitUpTo]
  simp only [split]
  rw [splitAll, splitUpTo_eq nonempty (by omega : rest.length ≤ fuel) (Nat.le_refl _)]

theorem splitAll_append (nonempty : sep ≠ []) (clear : Clear sep part (sep ++ rest)) :
    splitAll sep (part ++ (sep ++ rest)) = part :: splitAll sep rest :=
  splitAll_eq_of_some nonempty (splitOnce?_append clear)

theorem splitAll_of_clear (nonempty : sep ≠ []) (clear : Clear sep part []) :
    splitAll sep part = [part] :=
  splitAll_eq_of_none (splitOnce?_eq_none nonempty clear)

/-- Joined parts that are clear of the separator are split back into themselves. -/
theorem splitAll_intercalate (nonempty : sep ≠ []) {parts : List (List Char)} (some : parts ≠ [])
    (clear : ∀ part ∈ parts, ∀ after, Clear sep part after) :
    splitAll sep (sep.intercalate parts) = parts := by
  induction parts with
  | nil => exact absurd rfl some
  | cons part parts ih =>
    cases parts with
    | nil =>
      rw [List.intercalate_singleton]
      exact splitAll_of_clear nonempty (clear part (by simp) [])
    | cons next parts =>
      rw [List.intercalate_cons_cons, List.append_assoc,
        splitAll_append nonempty (clear part (by simp) _),
        ih (by simp) fun p member => clear p (List.mem_cons_of_mem _ member)]

section Replacing

variable {old new : List Char}

theorem splitAll_ne_nil (sep cs : List Char) : splitAll sep cs ≠ [] := by
  unfold splitAll
  cases cs.length with
  | zero => simp [splitUpTo]
  | succ n => unfold splitUpTo; split <;> simp

theorem replaceAll_of_none {cs : List Char} (split : splitOnce? old cs = none) :
    replaceAll old new cs = cs := by
  rw [replaceAll, splitAll_eq_of_none split, List.intercalate_singleton]

theorem replaceAll_of_some (nonempty : old ≠ []) {cs : List Char}
    (split : splitOnce? old cs = some (part, rest)) :
    replaceAll old new cs = part ++ (new ++ replaceAll old new rest) := by
  rw [replaceAll, splitAll_eq_of_some nonempty split, replaceAll]
  obtain ⟨p, ps, parts⟩ := List.exists_cons_of_ne_nil (splitAll_ne_nil old rest)
  rw [parts, List.intercalate_cons_cons, List.append_assoc]

theorem replaceAll_append_old (nonempty : old ≠ []) (rest : List Char) :
    replaceAll old new (old ++ rest) = new ++ replaceAll old new rest :=
  have split : splitOnce? old ([] ++ (old ++ rest)) = some ([], rest) := splitOnce?_append trivial
  replaceAll_of_some nonempty split

theorem splitOnce?_clear_append (clear : Clear sep part rest) :
    splitOnce? sep (part ++ rest) =
      (splitOnce? sep rest).map fun parts => (part ++ parts.1, parts.2) := by
  induction part with
  | nil => simp
  | cons c part ih =>
    rw [List.cons_append, splitOnce?]
    simp only [clear.1, ih clear.2, Option.map_map, Function.comp_def, List.cons_append]

theorem replaceAll_append_clear (nonempty : old ≠ []) (clear : Clear old part rest) :
    replaceAll old new (part ++ rest) = part ++ replaceAll old new rest := by
  have split := splitOnce?_clear_append clear
  cases found : splitOnce? old rest with
  | none =>
    rw [found, Option.map_none] at split
    rw [replaceAll_of_none split, replaceAll_of_none found]
  | some parts =>
    rw [found, Option.map_some] at split
    rw [replaceAll_of_some nonempty split, replaceAll_of_some nonempty found, List.append_assoc]

end Replacing

end RowSync.Text
