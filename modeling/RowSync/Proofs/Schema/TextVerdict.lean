import RowSync.Proofs.Number.Integer
import RowSync.Proofs.Text.LowerCase
import RowSync.Schema.Compatibility

/-!
The verdict on two columns of text says whether the destination allows every length that the source
allows. The rule of declared bounds never accepts a pair of them that the verdict blames.
-/

set_option autoImplicit false

namespace RowSync

/-- Text of varying length, and text that is padded to its length. -/
inductive TextFamily
  | varying
  | padded

namespace TextFamily

def spellings : TextFamily → List String
  | varying => ["character varying", "varchar", "text", "tinytext", "mediumtext", "longtext"]
  | padded => ["character", "char", "bpchar"]

def typeFamily : TextFamily → TypeFamily
  | varying => .varChar
  | padded => .fixedChar

/-- The column is judged as one of the family. -/
def Includes (family : TextFamily) (c : Column) : Prop :=
  TypeFamily.ofType c.dataType = family.typeFamily

instance (family : TextFamily) (c : Column) : Decidable (family.Includes c) :=
  inferInstanceAs (Decidable (_ = _))

/-- The types of the family are its names, in any case of their letters and with blanks around. -/
theorem ofType_eq_iff (family : TextFamily) (dataType : String) :
    TypeFamily.ofType dataType = family.typeFamily ↔
      Text.lower (Text.trim dataType) ∈ family.spellings := by
  have listed : ∀ entry ∈ familySpellings, entry.1 = family.typeFamily →
      ∀ spelling ∈ entry.2, spelling ∈ family.spellings := by
    cases family <;> decide
  have found : ∀ spelling ∈ family.spellings,
      (familySpellings.find? fun entry => entry.2.contains spelling) =
        some (family.typeFamily, family.spellings) := by
    cases family <;> decide
  constructor
  · intro judged
    rw [TypeFamily.ofType] at judged
    cases search : familySpellings.find?
        fun entry => entry.2.contains (Text.lower (Text.trim dataType)) with
    | none =>
      rw [search] at judged
      cases family <;> cases judged
    | some entry =>
      rw [search] at judged
      have spelled : entry.2.contains (Text.lower (Text.trim dataType)) = true := by
        simpa using List.find?_some search
      exact listed entry (List.mem_of_find?_eq_some search) judged _
        (List.contains_iff_mem.mp spelled)
  · intro spelled
    rw [TypeFamily.ofType, found _ spelled]

end TextFamily

namespace Column

/-- The column has no bound, or one that stands for none. -/
def Unlimited (c : Column) : Prop := c.maxChars = 0 ∨ 4294967295 ≤ c.maxChars

/-- The bound of the column allows texts of that length. -/
def Allows (c : Column) (length : Nat) : Prop := c.Unlimited ∨ (length : Int) ≤ c.maxChars

private theorem allows_iff (c : Column) (length : Nat) :
    c.Allows length ↔ effectiveBound c = 0 ∨ (length : Int) ≤ effectiveBound c := by
  unfold Allows Unlimited effectiveBound unboundedFrom
  split <;> omega

theorem ofType_of_isUuid {c : Column} (uuid : c.isUuid = true) :
    TypeFamily.ofType c.dataType = .uuid := by
  have solid : ∀ x ∈ c.dataType.toList, Text.isBlank x = false := by
    intro x member
    have letter : Text.lowerAscii x ∈ "uuid".toList.map Text.lowerAscii := by
      have same := congrArg String.toList (Text.sameAscii_iff.mp uuid)
      rw [Text.asciiLower, Text.asciiLower, String.toList_ofList, String.toList_ofList] at same
      exact same ▸ List.mem_map_of_mem member
    by_contra blank
    rw [Bool.not_eq_false] at blank
    -- No capital is a blank, so the letter is the character itself.
    have small : ¬(0x41 ≤ x.toNat ∧ x.toNat ≤ 0x5a) := by
      simp only [Text.isBlank, Bool.or_eq_true, Bool.and_eq_true, decide_eq_true_eq,
        beq_iff_eq] at blank
      omega
    rw [Text.lowerAscii_of_not_capital small] at letter
    have letters : ("uuid".toList.map Text.lowerAscii).any Text.isBlank = false := by decide
    exact absurd blank (List.any_eq_false.mp letters x letter)
  have spelled : Text.lower c.dataType = "uuid" :=
    (Text.lower_eq_of_sameAscii uuid).trans (by decide +kernel)
  rw [TypeFamily.ofType, Text.trim_of_solid solid, spelled]
  decide

end Column

namespace TextFamily

variable {family : TextFamily} {source target : Column}

private theorem isUuid_of_includes {c : Column} (included : family.Includes c) :
    c.isUuid = false := by
  rw [← Bool.not_eq_true]
  intro uuid
  rw [Includes, Column.ofType_of_isUuid uuid] at included
  cases family <;> cases included

theorem classify_eq_boundVerdict (from_text : family.Includes source)
    (to_text : family.Includes target) : classify source target = boundVerdict source target := by
  unfold classify
  rw [from_text, to_text]
  cases family <;> rfl

theorem boundVerdict_eq_safe_iff :
    boundVerdict source target = .safe ↔ effectiveBound target = 0 ∨
      0 < effectiveBound source ∧ effectiveBound source ≤ effectiveBound target := by
  unfold boundVerdict
  dsimp only
  split
  · rename_i fits
    simpa using fits
  · rename_i fits
    simp only [Bool.or_eq_true, beq_iff_eq, Bool.and_eq_true, decide_eq_true_eq] at fits
    split <;> simpa using fits

/-- A length within the bound of the source, and one just above that of the destination, tell the
bounds apart. -/
private theorem allows_of_allows_iff (bounded : 0 ≤ source.maxChars) :
    (∀ length, source.Allows length → target.Allows length) ↔ effectiveBound target = 0 ∨
      0 < effectiveBound source ∧ effectiveBound source ≤ effectiveBound target := by
  have positive : 0 ≤ effectiveBound source := by
    unfold effectiveBound
    split <;> omega
  simp only [Column.allows_iff]
  constructor
  · intro all
    by_contra narrow
    rcases eq_or_ne (effectiveBound source) 0 with none | some
    · have longer := all (effectiveBound target + 1).toNat (.inl none)
      omega
    · have longest := all (effectiveBound source).toNat (.inr (by omega))
      omega
  · rintro fits length allowed
    omega

private theorem boundVerdict_of_isCompatible (from_text : family.Includes source)
    (to_text : family.Includes target) (compatible : isCompatible source target = true) :
    boundVerdict source target = .safe := by
  have native : source.isUuid = false := isUuid_of_includes from_text
  have stored : target.isUuid = false := isUuid_of_includes to_text
  rw [boundVerdict_eq_safe_iff]
  unfold isCompatible isUuidBinaryPair at compatible
  unfold effectiveBound unboundedFrom
  split at compatible
  · rename_i none
    simp only [Bool.and_eq_true, beq_iff_eq] at none
    split <;> omega
  · split at compatible
    · rename_i some
      simp only [Bool.and_eq_true, decide_eq_true_eq] at some compatible
      split <;> split <;> omega
    · simp [native, stored] at compatible

/-- Text of one family is safe in the destination exactly when every length that the bound of the
source allows is allowed there, and never without a verdict; what the rule of declared bounds
accepts is safe. -/
theorem classify_by_lengths (family : TextFamily) :
    (∀ dataType, TypeFamily.ofType dataType = family.typeFamily ↔
      Text.lower (Text.trim dataType) ∈ family.spellings) ∧
    ∀ source target : Column, family.Includes source → family.Includes target →
      0 ≤ source.maxChars →
      (classify source target = .safe ↔ ∀ length, source.Allows length → target.Allows length) ∧
      (classify source target = .safe ∨
        ∃ reason, classify source target = .unsafeBecause reason) ∧
      (isCompatible source target = true → classify source target = .safe) := by
  refine ⟨family.ofType_eq_iff, fun source target from_text to_text bounded => ?_⟩
  rw [classify_eq_boundVerdict from_text to_text]
  refine ⟨?_, ?_, boundVerdict_of_isCompatible from_text to_text⟩
  · rw [boundVerdict_eq_safe_iff, allows_of_allows_iff bounded]
  · unfold boundVerdict
    dsimp only
    split
    · exact .inl rfl
    · split
      · exact .inr ⟨_, rfl⟩
      · exact .inr ⟨_, rfl⟩

private def title : Column := ⟨"title", "VarChar", 255⟩

private def longTitle : Column := ⟨"Title", " LONGTEXT", 4294967295⟩

/-- Every title fits a long text, however the types are written, and no long text is sure to fit. -/
theorem classify_by_lengths_of_titles :
    varying.Includes title ∧ varying.Includes longTitle ∧ 0 ≤ title.maxChars ∧
      0 ≤ longTitle.maxChars ∧ isCompatible title longTitle = true ∧
      classify title longTitle = .safe ∧ (∀ length, title.Allows length → longTitle.Allows length) ∧
      ¬∀ length, longTitle.Allows length → title.Allows length := by
  have short : varying.Includes title := by decide +kernel
  have long : varying.Includes longTitle := by decide +kernel
  have compatible : isCompatible title longTitle = true := by decide
  obtain ⟨-, judged⟩ := classify_by_lengths varying
  obtain ⟨exact, -, agrees⟩ := judged title longTitle short long (by decide)
  obtain ⟨back, -, -⟩ := judged longTitle title long short (by decide)
  have blamed : classify longTitle title ≠ .safe := by decide +kernel
  exact ⟨short, long, by decide, by decide, compatible, agrees compatible,
    exact.mp (agrees compatible), fun all => blamed (back.mpr all)⟩

end TextFamily

end RowSync
