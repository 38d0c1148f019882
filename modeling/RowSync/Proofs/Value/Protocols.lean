import RowSync.Proofs.Calendar.WrittenForm
import RowSync.Proofs.Value.IdentityTrip

/-!
A MySQL server sends a stored value in two forms: the characters of its text to a statement without
parameters, a typed value to one that has some. Both forms decode alike but for two kinds of values:
a date that names no day and is not the date of zeros only, and a span that is no time of day and
is written with parts of a second or with a padded hour.
-/

set_option autoImplicit false

namespace RowSync

open Calendar (dateChars clockChars fractionChars HoldsMicro)

/-- What the values of a column are made of. -/
inductive MysqlKind
  | integer | real | date | dateTime | span | characters
  deriving DecidableEq

def MysqlType.kind : MysqlType → MysqlKind
  | tiny | short | long | int24 | longLong | year => .integer
  | float | double => .real
  | date | newDate => .date
  | dateTime | dateTime2 | timestamp | timestamp2 => .dateTime
  | time | time2 => .span
  | _ => .characters

/-- A value as a MySQL server stores it, with what its column says of its text. -/
inductive MysqlStored
  | signed (n : Int64)
  /-- Padded with zeros up to the width, if there is one. -/
  | unsigned (width : Nat) (n : UInt64)
  | date (d : MysqlDate)
  /-- With so many places of a second. -/
  | dateTime (places : Nat) (d : MysqlDate)
  /-- With so many places of a second. -/
  | span (places : Nat) (t : MysqlTime)
  /-- Characters or bytes, also the characters of a decimal. -/
  | characters (b : Bytes)

namespace MysqlDate

/-- The day as a server writes it. -/
def dayChars (d : MysqlDate) : List Char := dateChars d.year.toNat d.month.toNat d.day.toNat

def clock (places : Nat) (d : MysqlDate) : List Char :=
  clockChars d.hour.toNat d.minute.toNat d.second.toNat ++ fractionChars places d.micro.toNat

/-- The numbers of the day have places in a text, but need not name one. -/
def IsDay (d : MysqlDate) : Prop :=
  d.year.toNat < Nat.pow 10 4 ∧ d.month.toNat ≤ 12 ∧ d.day.toNat ≤ 31

theorem IsDay.lt {d : MysqlDate} (day : d.IsDay) : d.year.toNat < Nat.pow 10 4 ∧
    d.month.toNat < Nat.pow 10 2 ∧ d.day.toNat < Nat.pow 10 2 := by
  obtain ⟨year_lt, month_le, day_le⟩ := day
  exact ⟨year_lt, Nat.lt_of_le_of_lt month_le (by decide), Nat.lt_of_le_of_lt day_le (by decide)⟩

/-- The numbers of the time of the day name one, with so many places of a second. -/
def IsClock (places : Nat) (d : MysqlDate) : Prop :=
  d.hour.toNat < 24 ∧ d.minute.toNat < 60 ∧ d.second.toNat < 60 ∧ HoldsMicro places d.micro.toNat

/-- The date names a day, or is the one of zeros only. -/
def IsRegular (d : MysqlDate) : Prop :=
  d.toDate?.isSome = true ∨ (d.year.toNat = 0 ∧ d.month.toNat = 0 ∧ d.day.toNat = 0)

end MysqlDate

namespace MysqlTime

def chars (places : Nat) (t : MysqlTime) : List Char :=
  t.sign.toList ++ (clockChars t.allHours.toNat t.minutes.toNat t.seconds.toNat ++
    fractionChars places t.micros.toNat)

/-- The numbers are those of a span of at most 838 hours, with so many places of a second. -/
def IsSpan (places : Nat) (t : MysqlTime) : Prop :=
  t.days.toNat * 24 + t.hours.toNat ≤ 838 ∧ t.hours.toNat < 24 ∧ t.minutes.toNat < 60 ∧
    t.seconds.toNat < 60 ∧ HoldsMicro places t.micros.toNat

/-- The span is a time of day, or its text has neither parts of a second nor a padded hour. -/
def IsRegular (places : Nat) (t : MysqlTime) : Prop :=
  (t.negative = false ∧ t.days = 0) ∨ (places = 0 ∧ 10 ≤ t.allHours.toNat)

end MysqlTime

namespace MysqlStored

/-- The form for a statement without parameters. -/
def text : MysqlStored → MysqlValue
  | signed n => .ofText (toString n.toInt)
  | unsigned width n => .ofText (padded width n.toNat)
  | date d => .ofText (String.ofList d.dayChars)
  | dateTime places d => .ofText (String.ofList (d.dayChars ++ ' ' :: d.clock places))
  | span places t => .ofText (String.ofList (t.chars places))
  | characters b => .bytes b

/-- The forms for a statement with parameters; an unsigned integer may arrive as a signed one. -/
inductive Typed : MysqlStored → MysqlValue → Prop
  | signed (n : Int64) : Typed (.signed n) (.int n)
  | unsigned (width : Nat) (n : UInt64) : Typed (.unsigned width n) (.uint n)
  | narrow (width : Nat) (n : UInt64) (small : n.toNat < Nat.pow 2 63) :
      Typed (.unsigned width n) (.int (Int64.ofNat n.toNat))
  | date (d : MysqlDate) : Typed (.date d) (.date d)
  | dateTime (places : Nat) (d : MysqlDate) : Typed (.dateTime places d) (.date d)
  | span (places : Nat) (t : MysqlTime) : Typed (.span places t) (.time t)
  | characters (b : Bytes) : Typed (.characters b) (.bytes b)

/-- A date or span in the value is a regular one. -/
def IsRegular : MysqlStored → Prop
  | date d | dateTime _ d => d.IsRegular
  | span places t => t.IsRegular places
  | signed _ | unsigned _ _ | characters _ => True

end MysqlStored

namespace MysqlColumn

/-- The column is of the kind of the value, and a server can store it there. -/
def Stores (c : MysqlColumn) : MysqlStored → Prop
  | .signed _ => c.type.kind = .integer ∧ c.unsigned = false
  | .unsigned _ _ => c.type.kind = .integer ∧ c.unsigned = true
  | .date d => c.type.kind = .date ∧ d.IsDay
  | .dateTime places d => c.type.kind = .dateTime ∧ d.IsDay ∧ d.IsClock places
  | .span places t => c.type.kind = .span ∧ t.IsSpan places
  | .characters _ => c.type.kind = .characters

/-- Both cells decode to the same value, or neither decodes. -/
def Alike (c : MysqlColumn) (v w : MysqlValue) : Prop :=
  (c.decode v).toOption = (c.decode w).toOption

variable {c : MysqlColumn} {v : MysqlValue}

theorem decode_of_kind (value : v ≠ .null) :
    c.decode v = match c.type.kind with
      | .integer => decodeInteger c.unsigned v
      | .date => decodeDate v
      | .dateTime => decodeDateTime v
      | .span => decodeTime v
      | .real | .characters => c.decode v := by
  obtain ⟨type, charset, unsigned⟩ := c
  cases v with
  | null => exact absurd rfl value
  | _ => cases type <;> rfl

section Dates

theorem startsWith_zeroDate {year month day : Nat} (rest : List Char)
    (year_lt : year < Nat.pow 10 4) (month_lt : month < Nat.pow 10 2)
    (day_lt : day < Nat.pow 10 2) :
    Text.startsWith (String.ofList (dateChars year month day ++ rest)) zeroDate = true ↔
      year = 0 ∧ month = 0 ∧ day = 0 := by
  have zeros : zeroDate.toList = dateChars 0 0 0 := by decide
  have length : (dateChars 0 0 0).length = (dateChars year month day).length := by
    rw [Calendar.length_dateChars year_lt month_lt day_lt]
    decide
  have whole : dateChars 0 0 0 <+: dateChars year month day ++ rest ↔
      dateChars year month day = dateChars 0 0 0 := by
    constructor
    · rintro ⟨behind, same⟩
      exact (List.append_inj_left same length).symm
    · intro same
      rw [same]
      exact List.prefix_append _ rest
  rw [Text.startsWith, String.toList_ofList, zeros, List.isPrefixOf_iff_prefix, whole,
    Calendar.dateChars_inj year_lt month_lt (by decide) (by decide)]

/-- NULL in place of a date that was not found is what its text decodes to if and only if that
begins with the date of zeros only. -/
theorem alike_readCalendar_iff {α : Type} {kind s : String} {found : Option α}
    {fault : CalendarFault} {read : String → Except CalendarFault α} {toValue : α → Value}
    (decided : read s = found.elim (.error fault) .ok) :
    (Except.ok (found.elim Value.null toValue) : Outcome Value).toOption =
        (readCalendar kind read toValue s).toOption ↔
      found.isSome = true ∨ Text.startsWith s zeroDate = true := by
  rw [readCalendar, decided]
  cases found with
  | some a => exact iff_of_true rfl (.inl rfl)
  | none =>
    simp only [Option.elim_none]
    split
    · rename_i zero
      exact iff_of_true rfl (.inr zero)
    · rename_i other
      exact iff_of_false nofun (by simp [other])

variable {d : MysqlDate} {places : Nat}

theorem alike_decodeDate_iff (day : d.IsDay) :
    (decodeDate (.date d)).toOption =
        (decodeDate (.ofText (String.ofList d.dayChars))).toOption ↔ d.IsRegular := by
  obtain ⟨year_lt, month_lt, day_lt⟩ := day.lt
  have read := Calendar.readDate_dateChars year_lt month_lt day_lt
  have zero := startsWith_zeroDate [] year_lt month_lt day_lt
  rw [List.append_nil] at zero
  have text : decodeDate (.ofText (String.ofList d.dayChars)) =
      readCalendar "date" Calendar.readDate .date (String.ofList d.dayChars) := toText_bind _ _
  rw [text, MysqlDate.IsRegular, ← zero]
  exact alike_readCalendar_iff read

theorem alike_decodeDateTime_iff (day : d.IsDay) (clock : d.IsClock places) :
    (decodeDateTime (.date d)).toOption =
        (decodeDateTime (.ofText (String.ofList (d.dayChars ++ ' ' :: d.clock places)))).toOption ↔
      d.IsRegular := by
  obtain ⟨year_lt, month_lt, day_lt⟩ := day.lt
  obtain ⟨hour_lt, minute_lt, second_lt, held⟩ := clock
  obtain ⟨t, named⟩ := TimeOfDay.exists_ofParts? hour_lt minute_lt second_lt held.nano_lt
  -- The time of the day is always one, so all goes by the date.
  have typed : d.toDateTime? = d.toDate?.map fun date => ⟨date, t⟩ := by
    rw [MysqlDate.toDateTime?, named]
    cases d.toDate? <;> rfl
  have read : Calendar.readDateTime .blanks
      (String.ofList (d.dayChars ++ ' ' :: d.clock places)) =
        d.toDateTime?.elim (.error .outOfRange) .ok := by
    rw [typed, MysqlDate.dayChars, MysqlDate.clock, Calendar.readDateTime_chars year_lt month_lt
      day_lt hour_lt minute_lt second_lt held named, MysqlDate.toDate?]
    cases Date.ofParts? (d.year.toNat : Int) d.month.toNat d.day.toNat <;> rfl
  have found : d.toDateTime?.isSome = d.toDate?.isSome := by rw [typed, Option.isSome_map]
  have text : decodeDateTime (.ofText (String.ofList (d.dayChars ++ ' ' :: d.clock places))) =
      readCalendar "datetime" (Calendar.readDateTime .blanks) .dateTime
        (String.ofList (d.dayChars ++ ' ' :: d.clock places)) := toText_bind _ _
  rw [text, MysqlDate.IsRegular, ← found,
    ← startsWith_zeroDate (' ' :: d.clock places) year_lt month_lt day_lt]
  exact alike_readCalendar_iff read

end Dates

section Spans

variable {t : MysqlTime} {places : Nat}

theorem toNat_allHours (span : t.IsSpan places) :
    t.allHours.toNat = t.days.toNat * 24 + t.hours.toNat := by
  obtain ⟨few, -⟩ := span
  have day : UInt32.toNat 24 = 24 := rfl
  simp only [MysqlTime.allHours, UInt32.toNat_add, UInt32.toNat_mul, UInt8.toNat_toUInt32, day]
  omega

/-- The text made of a span is what a server writes if and only if the span has no places of a
second and at least two digits of hours. -/
theorem spanText_eq_iff :
    t.sign ++ toString t.allHours.toNat ++ t.minutesAndSeconds = String.ofList (t.chars places) ↔
      places = 0 ∧ 10 ≤ t.allHours.toNat := by
  have hours : (toString t.allHours.toNat).toList = Nat.toDigits 10 t.allHours.toNat :=
    Integer.toList_natCast _
  have behind : t.minutesAndSeconds.toList = ':' :: (paddedDigits 2 t.minutes.toNat ++
      ':' :: paddedDigits 2 t.seconds.toNat) := by
    simp [MysqlTime.minutesAndSeconds, padded, String.toList_append, String.toList_ofList]
  rw [← String.toList_inj, String.toList_ofList, MysqlTime.chars, clockChars, String.toList_append,
    String.toList_append, hours, behind]
  have one : (Nat.toDigits 10 t.allHours.toNat).length ≤ 1 ↔ t.allHours.toNat < 10 :=
    Nat.length_toDigits_le_iff (by decide) (by decide)
  constructor
  -- A zero in front of the hour or places of a second make the server's text the longer one.
  · intro same
    have lengths := congrArg List.length same
    simp only [List.length_append, List.length_cons, length_paddedDigits_eq 2 t.allHours.toNat]
      at lengths
    have none : (fractionChars places t.micros.toNat).length = 0 := by omega
    rw [fractionChars] at none
    split at none
    · rename_i whole
      exact ⟨whole, by omega⟩
    · cases none
  · rintro ⟨rfl, two⟩
    have plain : paddedDigits 2 t.allHours.toNat = Nat.toDigits 10 t.allHours.toNat :=
      paddedDigits_of_le (by omega)
    rw [plain, fractionChars, if_pos rfl, List.append_nil, List.append_assoc]

theorem readTime_of_span (span : t.IsSpan places) (other : ¬(t.negative = false ∧ t.days = 0)) :
    ∃ fault, Calendar.readTime (String.ofList (t.chars places)) = .error fault := by
  cases negative : t.negative with
  | true =>
    refine ⟨.invalid, ?_⟩
    rw [MysqlTime.chars, MysqlTime.sign, negative]
    exact Calendar.readTime_minus _
  | false =>
    have some_day : t.days.toNat ≠ 0 := by
      intro none
      exact other ⟨negative, UInt32.toNat_inj.mp none⟩
    have long : 24 ≤ t.allHours.toNat := by
      rw [toNat_allHours span]
      omega
    rw [MysqlTime.chars, MysqlTime.sign, negative]
    exact Calendar.readTime_long _ long

theorem decodeTime_text (s : String) :
    decodeTime (.ofText s) =
      match Calendar.readTime s with
      | .ok time => .ok (.time time)
      | .error _ => .ok (.text s) := toText_bind s _

theorem alike_decodeTime_iff (span : t.IsSpan places) :
    (decodeTime (.time t)).toOption =
        (decodeTime (.ofText (String.ofList (t.chars places)))).toOption ↔ t.IsRegular places := by
  rw [decodeTime_text, decodeTime, MysqlTime.IsRegular, MysqlTime.toValue]
  -- A time of day is read from its text; any other span is a text in both forms.
  by_cases usual : t.negative = false ∧ t.days = 0
  · have hours := toNat_allHours span
    obtain ⟨-, hour_lt, minute_lt, second_lt, held⟩ := span
    obtain ⟨time, named⟩ := TimeOfDay.exists_ofParts? hour_lt minute_lt second_lt held.nano_lt
    have sign : t.sign = "" := by rw [MysqlTime.sign, usual.1]; rfl
    have same : t.allHours.toNat = t.hours.toNat := by
      rw [hours, usual.2]
      exact Nat.zero_add _
    have read : Calendar.readTime (String.ofList (t.chars places)) = .ok time := by
      rw [MysqlTime.chars, sign, same]
      exact Calendar.readTime_chars hour_lt minute_lt second_lt held named
    have found : t.toTimeOfDay? = some time := named
    refine iff_of_true ?_ (.inl usual)
    rw [read, found, usual.1, usual.2]
    rfl
  · obtain ⟨fault, refused⟩ := readTime_of_span span usual
    have odd : (t.negative || t.days != 0) = true := by
      cases negative : t.negative with
      | true => rfl
      | false => simpa [negative] using usual
    have sides : ∀ a b : String, (Except.ok (Value.text a) : Outcome Value).toOption =
        (Except.ok (Value.text b) : Outcome Value).toOption ↔ a = b := by
      intro a b
      exact ⟨fun same => Value.text.inj (Option.some.inj same), fun same => by rw [same]⟩
    rw [refused, if_pos odd, sides, spanText_eq_iff]
    exact ⟨.inr, fun regular => regular.resolve_left usual⟩

end Spans

/-- A stored value decodes alike from both of its forms if and only if it is regular. -/
theorem alike_iff {s : MysqlStored} (stored : c.Stores s) (typed : s.Typed v) :
    c.Alike v s.text ↔ s.IsRegular := by
  have sent : v ≠ .null := by
    rintro rfl
    cases typed
  have written : s.text ≠ .null := by cases s <;> nofun
  rw [Alike, decode_of_kind sent, decode_of_kind written]
  cases typed with
  | signed n =>
    obtain ⟨kind, sign⟩ := stored
    have read := decodeInteger_signed n.le_toInt n.toInt_lt
    rw [Int64.ofInt_toInt] at read
    rw [kind, sign, MysqlStored.text]
    exact iff_of_true (congrArg Except.toOption read.symm) trivial
  | unsigned width n =>
    obtain ⟨kind, sign⟩ := stored
    have read := decodeInteger_unsigned width n.toNat_lt
    rw [kind, sign, MysqlStored.text]
    exact iff_of_true (congrArg Except.toOption read.symm) trivial
  | narrow width n small =>
    obtain ⟨kind, sign⟩ := stored
    have read := decodeInteger_unsigned width n.toNat_lt
    rw [ofUnsigned_of_lt small] at read
    rw [kind, sign, MysqlStored.text]
    exact iff_of_true (congrArg Except.toOption read.symm) trivial
  | date d =>
    obtain ⟨kind, day⟩ := stored
    rw [kind]
    exact alike_decodeDate_iff day
  | dateTime places d =>
    obtain ⟨kind, day, clock⟩ := stored
    rw [kind]
    exact alike_decodeDateTime_iff day clock
  | span places t =>
    obtain ⟨kind, span⟩ := stored
    rw [kind]
    exact alike_decodeTime_iff span
  | characters b => exact iff_of_true rfl trivial

private def longSpan : MysqlTime := ⟨false, 1, 12, 0, 0, 0⟩

theorem alike_iff_of_long_span :
    Stores ⟨.time, binaryCharset, false⟩ (.span 0 longSpan) ∧
      MysqlStored.Typed (.span 0 longSpan) (.time longSpan) ∧
      (Alike ⟨.time, binaryCharset, false⟩ (.time longSpan) (MysqlStored.span 0 longSpan).text ↔
        (MysqlStored.span 0 longSpan).IsRegular) := by
  have stored : Stores ⟨.time, binaryCharset, false⟩ (.span 0 longSpan) :=
    ⟨rfl, by decide, by decide, by decide, by decide, by decide, by decide, by decide⟩
  exact ⟨stored, .span 0 longSpan, alike_iff stored (.span 0 longSpan)⟩

private def monthless : MysqlDate := ⟨2024, 0, 15, 0, 0, 0, 0⟩

private def backwards : MysqlTime := ⟨true, 0, 1, 2, 3, 500000⟩

/-- The typed form of a date without a month is NULL and its text fails; the typed form of a
negative span loses its parts of a second and the zero in front of its hour. -/
theorem forms_decoded_unlike :
    (Stores ⟨.date, binaryCharset, false⟩ (.date monthless) ∧
      decode ⟨.date, binaryCharset, false⟩ (.date monthless) = .ok .null ∧
      decode ⟨.date, binaryCharset, false⟩ (MysqlStored.date monthless).text =
        .error (.value "date '2024-00-15': input is out of range")) ∧
    Stores ⟨.time, binaryCharset, false⟩ (.span 6 backwards) ∧
      decode ⟨.time, binaryCharset, false⟩ (.time backwards) = .ok (.text "-1:02:03") ∧
      decode ⟨.time, binaryCharset, false⟩ (MysqlStored.span 6 backwards).text =
        .ok (.text "-01:02:03.500000") := by
  refine ⟨⟨⟨rfl, by decide, by decide, by decide⟩, rfl, by decide +kernel⟩,
    ⟨rfl, by decide, by decide, by decide, by decide, by decide, by decide, by decide⟩, ?_, ?_⟩
  · decide +kernel
  · decide +kernel

end MysqlColumn

end RowSync
