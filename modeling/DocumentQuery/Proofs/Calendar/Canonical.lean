import DocumentQuery.Calendar.Format
import DocumentQuery.Proofs.Calendar.Days
import DocumentQuery.Proofs.Calendar.Digits

/-!
# Canonical texts are read back

The canonical text of an instant is a candidate for every format. Most formats refuse it: they
expect another character behind the first digits, or nothing behind the date. Those that accept it
read the fields that were written, whatever the year, and these name an instant with the same
canonical text.
-/

namespace DocumentQuery

open Instant (padded yearText)

namespace Calendar

namespace Fields

variable (fields : Fields)

/-- The canonical text of fields from the fraction of the second on. -/
def behindSecond : List Char :=
  '.' :: (padded 3 (fields.nanosecond / 1000000) ++ ['Z'])

/-- The canonical text of fields from the second on. -/
def behindMinute : List Char := ':' :: (padded 2 fields.second ++ fields.behindSecond)

/-- The canonical text of fields from the time of day on. -/
def behindDay : List Char :=
  'T' :: (padded 2 fields.hour ++ ':' :: (padded 2 fields.minute ++ fields.behindMinute))

/-- The canonical text of fields from the month on. -/
def behindYear : List Char :=
  '-' :: (padded 2 fields.month ++ '-' :: (padded 2 fields.day ++ fields.behindDay))

/-- The canonical text of fields. -/
def text : List Char := yearText fields.year ++ fields.behindYear

/-- Whether fields can be read from a canonical text, which has whole milliseconds. -/
structure Written : Prop where
  month : 1 ≤ fields.month ∧ fields.month ≤ 12
  day : 1 ≤ fields.day ∧ fields.day ≤ 31
  hour : fields.hour ≤ 23
  minute : fields.minute ≤ 59
  second : fields.second ≤ 60
  fraction : ∃ milliseconds < 1000, fields.nanosecond = milliseconds * 1000000

variable {fields}

/-- The date at the start of a canonical text is read. -/
theorem Written.readFields_date (written : fields.Written) (items : List Item) :
    readFields {} (dashedDate ++ items) fields.text =
      readFields { fields with hour := 0, minute := 0, second := 0, nanosecond := 0 } items
        fields.behindDay := by
  have year := readYear_yearText fields.year fields.behindYear rfl
  have month := within_padded 1 12 fields.month
    ('-' :: (padded 2 fields.day ++ fields.behindDay)) written.month.1 written.month.2 (by decide)
  have day := within_padded 1 31 fields.day fields.behindDay written.day.1 written.day.2 (by decide)
  simp only [dashedDate, text, readFields, readItem, year, List.cons_append, Option.map_some,
    Option.bind_some]
  simp [behindYear, month, day]

/-- The date and the minute at the start of a canonical text are read. -/
theorem Written.readFields_minutes (written : fields.Written) (items : List Item) :
    readFields {} (minutes ++ items) fields.text =
      readFields { fields with second := 0, nanosecond := 0 } items fields.behindMinute := by
  have hour := within_padded 0 23 fields.hour
    (':' :: (padded 2 fields.minute ++ fields.behindMinute)) (Nat.zero_le _) written.hour
    (by decide)
  have minute := within_padded 0 59 fields.minute fields.behindMinute (Nat.zero_le _)
    written.minute (by decide)
  rw [minutes, List.append_assoc, written.readFields_date]
  simp [behindDay, readFields, readItem, hour, minute]

/-- The date and the second at the start of a canonical text are read. -/
theorem Written.readFields_seconds (written : fields.Written) (items : List Item) :
    readFields {} (seconds ++ items) fields.text =
      readFields { fields with nanosecond := 0 } items fields.behindSecond := by
  have second := within_padded 0 60 fields.second fields.behindSecond (Nat.zero_le _)
    written.second (by decide)
  rw [seconds, List.append_assoc, written.readFields_minutes]
  simp [behindMinute, readFields, readItem, second]

/-- The milliseconds of a canonical text are read as a fraction of any length. -/
theorem Written.readFraction (written : fields.Written) :
    readFraction (padded 3 (fields.nanosecond / 1000000) ++ ['Z']) =
      some (fields.nanosecond, ['Z']) := by
  obtain ⟨milliseconds, small, whole⟩ := written.fraction
  have same : fields.nanosecond / 1000000 = milliseconds := by omega
  have length := Instant.padded_length 3 milliseconds (by decide) small
  have digits := readDigits_front 9 (padded 3 milliseconds) ['Z']
    (Instant.padded_digits 3 milliseconds) (Instant.padded_ne_nil 3 milliseconds)
    (.inr ⟨by omega, rfl⟩)
  rw [same, Calendar.readFraction, digits, Option.map_some]
  simp only [Instant.digitsValue_padded, length, whole]
  rfl

/-- The time in a canonical text of a year of four digits is read as a timestamp. Each field is
written with as many digits as are read for it, and lies within the bounds that are asked for. -/
theorem Written.readTimestamp (written : fields.Written)
    (short : 0 ≤ fields.year ∧ fields.year ≤ 9999) :
    readTimestamp? fields.text = fields.instant? 0 := by
  have same : (fields.year.natAbs : Int) = fields.year := by omega
  have two (least greatest value : Nat) (rest : List Char) (low : least ≤ value)
      (high : value ≤ greatest) (bounded : greatest < 100) :
      within least greatest (readExactly 2 (padded 2 value ++ rest)) = some (value, rest) := by
    rw [readExactly_padded 2 value rest (by decide) (by omega), within_some _ _ value rest low high]
  have year := readExactly_padded 4 fields.year.natAbs fields.behindYear (by decide) (by omega)
  have month := two 1 12 fields.month ('-' :: (padded 2 fields.day ++ fields.behindDay))
    written.month.1 written.month.2 (by decide)
  have day := two 1 31 fields.day fields.behindDay written.day.1 written.day.2 (by decide)
  have hour := two 0 23 fields.hour (':' :: (padded 2 fields.minute ++ fields.behindMinute))
    (Nat.zero_le _) written.hour (by decide)
  have minute := two 0 59 fields.minute fields.behindMinute (Nat.zero_le _) written.minute
    (by decide)
  have second := two 0 60 fields.second fields.behindSecond (Nat.zero_le _) written.second
    (by decide)
  have follows {Found : Type} {found : Option Found} {value : Found}
      (next : Found → Option Instant) (read : found = some value) :
      (found >>= next) = next value := by
    rw [read]
    rfl
  have known : ({ fields with year := fields.year.natAbs } : Fields) = fields := by rw [same]
  rw [text, yearText, if_pos short]
  refine (follows _ year).trans ?_
  refine (follows _ rfl).trans ((follows _ month).trans ?_)
  refine (follows _ rfl).trans ((follows _ day).trans ?_)
  refine (follows _ hour).trans ?_
  refine (follows _ rfl).trans ((follows _ minute).trans ?_)
  refine (follows _ rfl).trans ((follows _ second).trans ?_)
  refine (follows _ written.readFraction).trans ((follows _ rfl).trans ?_)
  exact congrArg (fun fields : Fields => fields.instant? 0) known

/-- The format with milliseconds reads the fields that were written. -/
theorem Written.readAs_milliseconds (written : fields.Written) :
    readAs? (seconds ++ [.milliseconds, .literal 'Z']) fields.text = fields.instant? 0 := by
  obtain ⟨milliseconds, small, whole⟩ := written.fraction
  have same : fields.nanosecond / 1000000 = milliseconds := by omega
  have read := readExactly_padded 3 milliseconds ['Z'] (by decide) small
  rw [readAs?, written.readFields_seconds, behindSecond, same]
  simp [readFields, readItem, read, ← whole]

/-- The other layouts that begin with the year do not read the whole text. Each of them reads as far
as it goes and leaves something behind, or expects another character where the text goes on. -/
theorem Written.readAs_dashed (written : fields.Written) :
    readAs? (seconds ++ [.fraction]) fields.text = none ∧
    readAs? minutes fields.text = none ∧
    readAs? dashedDate fields.text = none ∧
    readAs? slashedDate fields.text = none ∧
    readAs? (seconds ++ [.literal 'Z']) fields.text = none := by
  have shortened := written.readFields_minutes []
  have dated := written.readFields_date []
  have year := readYear_yearText fields.year fields.behindYear rfl
  simp only [List.append_nil] at shortened dated
  refine ⟨?_, ?_, ?_, ?_, ?_⟩
  · rw [readAs?, written.readFields_seconds, behindSecond]
    simp [readFields, readItem, written.readFraction]
  · rw [readAs?, shortened]
    rfl
  · rw [readAs?, dated]
    rfl
  · simp only [readAs?, slashedDate, readFields, readItem, text, year, Option.map_some,
      Option.bind_some]
    rfl
  · rw [readAs?, written.readFields_seconds]
    rfl

variable (fields)

/-- Behind the first two digits of a canonical text stands a third, since a year has four digits or
more. Years of another length begin with a sign, and then no number is read at all. -/
theorem readNumber_text (value : Nat) (rest : List Char)
    (read : readNumber 2 fields.text = some (value, rest)) :
    ∃ digit others, rest = digit :: others ∧ digit.isDigit = true := by
  rcases Instant.yearText_start fields.year with ⟨digits, minus | plus⟩ | ⟨long, digits⟩
  · rw [text, minus] at read
    cases read
  · rw [text, plus] at read
    cases read
  · obtain ⟨first, second, third, fourth, spelled⟩ := List.length_eq_four.mp long
    rw [spelled] at digits
    have two : ∀ char ∈ [first, second], char.isDigit = true :=
      fun char inside => digits char (List.mem_append_left [third, fourth] inside)
    have front := readDigits_front 2 [first, second] (third :: fourth :: fields.behindYear) two
      (List.cons_ne_nil _ _) (.inl rfl)
    have start := trimStart_digits [first, second] (third :: fourth :: fields.behindYear)
      (List.cons_ne_nil _ _) two
    have same : fields.text = [first, second] ++ third :: fourth :: fields.behindYear := by
      rw [text, spelled]
      rfl
    rw [same, readNumber, start, front] at read
    obtain ⟨-, rfl⟩ := Prod.mk.inj (Option.some.inj read)
    exact ⟨third, _, rfl, digits third (by simp)⟩

/-- A layout that begins with two digits and another character does not read a canonical text. Where
the character is expected there stands the third digit of the year. -/
theorem readAs_twoDigits (first : Item) (char : Char) (items : List Item)
    (two : first = .month ∨ first = .day) (other : char.isDigit = false) :
    readAs? (first :: .literal char :: items) fields.text = none := by
  have stops (least greatest value : Nat) (rest : List Char)
      (read : within least greatest (readNumber 2 fields.text) = some (value, rest)) :
      ∃ digit others, rest = digit :: others ∧ digit ≠ char := by
    obtain ⟨digit, others, same, isDigit⟩ :=
      fields.readNumber_text value rest (Option.filter_eq_some_iff.mp read).1
    refine ⟨digit, others, same, ?_⟩
    rintro rfl
    exact absurd isDigit (by simp [other])
  rcases two with rfl | rfl
  · cases read : within 1 12 (readNumber 2 fields.text) with
    | none => simp [readAs?, readFields, readItem, read]
    | some found =>
      obtain ⟨digit, others, same, differs⟩ := stops 1 12 found.1 found.2 read
      simp [readAs?, readFields, readItem, read, same, differs]
  · cases read : within 1 31 (readNumber 2 fields.text) with
    | none => simp [readAs?, readFields, readItem, read]
    | some found =>
      obtain ⟨digit, others, same, differs⟩ := stops 1 31 found.1 found.2 read
      simp [readAs?, readFields, readItem, read, same, differs]

/-- A canonical text begins with a digit or a sign. -/
theorem text_head : ∃ first rest, fields.text = first :: rest ∧
    (first.isDigit = true ∨ first = '-' ∨ first = '+') := by
  rcases Instant.yearText_start fields.year with ⟨digits, minus | plus⟩ | ⟨long, digits⟩
  · exact ⟨'-', _, by rw [text, minus]; rfl, .inr (.inl rfl)⟩
  · exact ⟨'+', _, by rw [text, plus]; rfl, .inr (.inr rfl)⟩
  · obtain ⟨first, second, third, fourth, spelled⟩ := List.length_eq_four.mp long
    rw [spelled] at digits
    exact ⟨first, _, by rw [text, spelled]; rfl, .inl (digits first List.mem_cons_self)⟩

/-- A layout that begins with the name of a month does not read a canonical text. -/
theorem readAs_monthName (items : List Item) :
    readAs? (.monthName :: items) fields.text = none := by
  obtain ⟨first, rest, same, starts⟩ := fields.text_head
  have unnamed : readMonthName fields.text = none := by
    refine Option.map_eq_none_iff.mpr (List.findIdx?_eq_none_iff.mpr fun name listed => ?_)
    have other := (digit_or_sign_apart first starts).2 name listed
    refine beq_eq_false_iff_ne.mpr ?_
    rintro rfl
    rw [same, String.toList_ofList] at other
    exact other rfl
  simp [readAs?, readFields, readItem, unnamed]

/-- A canonical text has no blanks, so nothing of it is trimmed: it consists of digits, of a sign in
front of some years, and of the characters between the fields. -/
theorem text_plain : ∀ char ∈ fields.text, Text.isBlank char = false := by
  have digits (width value : Nat) : ∀ char ∈ padded width value, Text.isBlank char = false :=
    fun char inside =>
      (digit_or_sign_apart char (.inl (Instant.padded_digits width value char inside))).1
  have year : ∀ char ∈ yearText fields.year, Text.isBlank char = false := by
    unfold yearText
    split
    · exact digits _ _
    · refine List.forall_mem_cons.mpr ⟨?_, digits _ _⟩
      split <;> rfl
  simp only [text, behindYear, behindDay, behindMinute, behindSecond, List.forall_mem_append,
    List.forall_mem_cons]
  exact ⟨year, rfl, digits _ _, rfl, digits _ _, rfl, digits _ _, rfl, digits _ _, rfl, digits _ _,
    rfl, digits _ _, rfl, nofun⟩

variable {fields}

/-- A format does not read a canonical text, or reads the fields that were written. Of all
layouts only the one of timestamps and the one with milliseconds fit such a text; the others stop
within it. -/
theorem Written.read (written : fields.Written) (format : Format) :
    format.read? (String.ofList fields.text) = none ∨
      format.read? (String.ofList fields.text) = fields.instant? 0 := by
  obtain ⟨whole, shortened, dated, slashed, noFraction⟩ := written.readAs_dashed
  have timestamp : readTimestamp? fields.text = none ∨
      readTimestamp? fields.text = fields.instant? 0 := by
    by_cases short : 0 ≤ fields.year ∧ fields.year ≤ 9999
    · exact .inr (written.readTimestamp short)
    · refine .inl ?_
      rw [text, yearText, if_neg short, List.cons_append, readTimestamp?,
        readExactly_other 3 _ _ (by split <;> rfl)]
      rfl
  rw [Format.read?, String.toList_ofList, Text.trim_plain _ fields.text_plain]
  cases format with
  | iso => simpa [Format.layouts, whole, shortened, dated] using timestamp
  | yearFirstDashed | yearFirstSlashed => simp [Format.layouts, dated, slashed]
  | utcSeconds => simp [Format.layouts, noFraction]
  | utcMilliseconds => simp [Format.layouts, written.readAs_milliseconds]
  | monthFirst | dayFirst | dayMonthName | dotted =>
    refine .inl ?_
    simp [Format.layouts, fields.readAs_twoDigits]
  | monthNameDay => simp [Format.layouts, fields.readAs_monthName]

/-- Whatever formats are tried, a canonical text is not read or read as it was written. -/
theorem Written.readFirst (written : fields.Written) (formats : List Format) :
    readFirst? formats (String.ofList fields.text) = none ∨
      readFirst? formats (String.ofList fields.text) = fields.instant? 0 := by
  induction formats with
  | nil => exact .inl rfl
  | cons format formats inductionHypothesis =>
    rw [readFirst?, List.findSome?_cons]
    cases read : format.read? (String.ofList fields.text) with
    | none => exact inductionHypothesis
    | some instant =>
      have same := (written.read format).resolve_left (by simp [read])
      exact .inr (read.symm.trans same)

end Fields

end Calendar

namespace Instant

variable (instant : Instant)

/-- Whether the second of an instant is one of a day. -/
def InDay : Prop := instant.second < 86400

/-- The fields that the canonical text of an instant shows, where the nanosecond is cut to
milliseconds. -/
def fields : Calendar.Fields where
  year := instant.date.year
  month := instant.date.month
  day := instant.date.day
  hour := instant.second / 3600
  minute := instant.second / 60 % 60
  second := instant.second % 60 + if 1000000000 ≤ instant.nanosecond then 1 else 0
  nanosecond := instant.nanosecond % 1000000000 / 1000000 * 1000000

/-- The canonical text of an instant is that of its fields. -/
theorem toText_eq : instant.toText = String.ofList instant.fields.text := by
  simp [toText, fields, Calendar.Fields.text, Calendar.Fields.behindYear,
    Calendar.Fields.behindDay, Calendar.Fields.behindMinute, Calendar.Fields.behindSecond]

variable {instant}

/-- The fields of an instant can be read from its text. They are within the bounds of months, days
and hours, and their fraction is one of three digits, as milliseconds are all that is shown. -/
theorem InDay.written (inDay : instant.InDay) : instant.fields.Written := by
  obtain ⟨leastMonth, mostMonth, leastDay, mostDay⟩ := Date.ofDays_bounds instant.days
  have second : instant.second < 86400 := inDay
  refine ⟨⟨leastMonth, mostMonth⟩, ⟨leastDay, mostDay⟩, ?_, ?_, ?_, ?_⟩
  · simp only [fields]
    omega
  · simp only [fields]
    omega
  · simp only [fields]
    split <;> omega
  · exact ⟨instant.nanosecond % 1000000000 / 1000000, by omega, rfl⟩

/-- A time of day on a date in UTC is an instant of that day. -/
theorem ofLocal_utc (days : Int) (second nanosecond : Nat) (inDay : second < 86400) :
    ofLocal (Date.ofDays days) second nanosecond 0 = ⟨days, second, nanosecond⟩ := by
  have quotient : (days * 86400 + second - 0 : Int).fdiv 86400 = days := by
    rw [Int.fdiv_eq_ediv_of_nonneg _ (by decide)]
    omega
  have remainder : ((days * 86400 + second - 0 : Int).fmod 86400).toNat = second := by
    rw [Int.fmod_eq_emod_of_nonneg _ (by decide)]
    omega
  simp only [ofLocal, Date.toDays_ofDays, quotient, remainder]

/-- A leap second is shown as the second behind the one it is counted with. -/
theorem fields_second (instant : Instant) :
    instant.nanosecond < 1000000000 ∧ instant.fields.second = instant.second % 60 ∨
      1000000000 ≤ instant.nanosecond ∧ instant.fields.second = instant.second % 60 + 1 := by
  rcases Nat.lt_or_ge instant.nanosecond 1000000000 with plain | leap
  · exact .inl ⟨plain, congrArg (_ + ·) (if_neg (Nat.not_le.mpr plain))⟩
  · exact .inr ⟨leap, congrArg (_ + ·) (if_pos leap)⟩

/-- Instants of one day have the same fields if they show the same time of day. -/
theorem fields_congr (other : Instant) (days : instant.days = other.days)
    (hour : instant.second / 3600 = other.second / 3600)
    (minute : instant.second / 60 % 60 = other.second / 60 % 60)
    (second : instant.fields.second = other.fields.second)
    (fraction : instant.nanosecond % 1000000000 / 1000000 =
      other.nanosecond % 1000000000 / 1000000) :
    instant.fields = other.fields := by
  simp only [fields] at second
  simp only [fields, date, days, hour, minute, second, fraction]

/-- An instant that is read back from its fields has the same fields. A sixtieth second is read as a
leap second again, and any other second like one that is none. -/
theorem InDay.fields_back (inDay : instant.InDay) (back : Instant)
    (read : instant.fields.instant? 0 = some back) : back.fields = instant.fields := by
  have bound : instant.second < 86400 := inDay
  have hour : instant.fields.hour = instant.second / 3600 := rfl
  have minute : instant.fields.minute = instant.second / 60 % 60 := rfl
  have fraction : instant.fields.nanosecond =
    instant.nanosecond % 1000000000 / 1000000 * 1000000 := rfl
  have second := instant.fields_second
  obtain ⟨date, sameDate, rfl⟩ := Option.map_eq_some_iff.mp read
  obtain rfl : date = Date.ofDays instant.days := by
    unfold Date.of? at sameDate
    split at sameDate
    · exact (Option.some.inj sameDate).symm
    · cases sameDate
  by_cases leap : instant.fields.second = 60
  · simp only [leap, if_true]
    rw [ofLocal_utc _ _ _ (by omega)]
    have shown := fields_second ⟨instant.days,
      instant.fields.hour * 3600 + instant.fields.minute * 60 + 59,
      instant.fields.nanosecond + 1000000000⟩
    simp only at shown
    refine fields_congr _ rfl ?_ ?_ ?_ ?_
    · simp only; omega
    · simp only; omega
    · omega
    · simp only; omega
  · simp only [leap, if_false]
    rw [ofLocal_utc _ _ _ (by omega)]
    have shown := fields_second ⟨instant.days, instant.fields.hour * 3600 +
      instant.fields.minute * 60 + instant.fields.second, instant.fields.nanosecond + 0⟩
    simp only at shown
    refine fields_congr _ rfl ?_ ?_ ?_ ?_
    · simp only; omega
    · simp only; omega
    · omega
    · simp only; omega

/-- Whatever formats are tried, a canonical text is not read or it is that of what is read. -/
theorem InDay.text_back (inDay : instant.InDay) (formats : List Calendar.Format) (back : Instant)
    (read : Calendar.readFirst? formats instant.toText = some back) :
    back.toText = instant.toText := by
  rw [toText_eq] at read ⊢
  rcases inDay.written.readFirst formats with unread | same
  · cases unread.symm.trans read
  · rw [toText_eq, inDay.fields_back back (same.symm.trans read)]

/-- A local time of day is an instant of some day. -/
theorem ofLocal_inDay (date : Date) (second nanosecond : Nat) (ahead : Int) :
    (ofLocal date second nanosecond ahead).InDay := by
  have bound := Int.fmod_lt_of_pos (date.toDays * 86400 + second - ahead) (b := 86400) (by decide)
  simp only [InDay, ofLocal]
  omega

/-- A number of milliseconds stands for an instant of some day. -/
theorem ofMilliseconds_inDay (milliseconds : Int)
    (found : ofMilliseconds? milliseconds = some instant) : instant.InDay := by
  simp only [ofMilliseconds?] at found
  split at found
  · obtain rfl := Option.some.inj found
    have bound := Int.fmod_lt_of_pos milliseconds (b := 86400000) (by decide)
    simp only [InDay]
    omega
  · cases found

end Instant

namespace Calendar

/-- Fields name an instant of some day. -/
theorem Fields.instant_inDay (fields : Fields) (ahead : Int) (instant : Instant)
    (named : fields.instant? ahead = some instant) : instant.InDay := by
  obtain ⟨date, -, rfl⟩ := Option.map_eq_some_iff.mp named
  exact Instant.ofLocal_inDay date _ _ ahead

/-- Instants are of some day if they all are that some further step names. -/
theorem bind_inDay {Found : Type} (found : Option Found) (next : Found → Option Instant)
    (all : ∀ value instant, next value = some instant → instant.InDay) (instant : Instant)
    (named : found.bind next = some instant) : instant.InDay := by
  obtain ⟨value, -, named⟩ := Option.bind_eq_some_iff.mp named
  exact all value instant named

/-- A timestamp names an instant of some day. Whatever its fields and its offset are, the instant is
made of them in the end by one function that answers with instants of some day. -/
theorem readTimestamp_inDay (text : List Char) :
    ∀ instant, readTimestamp? text = some instant → instant.InDay := by
  refine bind_inDay _ _ fun (year, rest) => bind_inDay _ _ fun rest =>
    bind_inDay _ _ fun (month, rest) => bind_inDay _ _ fun rest =>
    bind_inDay _ _ fun (day, rest) => ?_
  dsimp only
  split
  all_goals
    refine bind_inDay _ _ fun rest => bind_inDay _ _ fun (hour, rest) =>
      bind_inDay _ _ fun rest => bind_inDay _ _ fun (minute, rest) =>
      bind_inDay _ _ fun rest => bind_inDay _ _ fun (second, rest) => ?_
    dsimp only
    split
  all_goals
    exact bind_inDay _ _ fun (nanosecond, rest) => bind_inDay _ _ fun ahead =>
      Fields.instant_inDay _ ahead

/-- What is read as a date in some format is an instant of some day. -/
theorem readFirst_inDay (formats : List Format) (text : String) (instant : Instant)
    (read : readFirst? formats text = some instant) : instant.InDay := by
  obtain ⟨format, -, read⟩ := List.exists_of_findSome?_eq_some read
  rcases Option.or_eq_some_iff.mp (Option.orElse_eq_or.symm.trans read) with timestamp | ⟨-, layout⟩
  · split at timestamp
    · exact readTimestamp_inDay _ instant timestamp
    · cases timestamp
  · obtain ⟨layout, -, read⟩ := List.exists_of_findSome?_eq_some layout
    obtain ⟨fields, -, named⟩ := Option.bind_eq_some_iff.mp read
    exact fields.instant_inDay 0 instant named

end Calendar

end DocumentQuery
