import EdgeMonitor.Base.Calendar
import EdgeMonitor.Base.Decimal
import EdgeMonitor.Base.Json

/-!
# Device timestamps

Library `Backend`. `validate_device_timestamp` of `backend/core/validation.py`, with the parts
of Python's `datetime` that it calls, the text that the collector stores, and the reading of that
text by the alert engine.
-/

namespace EdgeMonitor.Backend
open EdgeMonitor.Base
open Calendar Text

/-! ### Date and time -/

/-- A `datetime`, with the offset of its zone in seconds if it has one. -/
structure DateTime where
  date : Date
  hour : Nat
  minute : Nat
  second : Nat
  microsecond : Nat
  utcOffset : Option Int
  deriving DecidableEq

/-- `date.max.toordinal()`, the 31st of December 9999. -/
def maxOrdinal : Int := 3652059

/-- Seconds from the day with ordinal 0 on. -/
def clockSeconds (date : Date) (hour minute second : Nat) : Int :=
  date.toOrdinal * 86400 + hour * 3600 + minute * 60 + second

/-- The checks of the constructor. -/
def DateTime.Exists (d : DateTime) : Prop :=
  d.date.Valid ∧ d.date.year ≤ 9999 ∧ d.hour ≤ 23 ∧ d.minute ≤ 59 ∧ d.second ≤ 59

instance (d : DateTime) : Decidable d.Exists := inferInstanceAs (Decidable (_ ∧ _ ∧ _ ∧ _ ∧ _))

/-- The constructor, none when it raises `ValueError`. -/
def DateTime.check (d : DateTime) : Option DateTime := if d.Exists then some d else none

/-- The time of a day at a number of seconds, in UTC. -/
def DateTime.ofSeconds (seconds : Int) (microsecond : Nat) : DateTime :=
  let rest := (seconds % 86400).toNat
  ⟨ofOrdinal (seconds / 86400).toNat, rest / 3600, rest % 3600 / 60, rest % 60, microsecond,
    some 0⟩

/-- `datetime.astimezone(timezone.utc)` of an aware time, none when it raises
`OverflowError`. -/
def DateTime.astimezone (d : DateTime) (utcOffset : Int) : Option DateTime :=
  let seconds := clockSeconds d.date d.hour d.minute d.second - utcOffset
  if 0 < seconds / 86400 ∧ seconds / 86400 ≤ maxOrdinal then
    some (.ofSeconds seconds d.microsecond)
  else none

/-- Date, `T` and time of a text. -/
structure Clock where
  date : Date
  hour : Nat
  minute : Nat
  second : Nat

/-- `YYYY-MM-DDTHH:MM:SS`. -/
def readClock (s : Text) : Option Clock := do
  let (year, s) ← readDigits 4 s
  let s ← expect 0x2D s
  let (month, s) ← readDigits 2 s
  let s ← expect 0x2D s
  let (day, s) ← readDigits 2 s
  let s ← expect 0x54 s
  let (hour, s) ← readDigits 2 s
  let s ← expect 0x3A s
  let (minute, s) ← readDigits 2 s
  let s ← expect 0x3A s
  let (second, s) ← readDigits 2 s
  if s = [] then some ⟨⟨year, month, day⟩, hour, minute, second⟩ else none

/-- `(\.[0-9]+)?`, and what follows it. -/
def readFraction : Text → Option Text × Text
  | 0x2E :: rest => (some (rest.takeWhile isDigit), rest.dropWhile isDigit)
  | s => (none, s)

/-- `[+-](?:[01][0-9]|2[0-3]):[0-5][0-9]` in seconds. -/
def readOffset : Text → Option Int
  | [] => none
  | sign :: s => do
    let (hours, s) ← readDigits 2 s
    let s ← expect 0x3A s
    let (minutes, s) ← readDigits 2 s
    if s = [] ∧ hours ≤ 23 ∧ minutes ≤ 59 then
      if sign = 0x2B then some (hours * 3600 + minutes * 60)
      else if sign = 0x2D then some (-(hours * 3600 + minutes * 60))
      else none
    else none

/-- The microseconds of a fraction. Digits after the sixth are dropped. -/
def fractionMicroseconds (fraction : Option Text) : Nat :=
  match fraction with
  | some digits => digitsValue ((digits ++ List.replicate 6 0x30).take 6)
  | none => 0

/-- The end of `datetime.fromisoformat`: 24:00:00 is the midnight that ends the day, and the
constructor checks the rest. None when it raises `ValueError`. -/
def Clock.build (clock : Clock) (microsecond : Nat) (utcOffset : Option Int) : Option DateTime :=
  if clock.hour = 24 ∧ clock.date.month ≤ 12 ∧
      clock.date.day ≤ daysInMonth clock.date.year clock.date.month then
    if clock.minute = 0 ∧ clock.second = 0 ∧ microsecond = 0 then
      DateTime.check ⟨clock.date.next, 0, 0, 0, 0, utcOffset⟩
    else none
  else
    DateTime.check ⟨clock.date, clock.hour, clock.minute, clock.second, microsecond, utcOffset⟩

/-- `datetime.fromisoformat` on texts of this form, with or without a zone; none when it raises
`ValueError`. -/
def fromisoformat (s : Text) : Option DateTime :=
  let (fraction, zone) := readFraction (s.drop 19)
  match readClock (s.take 19) with
  | none => none
  | some clock =>
    if fraction = some [] then none
    else if zone = [] then clock.build (fractionMicroseconds fraction) none
    else
      (readOffset zone).bind fun utcOffset ↦
        clock.build (fractionMicroseconds fraction) (some utcOffset)

/-! ### The validator -/

/-- What `validate_device_timestamp` raises. -/
inductive TimestampError where
  | valueError (message : String)
  | overflowError
  deriving DecidableEq

/-- The groups of a match of `DEVICE_TIMESTAMP_PATTERN`, read as numbers, the zone in seconds. -/
structure TimestampMatch where
  clock : Clock
  fraction : Option Text
  offset : Int

/-- `DEVICE_TIMESTAMP_PATTERN.fullmatch`, `validation.py:8–13`. -/
def matchTimestamp (value : Text) : Option TimestampMatch :=
  let (fraction, zone) := readFraction (value.drop 19)
  match readClock (value.take 19) with
  | none => none
  | some clock =>
    if fraction = some [] then none
    else if zone = [0x5A] then some ⟨clock, fraction, 0⟩
    else (readOffset zone).map (TimestampMatch.mk clock fraction)

/-- The text `+00:00`. -/
def utcZone : Text := [0x2B, 0x30, 0x30, 0x3A, 0x30, 0x30]

/-- `validate_device_timestamp`, `validation.py:45–76`. -/
def validateDeviceTimestamp (value : Json) : Except TimestampError DateTime :=
  match value with
  | .string value =>
    match matchTimestamp value with
    | none => .error (.valueError
        "device timestamp must match YYYY-MM-DDTHH:MM:SS[.fraction](Z|+/-HH:MM)")
    | some m =>
      if m.fraction.any (·.any (· != 0x30)) then
        .error (.valueError "device timestamp fraction must contain only zeros")
      else
        let parseValue := if value.getLast? = some 0x5A then value.dropLast ++ utcZone else value
        match fromisoformat parseValue with
        | none => .error (.valueError "device timestamp must be a valid RFC 3339 value")
        | some parsed =>
          match parsed.utcOffset with
          | none => .error (.valueError "device timestamp must include a timezone")
          | some utcOffset =>
            match parsed.astimezone utcOffset with
            | none => .error .overflowError
            | some normalized =>
              if normalized.microsecond ≠ 0 then
                .error (.valueError "device timestamp must have whole-second precision")
              else .ok normalized
  | _ => .error (.valueError "device timestamp must be an RFC 3339 string")

/-! ### What is stored and read again -/

/-- Date and time without a zone, as `isoformat` writes them. -/
def DateTime.localText (d : DateTime) : Text :=
  digits 4 d.date.year ++ [0x2D] ++ digits 2 d.date.month ++ [0x2D] ++ digits 2 d.date.day ++
    [0x54] ++ digits 2 d.hour ++ [0x3A] ++ digits 2 d.minute ++ [0x3A] ++ digits 2 d.second ++
    if d.microsecond = 0 then [] else 0x2E :: digits 6 d.microsecond

/-- The text of a UTC time in `model_dump(mode="json")`. -/
def DateTime.stored (d : DateTime) : Text := d.localText ++ [0x5A]

/-- `parse_utc_timestamp`, `alerts.py:51–55`. -/
def parseUtcTimestamp (value : Text) : Except TimestampError DateTime :=
  match fromisoformat (value.flatMap fun c ↦ if c = 0x5A then utcZone else [c]) with
  | none => .error (.valueError "Invalid isoformat string")
  | some parsed =>
    match parsed.utcOffset with
    | none => .error (.valueError "timestamp must be timezone-aware")
    | some utcOffset =>
      match parsed.astimezone utcOffset with
      | none => .error .overflowError
      | some normalized => .ok normalized

/-- `isoformat` of a UTC time with `+00:00` replaced by `Z`, `alert_engine.py:20`. -/
def eventTimeText (eventTime : DateTime) : Text :=
  (eventTime.localText ++ utcZone).replace utcZone [0x5A]

/-! ### What a text denotes -/

/-- The instant in seconds: the clock reading less its offset. The time 24:00:00 is the one
after 23:59:59. -/
def TimestampMatch.instant (m : TimestampMatch) : Int :=
  clockSeconds m.clock.date m.clock.hour m.clock.minute m.clock.second - m.offset

/-- The instant of a text that matches. -/
def timestampInstant (value : Text) : Option Int :=
  (matchTimestamp value).map TimestampMatch.instant

/-- The instant lies in the years 1 to 9999 of UTC. -/
def Representable (seconds : Int) : Prop := 0 < seconds / 86400 ∧ seconds / 86400 ≤ maxOrdinal

instance (seconds : Int) : Decidable (Representable seconds) :=
  inferInstanceAs (Decidable (_ ∧ _))

/-- The fraction has only zeros, and the day and the time exist. -/
def TimestampMatch.WellFormed (m : TimestampMatch) : Prop :=
  (∀ digits ∈ m.fraction, ∀ c ∈ digits, c = 0x30) ∧ (m.clock.build 0 (some m.offset)).isSome

/-- The day and the time exist in the years 1 to 9999. The time 24:00:00 does, with any day up to
the last of its month, if the next midnight does. -/
def Clock.Exists (clock : Clock) : Prop :=
  clock.date.Valid ∧ clock.date.year ≤ 9999 ∧ clock.hour ≤ 23 ∧ clock.minute ≤ 59 ∧
      clock.second ≤ 59 ∨
    clock.hour = 24 ∧ clock.minute = 0 ∧ clock.second = 0 ∧ clock.date.month ≤ 12 ∧
      clock.date.day ≤ daysInMonth clock.date.year clock.date.month ∧ clock.date.next.Valid ∧
      clock.date.next.year ≤ 9999

/-- The instant of a text with a zero fraction, a day and a time that exist is one of the years 1
to 9999 of UTC. -/
def FitsUtc (value : Text) : Prop :=
  ∀ m, matchTimestamp value = some m → (∀ digits ∈ m.fraction, ∀ c ∈ digits, c = 0x30) →
    m.clock.Exists → Representable m.instant

/-! ### Reading -/

/-- A fraction ends at the first character that is no digit, whatever follows. -/
theorem readFraction_split (s : Text) : ∃ front, s = front ++ (readFraction s).2 ∧
    ∀ c rest, isDigit c = false → c ≠ 0x2E →
      readFraction (front ++ c :: rest) = ((readFraction s).1, c :: rest) := by
  rw [readFraction.eq_def]
  split
  next rest =>
    refine ⟨0x2E :: rest.takeWhile isDigit, ?_, ?_⟩
    · rw [List.cons_append, List.takeWhile_append_dropWhile]
    · intro c rest' hc hdot
      have hall : ∀ d ∈ rest.takeWhile isDigit, isDigit d = true :=
        fun d hd ↦ List.mem_takeWhile_imp hd
      rw [List.cons_append, readFraction, List.takeWhile_append_of_pos hall,
        List.dropWhile_append_of_pos hall, List.takeWhile_cons_of_neg (by simp [hc]),
        List.dropWhile_cons_of_neg (by simp [hc]), List.append_nil]
  next hdot =>
    refine ⟨[], rfl, ?_⟩
    intro c rest' hc hne
    rw [List.nil_append, readFraction]
    intro rest'' heq
    exact hne (List.cons.inj heq).1

/-- The last character of an offset is a digit. -/
theorem last_of_readOffset {zone : Text} {offset : Int} (h : readOffset zone = some offset) :
    ∃ front c, zone = front ++ [c] ∧ isDigit c = true := by
  cases zone with
  | nil => cases h
  | cons sign s =>
    simp only [readOffset, Option.bind_eq_bind, Option.bind_eq_some_iff] at h
    obtain ⟨⟨hours, s₁⟩, hhours, s₂, hcolon, ⟨minutes, s₃⟩, hminutes, hend⟩ := h
    have hempty : s₃ = [] := by
      by_contra hne
      rw [if_neg fun hall ↦ hne hall.1] at hend
      cases hend
    obtain ⟨number, hs, -, -⟩ := exists_of_readDigits hhours
    obtain ⟨number', hs₂, hlength, hdigits⟩ := exists_of_readDigits hminutes
    have hs₁ := eq_cons_of_expect hcolon
    match number', hlength with
    | [a, b], _ =>
      refine ⟨sign :: (number ++ [0x3A, a]), b, ?_, hdigits b (by simp)⟩
      dsimp only at hs₁
      rw [hs, hs₁, hs₂, hempty]
      simp

/-- The zone of a match, and the text in front of it. -/
theorem matchTimestamp_eq_some {value : Text} {m : TimestampMatch}
    (h : matchTimestamp value = some m) :
    readClock (value.take 19) = some m.clock ∧ (readFraction (value.drop 19)).1 = m.fraction ∧
      m.fraction ≠ some [] ∧
      ((readFraction (value.drop 19)).2 = [0x5A] ∧ m.offset = 0 ∨
        readOffset (readFraction (value.drop 19)).2 = some m.offset) := by
  rw [matchTimestamp] at h
  generalize readFraction (value.drop 19) = parts at h ⊢
  obtain ⟨fraction, zone⟩ := parts
  cases hclock : readClock (value.take 19) with
  | none =>
    rw [hclock] at h
    cases h
  | some clock =>
    rw [hclock] at h
    dsimp only at h
    split at h
    next => cases h
    next hfraction =>
      split at h
      next hzone =>
        cases h
        exact ⟨rfl, rfl, hfraction, .inl ⟨hzone, rfl⟩⟩
      next =>
        obtain ⟨offset, hoffset, rfl⟩ := Option.map_eq_some_iff.mp h
        exact ⟨rfl, rfl, hfraction, .inr hoffset⟩

/-- A text of nineteen characters, a fraction and an offset is read as it was matched. -/
theorem fromisoformat_of_parts {value front zone : Text} {m : TimestampMatch}
    (hclock : readClock value = some m.clock) (hlength : value.length = 19)
    (hfraction : readFraction (front ++ zone) = (m.fraction, zone)) (hne : m.fraction ≠ some [])
    (hzone : readOffset zone = some m.offset) :
    fromisoformat (value ++ (front ++ zone)) =
      m.clock.build (fractionMicroseconds m.fraction) (some m.offset) := by
  have hnil : zone ≠ [] := by
    intro hempty
    rw [hempty] at hzone
    cases hzone
  rw [fromisoformat, List.take_left' hlength, List.drop_left' hlength, hclock, hfraction]
  dsimp only
  rw [if_neg hne, if_neg hnil, hzone]
  rfl

/-- The offset of a match is read from the text that is parsed. -/
theorem fromisoformat_of_match {value : Text} {m : TimestampMatch}
    (h : matchTimestamp value = some m) :
    fromisoformat (if value.getLast? = some 0x5A then value.dropLast ++ utcZone else value) =
      m.clock.build (fractionMicroseconds m.fraction) (some m.offset) := by
  obtain ⟨hclock, hfraction, hne, hzone⟩ := matchTimestamp_eq_some h
  obtain ⟨front, hdrop, hfront⟩ := readFraction_split (value.drop 19)
  generalize hz : (readFraction (value.drop 19)).2 = zone at hzone hdrop
  have hvalue : value = value.take 19 ++ (front ++ zone) := by
    rw [← hdrop, List.take_append_drop]
  have hzoneNil : zone ≠ [] := by
    rintro rfl
    obtain ⟨hempty, -⟩ | hoffset := hzone
    · cases hempty
    · cases hoffset
  have hlength : (value.take 19).length = 19 := by
    have hpos := List.length_pos_iff.mpr hzoneNil
    have htotal := congrArg List.length hdrop
    rw [List.length_drop, List.length_append] at htotal
    rw [List.length_take]
    omega
  obtain ⟨hutc, hoffset⟩ | hoffset := hzone
  · have hlast : value.getLast? = some 0x5A := by
      rw [hvalue, hutc, ← List.append_assoc, List.getLast?_append_of_ne_nil _ (by simp)]
      rfl
    have hinit : value.dropLast = value.take 19 ++ front := by
      conv_lhs => rw [hvalue, hutc, ← List.append_assoc, List.dropLast_concat]
    rw [if_pos hlast, hinit, List.append_assoc]
    refine fromisoformat_of_parts hclock hlength ?_ hne ?_
    · rw [← hfraction]
      exact hfront 0x2B _ rfl (by decide)
    · rw [hoffset]
      decide +kernel
  · obtain ⟨init, c, hend, hdigit⟩ := last_of_readOffset hoffset
    have hlast : value.getLast? ≠ some 0x5A := by
      rw [hvalue, hend, ← List.append_assoc, ← List.append_assoc, List.getLast?_concat]
      intro heq
      rw [Option.some.inj heq] at hdigit
      cases hdigit
    rw [if_neg hlast]
    conv_lhs => rw [hvalue]
    refine fromisoformat_of_parts hclock hlength ?_ hne hoffset
    rw [← hdrop, ← hfraction, ← hz]

/-! ### The result -/

theorem fractionMicroseconds_eq_zero {fraction : Option Text}
    (h : ∀ digits ∈ fraction, ∀ c ∈ digits, c = 0x30) : fractionMicroseconds fraction = 0 := by
  cases fraction with
  | none => rfl
  | some digits =>
    apply digitsValue_eq_zero
    intro c hc
    cases List.mem_append.mp (List.mem_of_mem_take hc) with
    | inl hdigit => exact h digits rfl c hdigit
    | inr hpad => exact List.eq_of_mem_replicate hpad

/-- The check of the fraction. -/
theorem fraction_any_eq_false {fraction : Option Text} :
    fraction.any (·.any (· != 0x30)) = false ↔ ∀ digits ∈ fraction, ∀ c ∈ digits, c = 0x30 := by
  cases fraction with
  | none => simp
  | some digits => simp

theorem check_eq_some {d d' : DateTime} (h : d.check = some d') : d' = d ∧ d.Exists := by
  rw [DateTime.check] at h
  split at h
  next hexists =>
    cases h
    exact ⟨rfl, hexists⟩
  next => cases h

/-- The time that is built is the one that was read, at the same instant. -/
theorem build_eq_some {clock : Clock} {microsecond : Nat} {utcOffset : Option Int} {d : DateTime}
    (h : clock.build microsecond utcOffset = some d) :
    d.utcOffset = utcOffset ∧ d.microsecond = microsecond ∧
      clockSeconds d.date d.hour d.minute d.second =
        clockSeconds clock.date clock.hour clock.minute clock.second := by
  rw [Clock.build] at h
  split at h
  next hmidnight =>
    obtain ⟨hhour, hmonth, hday⟩ := hmidnight
    split at h
    next hzero =>
      obtain ⟨hminute, hsecond, hmicrosecond⟩ := hzero
      obtain ⟨rfl, -⟩ := check_eq_some h
      refine ⟨rfl, hmicrosecond.symm, ?_⟩
      rw [clockSeconds, clockSeconds, Date.toOrdinal_next hmonth hday, hhour, hminute, hsecond]
      push_cast
      omega
    next => cases h
  next =>
    obtain ⟨rfl, -⟩ := check_eq_some h
    exact ⟨rfl, rfl, rfl⟩

/-- What the validator makes of a matching text. -/
theorem validate_of_match {value : Text} {m : TimestampMatch}
    (h : matchTimestamp value = some m) :
    (¬ m.WellFormed ∧ ∃ message,
      validateDeviceTimestamp (.string value) = .error (.valueError message)) ∨
    (m.WellFormed ∧ validateDeviceTimestamp (.string value) =
      if Representable m.instant then .ok (.ofSeconds m.instant 0) else .error .overflowError) := by
  rw [validateDeviceTimestamp, h]
  dsimp only
  by_cases hfraction : m.fraction.any (·.any (· != 0x30)) = true
  · left
    rw [if_pos hfraction]
    refine ⟨?_, _, rfl⟩
    rintro ⟨hzero, -⟩
    rw [fraction_any_eq_false.mpr hzero] at hfraction
    cases hfraction
  · rw [if_neg hfraction]
    have hzero := fraction_any_eq_false.mp (Bool.eq_false_iff.mpr hfraction)
    rw [fromisoformat_of_match h, fractionMicroseconds_eq_zero hzero]
    cases hbuild : m.clock.build 0 (some m.offset) with
    | none =>
      left
      refine ⟨?_, _, rfl⟩
      rintro ⟨-, hexists⟩
      rw [hbuild] at hexists
      cases hexists
    | some parsed =>
      right
      refine ⟨⟨hzero, by rw [hbuild]; rfl⟩, ?_⟩
      obtain ⟨hoffset, hmicrosecond, hseconds⟩ := build_eq_some hbuild
      have hutc : parsed.astimezone m.offset =
          if Representable m.instant then some (.ofSeconds m.instant 0) else none := by
        rw [DateTime.astimezone, hseconds, hmicrosecond]
        rfl
      dsimp only
      rw [hoffset]
      dsimp only
      rw [hutc]
      by_cases hrep : Representable m.instant
      · rw [if_pos hrep, if_pos hrep]
        rfl
      · rw [if_neg hrep, if_neg hrep]

/-- A text is accepted when it is well formed and its instant is one of UTC. -/
theorem validate_eq_ok_iff {value : Text} {d : DateTime} :
    validateDeviceTimestamp (.string value) = .ok d ↔ ∃ m, matchTimestamp value = some m ∧
      m.WellFormed ∧ Representable m.instant ∧ d = .ofSeconds m.instant 0 := by
  constructor
  · intro h
    cases hm : matchTimestamp value with
    | none =>
      rw [validateDeviceTimestamp, hm] at h
      cases h
    | some m =>
      obtain ⟨-, message, herror⟩ | ⟨hformed, hresult⟩ := validate_of_match hm
      · rw [herror] at h
        cases h
      · rw [hresult] at h
        split at h
        next hrep =>
          cases h
          exact ⟨m, rfl, hformed, hrep, rfl⟩
        next => cases h
  · rintro ⟨m, hm, hformed, hrep, rfl⟩
    obtain ⟨hnot, -⟩ | ⟨-, hresult⟩ := validate_of_match hm
    · exact absurd hformed hnot
    · rw [hresult, if_pos hrep]

/-- The only other exception than `ValueError` comes from the conversion to UTC. -/
theorem validate_overflow_iff {value : Text} :
    validateDeviceTimestamp (.string value) = .error .overflowError ↔
      ∃ m, matchTimestamp value = some m ∧ m.WellFormed ∧ ¬ Representable m.instant := by
  constructor
  · intro h
    cases hm : matchTimestamp value with
    | none =>
      rw [validateDeviceTimestamp, hm] at h
      cases h
    | some m =>
      obtain ⟨-, message, herror⟩ | ⟨hformed, hresult⟩ := validate_of_match hm
      · rw [herror] at h
        cases h
      · rw [hresult] at h
        split at h
        next => cases h
        next hrep => exact ⟨m, rfl, hformed, hrep⟩
  · rintro ⟨m, hm, hformed, hrep⟩
    obtain ⟨hnot, -⟩ | ⟨-, hresult⟩ := validate_of_match hm
    · exact absurd hformed hnot
    · rw [hresult, if_neg hrep]

/-- A time is built when the clock shows one. -/
theorem build_isSome_iff {clock : Clock} {utcOffset : Option Int} :
    (clock.build 0 utcOffset).isSome ↔ clock.Exists := by
  have hcheck (d : DateTime) : d.check.isSome ↔ d.Exists := by
    rw [DateTime.check]
    by_cases h : d.Exists
    · simp [h]
    · simp [h]
  rw [Clock.build, Clock.Exists]
  split
  next hmidnight =>
    obtain ⟨hhour, hmonth, hday⟩ := hmidnight
    split
    next hzero =>
      rw [hcheck, DateTime.Exists]
      grind
    next hzero =>
      constructor
      · intro h
        cases h
      · intro h
        omega
  next hmidnight =>
    rw [hcheck, DateTime.Exists]
    grind

/-- The conversion to UTC is the only one that fails otherwise, and it does not when the instant
fits. -/
theorem validate_rejects_iff {value : Text} :
    (∃ d, validateDeviceTimestamp (.string value) = .ok d ∧ d.utcOffset = some 0 ∧
      d.microsecond = 0) ∨
    (∃ message, validateDeviceTimestamp (.string value) = .error (.valueError message)) ↔
      FitsUtc value := by
  have hformed (m : TimestampMatch) : m.WellFormed ↔
      (∀ digits ∈ m.fraction, ∀ c ∈ digits, c = 0x30) ∧ m.clock.Exists :=
    and_congr_right fun _ ↦ build_isSome_iff
  have hoverflow : FitsUtc value ↔
      validateDeviceTimestamp (.string value) ≠ .error .overflowError := by
    rw [Ne, validate_overflow_iff, FitsUtc]
    constructor
    · rintro h ⟨m, hm, hwell, hrep⟩
      obtain ⟨hzero, hexists⟩ := (hformed m).mp hwell
      exact hrep (h m hm hzero hexists)
    · intro h m hm hzero hexists
      by_contra hrep
      exact h ⟨m, hm, (hformed m).mpr ⟨hzero, hexists⟩, hrep⟩
  rw [hoverflow]
  constructor
  · rintro (⟨d, hd, -⟩ | ⟨message, hmessage⟩) h
    · rw [h] at hd
      cases hd
    · rw [h] at hmessage
      cases hmessage
  · intro hne
    cases h : validateDeviceTimestamp (.string value) with
    | ok d =>
      obtain ⟨m, -, -, -, rfl⟩ := validate_eq_ok_iff.mp h
      exact .inl ⟨_, rfl, rfl, rfl⟩
    | error e =>
      cases e with
      | valueError message => exact .inr ⟨message, rfl⟩
      | overflowError => exact absurd h hne

/-! ### Order -/

/-- The time at an instant of UTC exists, and is at that instant. -/
theorem ofSeconds_spec {seconds : Int} (h : Representable seconds) (microsecond : Nat) :
    (DateTime.ofSeconds seconds microsecond).Exists ∧
      clockSeconds (DateTime.ofSeconds seconds microsecond).date
        (DateTime.ofSeconds seconds microsecond).hour
        (DateTime.ofSeconds seconds microsecond).minute
        (DateTime.ofSeconds seconds microsecond).second = seconds := by
  obtain ⟨hpos, hmax⟩ := h
  have hmax' : maxOrdinal = daysBeforeYear (9999 + 1) := by decide
  obtain ⟨hvalid, hordinal⟩ := ofOrdinal_spec (show 1 ≤ (seconds / 86400).toNat by omega)
  have hyear := (Date.toOrdinal_le_iff hvalid 9999).mp (by rw [hordinal]; omega)
  generalize hrest : (seconds % 86400).toNat = rest
  have hlt : rest < 86400 := by omega
  have hof : DateTime.ofSeconds seconds microsecond = ⟨ofOrdinal (seconds / 86400).toNat,
      rest / 3600, rest % 3600 / 60, rest % 60, microsecond, some 0⟩ := by
    rw [← hrest]
    rfl
  rw [hof]
  refine ⟨⟨hvalid, hyear, ?_, ?_, ?_⟩, ?_⟩
  · change rest / 3600 ≤ 23
    omega
  · change rest % 3600 / 60 ≤ 59
    omega
  · change rest % 60 ≤ 59
    omega
  · rw [clockSeconds, hordinal]
    dsimp only
    omega

/-- Existing times compare by year, month, day, hour, minute and second. -/
theorem clockSeconds_lt_iff {d e : DateTime} (hd : d.Exists) (he : e.Exists) :
    clockSeconds d.date d.hour d.minute d.second < clockSeconds e.date e.hour e.minute e.second ↔
      d.date < e.date ∨ d.date = e.date ∧ (d.hour < e.hour ∨ d.hour = e.hour ∧
        (d.minute < e.minute ∨ d.minute = e.minute ∧ d.second < e.second)) := by
  obtain ⟨hd, -, hdHour, hdMinute, hdSecond⟩ := hd
  obtain ⟨he, -, heHour, heMinute, heSecond⟩ := he
  rw [← Date.toOrdinal_lt_iff hd he, ← Date.toOrdinal_inj hd he, clockSeconds, clockSeconds]
  omega

/-- Equal clock readings are those of equal times. -/
theorem clockSeconds_inj {d e : DateTime} (hd : d.Exists) (he : e.Exists)
    (h : clockSeconds d.date d.hour d.minute d.second =
      clockSeconds e.date e.hour e.minute e.second) :
    d.date = e.date ∧ d.hour = e.hour ∧ d.minute = e.minute ∧ d.second = e.second := by
  obtain ⟨hd, -, hdHour, hdMinute, hdSecond⟩ := hd
  obtain ⟨he, -, heHour, heMinute, heSecond⟩ := he
  rw [← Date.toOrdinal_inj hd he]
  rw [clockSeconds, clockSeconds] at h
  omega

/-- Texts with one number each in front compare by these first. -/
theorem digits_append_lt_iff {width n m : Nat} (hn : n < 10 ^ width) (hm : m < 10 ^ width)
    (c : Nat) (s t : Text) : digits width n ++ c :: s < digits width m ++ c :: t ↔
      n < m ∨ n = m ∧ s < t := by
  rw [append_lt_append_iff (by rw [length_digits, length_digits]), digits_lt_iff hn hm,
    digits_inj hn hm, List.cons_lt_cons_iff]
  simp

/-- A time of whole seconds as text. -/
theorem stored_eq {d : DateTime} (h : d.microsecond = 0) : d.stored =
    digits 4 d.date.year ++ 0x2D :: (digits 2 d.date.month ++ 0x2D :: (digits 2 d.date.day ++
      0x54 :: (digits 2 d.hour ++ 0x3A :: (digits 2 d.minute ++ 0x3A :: (digits 2 d.second ++
        0x5A :: []))))) := by
  rw [DateTime.stored, DateTime.localText, if_pos h]
  simp only [List.append_assoc, List.cons_append, List.nil_append]

/-- The numbers of an existing time fit into their digits. -/
theorem DateTime.Exists.lt {d : DateTime} (h : d.Exists) : d.date.year < 10 ^ 4 ∧
    d.date.month < 10 ^ 2 ∧ d.date.day < 10 ^ 2 ∧ d.hour < 10 ^ 2 ∧ d.minute < 10 ^ 2 ∧
      d.second < 10 ^ 2 := by
  obtain ⟨⟨-, -, hmonth, -, hday⟩, hyear, hhour, hminute, hsecond⟩ := h
  have hdays : daysInMonth d.date.year d.date.month ≤ 31 := by
    rw [daysInMonth.eq_def]
    split <;> try split
    all_goals decide
  omega

/-- Stored texts compare like the times. -/
theorem stored_lt_iff {d e : DateTime} (hd : d.Exists) (he : e.Exists)
    (hdMicro : d.microsecond = 0) (heMicro : e.microsecond = 0) : d.stored < e.stored ↔
      clockSeconds d.date d.hour d.minute d.second <
        clockSeconds e.date e.hour e.minute e.second := by
  rw [stored_eq hdMicro, stored_eq heMicro, clockSeconds_lt_iff hd he, Date.lt_def]
  obtain ⟨hyear, hmonth, hday, hhour, hminute, hsecond⟩ := hd.lt
  obtain ⟨hyear', hmonth', hday', hhour', hminute', hsecond'⟩ := he.lt
  rw [digits_append_lt_iff hyear hyear', digits_append_lt_iff hmonth hmonth',
    digits_append_lt_iff hday hday', digits_append_lt_iff hhour hhour',
    digits_append_lt_iff hminute hminute', digits_append_lt_iff hsecond hsecond']
  have hnil : ¬ ([] : Text) < [] := List.not_lt_nil []
  have hdate : d.date = e.date ↔
      d.date.year = e.date.year ∧ d.date.month = e.date.month ∧ d.date.day = e.date.day := by
    rw [Date.mk.injEq]
  simp only [hnil, and_false, or_false, hdate]
  grind

/-! ### Reading what is stored -/

section
variable {d : DateTime}

theorem localText_eq (h : d.microsecond = 0) : d.localText =
    digits 4 d.date.year ++ 0x2D :: (digits 2 d.date.month ++ 0x2D :: (digits 2 d.date.day ++
      0x54 :: (digits 2 d.hour ++ 0x3A :: (digits 2 d.minute ++ 0x3A :: (digits 2 d.second ++
        []))))) := by
  rw [DateTime.localText, if_pos h]
  simp only [List.append_assoc, List.cons_append, List.nil_append]

theorem length_localText (h : d.microsecond = 0) : d.localText.length = 19 := by
  rw [localText_eq h]
  simp only [List.length_append, List.length_cons, length_digits, List.length_nil]

/-- The text has no sign and no zone. -/
theorem not_mem_localText (h : d.microsecond = 0) {c : Nat} (hdigit : isDigit c = false)
    (hdash : c ≠ 0x2D) (ht : c ≠ 0x54) (hcolon : c ≠ 0x3A) : c ∉ d.localText := by
  have hnot (width n : Nat) : c ∉ digits width n := by
    intro hmem
    rw [isDigit_of_mem_digits hmem] at hdigit
    cases hdigit
  rw [localText_eq h]
  simp only [List.mem_append, List.mem_cons, List.not_mem_nil, hnot, hdash, ht, hcolon, or_false,
    not_false_iff]

theorem readClock_localText (hexists : d.Exists) (h : d.microsecond = 0) :
    readClock d.localText = some ⟨d.date, d.hour, d.minute, d.second⟩ := by
  obtain ⟨hyear, hmonth, hday, hhour, hminute, hsecond⟩ := hexists.lt
  rw [localText_eq h, readClock, readDigits_digits hyear]
  simp only [Option.bind_eq_bind, Option.bind_some, expect_cons, readDigits_digits hmonth,
    readDigits_digits hday, readDigits_digits hhour, readDigits_digits hminute,
    readDigits_digits hsecond, if_true]

/-- An existing time is built from its own numbers. -/
theorem build_of_exists (hexists : d.Exists) (h : d.microsecond = 0)
    (hutc : d.utcOffset = some 0) :
    (Clock.mk d.date d.hour d.minute d.second).build 0 (some 0) = some d := by
  have hhour : d.hour ≠ 24 := by
    have hle := hexists.2.2.1
    omega
  have hsame : (⟨d.date, d.hour, d.minute, d.second, 0, some 0⟩ : DateTime) = d := by
    rw [← h, ← hutc]
  rw [Clock.build, if_neg fun hmidnight ↦ hhour hmidnight.1, DateTime.check, hsame,
    if_pos hexists]

/-- It is at an instant of UTC. -/
theorem representable_of_exists (hexists : d.Exists) :
    Representable (clockSeconds d.date d.hour d.minute d.second) := by
  have hmax : maxOrdinal = daysBeforeYear (9999 + 1) := by decide
  obtain ⟨hvalid, hyear, hhour, hminute, hsecond⟩ := hexists
  have hpos := Date.one_le_toOrdinal hvalid
  have hle := (Date.toOrdinal_le_iff hvalid 9999).mpr hyear
  rw [Representable, clockSeconds]
  omega

/-- Its clock reading gives the time again. -/
theorem ofSeconds_clockSeconds (hexists : d.Exists) (h : d.microsecond = 0)
    (hutc : d.utcOffset = some 0) :
    .ofSeconds (clockSeconds d.date d.hour d.minute d.second) 0 = d := by
  obtain ⟨hexists', hseconds⟩ := ofSeconds_spec (representable_of_exists hexists) 0
  obtain ⟨hdate, hhour, hminute, hsecond⟩ := clockSeconds_inj hexists' hexists hseconds
  obtain ⟨date, hour, minute, second, microsecond, utcOffset⟩ := d
  cases h
  cases hutc
  exact DateTime.mk.injEq .. ▸ ⟨hdate, hhour, hminute, hsecond, rfl, rfl⟩

/-- A time in UTC stays as it is. -/
theorem astimezone_utc (hexists : d.Exists) (h : d.microsecond = 0) (hutc : d.utcOffset = some 0) :
    d.astimezone 0 = some d := by
  have hrep := representable_of_exists hexists
  rw [Representable] at hrep
  rw [DateTime.astimezone, Int.sub_zero, h]
  rw [if_pos hrep, ofSeconds_clockSeconds hexists h hutc]

/-- The stored text of a time is accepted, and maps to itself. -/
theorem validate_stored (hexists : d.Exists) (h : d.microsecond = 0)
    (hutc : d.utcOffset = some 0) : validateDeviceTimestamp (.string d.stored) = .ok d := by
  rw [validate_eq_ok_iff]
  refine ⟨⟨⟨d.date, d.hour, d.minute, d.second⟩, none, 0⟩, ?_, ⟨?_, ?_⟩, ?_, ?_⟩
  · rw [matchTimestamp, DateTime.stored, List.take_left' (length_localText h),
      List.drop_left' (length_localText h), readClock_localText hexists h]
    rfl
  · exact fun digits hdigits ↦ by cases hdigits
  · rw [build_of_exists hexists h hutc]
    rfl
  · rw [TimestampMatch.instant, Int.sub_zero]
    exact representable_of_exists hexists
  · rw [TimestampMatch.instant, Int.sub_zero]
    exact (ofSeconds_clockSeconds hexists h hutc).symm

/-- The alert engine reads the time that was stored. -/
theorem parseUtcTimestamp_stored (hexists : d.Exists) (h : d.microsecond = 0)
    (hutc : d.utcOffset = some 0) : parseUtcTimestamp d.stored = .ok d := by
  have hreplaced : (d.stored.flatMap fun c ↦ if c = 0x5A then utcZone else [c]) =
      d.localText ++ ([] ++ utcZone) := by
    have hkept (s : Text) (hs : 0x5A ∉ s) :
        (s.flatMap fun c ↦ if c = 0x5A then utcZone else [c]) = s := by
      induction s with
      | nil => rfl
      | cons c s ih =>
        rw [List.mem_cons, not_or] at hs
        rw [List.flatMap_cons, if_neg (Ne.symm hs.1), ih hs.2, List.singleton_append]
    rw [DateTime.stored, List.flatMap_append,
      hkept _ (not_mem_localText h (by decide) (by decide) (by decide) (by decide))]
    rfl
  have hparsed : fromisoformat (d.localText ++ ([] ++ utcZone)) = some d := by
    rw [fromisoformat_of_parts (m := ⟨⟨d.date, d.hour, d.minute, d.second⟩, none, 0⟩)
      (readClock_localText hexists h) (length_localText h) rfl (by simp) rfl]
    exact build_of_exists hexists h hutc
  rw [parseUtcTimestamp, hreplaced, hparsed]
  dsimp only
  rw [hutc]
  dsimp only
  rw [astimezone_utc hexists h hutc]

/-- The engine writes it as it was stored. -/
theorem eventTimeText_eq_stored (h : d.microsecond = 0) : eventTimeText d = d.stored := by
  have hplus : (0x2B : Nat) ∉ d.localText :=
    not_mem_localText h (by decide) (by decide) (by decide) (by decide)
  rw [eventTimeText, Text.replace, replaceFrom_append (c := 0x2B) rfl hplus, DateTime.stored]
  rfl

end

/-! ### Accepted texts -/

/-- What is known of an accepted text. -/
structure Accepted (value : Text) (d : DateTime) (seconds : Int) : Prop where
  instant_eq : timestampInstant value = some seconds
  seconds_eq : clockSeconds d.date d.hour d.minute d.second = seconds
  existing : d.Exists
  microsecond_eq : d.microsecond = 0
  utc : d.utcOffset = some 0

theorem exists_accepted {value : Text} {d : DateTime}
    (h : validateDeviceTimestamp (.string value) = .ok d) :
    ∃ seconds, Accepted value d seconds := by
  obtain ⟨m, hm, -, hrep, rfl⟩ := validate_eq_ok_iff.mp h
  obtain ⟨hexists, hseconds⟩ := ofSeconds_spec hrep 0
  refine ⟨m.instant, ?_, hseconds, hexists, rfl, rfl⟩
  rw [timestampInstant, hm]
  rfl

theorem Accepted.stored_lt_iff {a b : Text} {x y : DateTime} {s t : Int} (ha : Accepted a x s)
    (hb : Accepted b y t) : x.stored < y.stored ↔ s < t := by
  rw [Backend.stored_lt_iff ha.existing hb.existing ha.microsecond_eq hb.microsecond_eq,
    ha.seconds_eq, hb.seconds_eq]

/-- Texts are equal as the instants are. -/
theorem Accepted.stored_eq_iff {a b : Text} {x y : DateTime} {s t : Int} (ha : Accepted a x s)
    (hb : Accepted b y t) : x.stored = y.stored ↔ s = t := by
  constructor
  · intro h
    have hlt := ha.stored_lt_iff hb
    have hgt := hb.stored_lt_iff ha
    rw [h] at hlt hgt
    have hirrefl : ¬ y.stored < y.stored := List.lt_irrefl _
    have hle := (not_congr hlt).mp hirrefl
    have hge := (not_congr hgt).mp hirrefl
    omega
  · intro h
    rw [← ofSeconds_clockSeconds ha.existing ha.microsecond_eq ha.utc, ha.seconds_eq, h,
      ← hb.seconds_eq, ofSeconds_clockSeconds hb.existing hb.microsecond_eq hb.utc]

/-- Stored device timestamps sort like time. The stored texts of two accepted timestamps compare
as the instants do, and are equal when these are; a stored text is accepted and stands for
itself, for the alert engine as well. So rows are in the order of their texts exactly when they
are in the order of time. -/
theorem stored_timestamps_sorted :
    (∀ a b x y, validateDeviceTimestamp (.string a) = .ok x →
      validateDeviceTimestamp (.string b) = .ok y →
      ∃ s t, timestampInstant a = some s ∧ timestampInstant b = some t ∧
        (x.stored < y.stored ↔ s < t) ∧ (x.stored = y.stored ↔ s = t)) ∧
    (∀ a x, validateDeviceTimestamp (.string a) = .ok x →
      validateDeviceTimestamp (.string x.stored) = .ok x ∧
      timestampInstant x.stored = timestampInstant a ∧
      parseUtcTimestamp x.stored = .ok x ∧ eventTimeText x = x.stored) ∧
    (∀ rows : List (Text × DateTime),
      (∀ row ∈ rows, validateDeviceTimestamp (.string row.1) = .ok row.2) →
      ((rows.map fun row ↦ row.2.stored).Pairwise (fun s t ↦ ¬ s < t) ↔
        (rows.map fun row ↦ (timestampInstant row.1).getD 0).Pairwise (fun s t ↦ ¬ s < t))) := by
  refine ⟨?_, ?_, ?_⟩
  · intro a b x y hx hy
    obtain ⟨s, ha⟩ := exists_accepted hx
    obtain ⟨t, hb⟩ := exists_accepted hy
    exact ⟨s, t, ha.instant_eq, hb.instant_eq, ha.stored_lt_iff hb, ha.stored_eq_iff hb⟩
  · intro a x hx
    obtain ⟨s, ha⟩ := exists_accepted hx
    have hstored := validate_stored ha.existing ha.microsecond_eq ha.utc
    obtain ⟨s', ha'⟩ := exists_accepted hstored
    refine ⟨hstored, ?_, parseUtcTimestamp_stored ha.existing ha.microsecond_eq ha.utc,
      eventTimeText_eq_stored ha.microsecond_eq⟩
    rw [ha.instant_eq, ha'.instant_eq, ← ha.seconds_eq, ← ha'.seconds_eq]
  · intro rows hrows
    rw [List.pairwise_map, List.pairwise_map]
    have hiff {p q : Text × DateTime} (hp : p ∈ rows) (hq : q ∈ rows) :
        ¬ p.2.stored < q.2.stored ↔
          ¬ (timestampInstant p.1).getD 0 < (timestampInstant q.1).getD 0 := by
      obtain ⟨s, hs⟩ := exists_accepted (hrows p hp)
      obtain ⟨t, ht⟩ := exists_accepted (hrows q hq)
      rw [hs.stored_lt_iff ht, hs.instant_eq, ht.instant_eq]
      rfl
    constructor
    · exact fun h ↦ h.imp_of_mem fun hp hq ↦ (hiff hp hq).mp
    · exact fun h ↦ h.imp_of_mem fun hp hq ↦ (hiff hp hq).mpr

/-- A time with an offset, and a later one in UTC whose text is smaller. -/
def sampleOffset : Text := Text.ofString "2026-08-22T12:30:45+02:00"
def sampleUtc : Text := Text.ofString "2026-08-22T10:30:46.00Z"

theorem stored_timestamps_sorted_sample :
    (DateTime.mk ⟨2026, 8, 22⟩ 10 30 45 0 (some 0)).stored <
      (DateTime.mk ⟨2026, 8, 22⟩ 10 30 46 0 (some 0)).stored := by
  obtain ⟨s, t, hs, ht, hlt, -⟩ := stored_timestamps_sorted.1 sampleOffset sampleUtc _ _
    (show _ = Except.ok (DateTime.mk ⟨2026, 8, 22⟩ 10 30 45 0 (some 0)) by decide +kernel)
    (show _ = Except.ok (DateTime.mk ⟨2026, 8, 22⟩ 10 30 46 0 (some 0)) by decide +kernel)
  have hsValue : timestampInstant sampleOffset = some 63923077845 := by decide +kernel
  have htValue : timestampInstant sampleUtc = some 63923077846 := by decide +kernel
  rw [hsValue] at hs
  rw [htValue] at ht
  rw [hlt, ← Option.some.inj hs, ← Option.some.inj ht]
  decide

end EdgeMonitor.Backend
