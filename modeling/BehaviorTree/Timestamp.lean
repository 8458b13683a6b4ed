import BehaviorTree.Decimal.Reader
import BehaviorTree.Decimal.Whole
import BehaviorTree.Json.Value

/-!
# Points in time

A `Timestamp` is the reading of a wall clock with the offset of its time zone, if it has one. It is
kept in microseconds since the start of 1970. Without an offset, a reading is of the clock of the
host, whose time zone is a parameter (`Zone`).

* `Timestamp.iso`, `Timestamp.document`: the two written forms; they differ in how UTC is marked.
* `Timestamp.ofText`: reads a date, a date with a time, or a count of seconds.
* `Timestamp.ofNumber`: reads a count of seconds, or of milliseconds when it is large.
* `Timestamp.instant`: the point in time, for comparisons.
-/

namespace BehaviorTree

open BehaviorTree.Text

/-- The reading of a wall clock, in microseconds since 1970-01-01T00:00:00 on that clock, and the
offset of the clock from UTC in minutes. -/
structure Timestamp where
  wall : Int
  offset : Option Int
  deriving DecidableEq, Repr, Inhabited

/-- The time zone of a host: what it counts for a reading of its clock, in microseconds since 1970
in UTC, or nothing for a reading that it cannot count. -/
structure Zone where
  count? : Int → Option Int

namespace Timestamp

/-- The microseconds of a second. -/
def second : Int := 1000000

/-- The microseconds of a day. -/
def day : Int := 86400 * second

/-! ### The calendar -/

/-- A day of the Gregorian calendar. -/
structure Date where
  year : Int
  month : Int
  day : Int
  deriving DecidableEq, Repr

/-- The days from 1970-01-01 to a date. Years are counted from March, so that a leap day is the last
of its year. -/
def Date.dayNumber (d : Date) : Int :=
  let year := if d.month ≤ 2 then d.year - 1 else d.year
  let month := if d.month ≤ 2 then d.month + 9 else d.month - 3
  let era := year / 400
  let inEra := year % 400
  let inYear := (153 * month + 2) / 5 + d.day - 1
  era * 146097 + inEra * 365 + inEra / 4 - inEra / 100 + inYear - 719468

/-- The date so many days after 1970-01-01. -/
def Date.ofDayNumber (n : Int) : Date :=
  let shifted := n + 719468
  let era := shifted / 146097
  let inEra := shifted % 146097
  let year := (inEra - inEra / 1460 + inEra / 36524 - inEra / 146096) / 365
  let inYear := inEra - (365 * year + year / 4 - year / 100)
  let month := (5 * inYear + 2) / 153
  let day := inYear - (153 * month + 2) / 5 + 1
  let civil := if month < 10 then month + 3 else month - 9
  ⟨year + era * 400 + (if civil ≤ 2 then 1 else 0), civil, day⟩

/-- A leap year. -/
def isLeap (year : Int) : Bool := year % 4 = 0 && (year % 100 ≠ 0 || year % 400 = 0)

/-- The days of a month; zero for no month. -/
def daysIn (year month : Int) : Int :=
  if month = 2 then (if isLeap year then 29 else 28)
  else if month = 4 ∨ month = 6 ∨ month = 9 ∨ month = 11 then 30
  else if 1 ≤ month ∧ month ≤ 12 then 31
  else 0

/-- Midnight of a date, without an offset. -/
def midnight (d : Date) : Timestamp := ⟨d.dayNumber * day, none⟩

/-- The date of a timestamp on its own clock. -/
def date (t : Timestamp) : Date := Date.ofDayNumber (t.wall / day)

/-- The zone of a host whose clock shows UTC. It counts a reading by way of the one a day before it,
which must not fall into the year zero. -/
def utc : Zone where
  count? wall := if (Date.mk 1 1 2).dayNumber * day ≤ wall then some wall else none

/-- The point in time in microseconds since 1970 in UTC. What the host cannot count is at zero. -/
def instant (zone : Zone) (t : Timestamp) : Int :=
  match t.offset with
  | some minutes => t.wall - minutes * 60 * second
  | none => (zone.count? t.wall).getD 0

/-- A quotient rounded to the nearest integer, ties to even. -/
def roundDiv (n d : Nat) : Nat :=
  let twice := 2 * (n % d)
  if twice < d ∨ (twice = d ∧ n / d % 2 = 0) then n / d else n / d + 1

/-- How recent a point in time is, in units of 2^-20 microseconds: its seconds since 1970 as the
nearest double. Within 2^33 seconds of 1970 doubles tell all microseconds apart and nothing is
rounded. -/
def recency (zone : Zone) (t : Timestamp) : Int :=
  let magnitude := (t.instant zone).natAbs
  let bits := Nat.log2 (magnitude / 1000000)
  let rounded :=
    if bits < 33 then magnitude <<< 20
    else (roundDiv (magnitude <<< (52 - bits)) 1000000 * 1000000) <<< (bits - 32)
  if t.instant zone < 0 then -rounded else rounded

/-- Whether a point in time has a count. -/
def hasCount (zone : Zone) (t : Timestamp) : Bool :=
  t.offset.isSome || (zone.count? t.wall).isSome

/-- The timestamp so many microseconds later. -/
def later (t : Timestamp) (microseconds : Int) : Timestamp :=
  { t with wall := t.wall + microseconds }

/-! ### Writing -/

/-- Two digits. -/
def two (n : Int) : String := padded 2 n.toNat

/-- Hours, minutes and seconds of the day. -/
def clock (t : Timestamp) : String :=
  let seconds := t.wall % day / second
  two (seconds / 3600) ++ ":" ++ two (seconds / 60 % 60) ++ ":" ++ two (seconds % 60)

/-- The fraction of the second: six digits behind a point, or nothing when it is zero. -/
def fraction (t : Timestamp) : String :=
  let microseconds := t.wall % second
  if microseconds = 0 then "" else "." ++ padded 6 microseconds.toNat

/-- An offset as sign, hours and minutes. -/
def offsetText (minutes : Int) : String :=
  (if minutes < 0 then "-" else "+")
    ++ two (minutes.natAbs / 60) ++ ":" ++ two (minutes.natAbs % 60)

/-- Date and time without an offset. -/
def unzoned (t : Timestamp) : String :=
  let d := t.date
  padded 4 d.year.toNat ++ "-" ++ two d.month ++ "-" ++ two d.day ++ "T" ++ t.clock ++ t.fraction

/-- The form that sorts as text within one time zone: UTC is written `+00:00`. -/
def iso (t : Timestamp) : String :=
  t.unzoned ++ match t.offset with
    | none => ""
    | some minutes => offsetText minutes

/-- The form of saved documents: UTC is written `Z`. -/
def document (t : Timestamp) : String :=
  t.unzoned ++ match t.offset with
    | none => ""
    | some minutes => if minutes = 0 then "Z" else offsetText minutes

/-- The form of listings: to the second, on the timestamp's own clock. -/
def listing (t : Timestamp) : String :=
  let d := t.date
  ofInt d.year ++ "-" ++ two d.month ++ "-" ++ two d.day ++ " " ++ t.clock

/-! ### Reading -/

/-- Why a value is not a timestamp. -/
inductive Problem where
  | tooShort
  | extraCharacters
  | dateSeparator
  | yearCharacter
  | monthCharacter
  | dayCharacter
  | monthRange
  | dayRange
  | tooEarly
  | tooLate
  | notExact
  | notNumber
  | yearZero
  deriving DecidableEq, Repr

/-- The wording of a problem. -/
def Problem.message : Problem → String
  | .tooShort => "input is too short"
  | .extraCharacters => "unexpected extra characters at the end of the input"
  | .dateSeparator => "invalid date separator, expected \u0060-\u0060"
  | .yearCharacter => "invalid character in year"
  | .monthCharacter => "invalid character in month"
  | .dayCharacter => "invalid character in day"
  | .monthRange => "month value is outside expected range of 1-12"
  | .dayRange => "day value is outside expected range"
  | .tooEarly => "dates before 0000 are not supported as unix timestamps"
  | .tooLate => "dates after 9999 are not supported as unix timestamps"
  | .notExact => "datetimes provided to dates should have zero time - e.g. be exact dates"
  | .notNumber => "NaN values not permitted"
  | .yearZero => "year 0 is out of range"

/-- Reads a number of exactly so many ASCII digits. -/
def takeDigits? : Nat → Nat → List Char → Option (Int × List Char)
  | 0, n, cs => some (n, cs)
  | count + 1, n, c :: cs => do takeDigits? count (10 * n + (← asciiDigit? c)) cs
  | _ + 1, _, [] => none

/-- Reads one given character. -/
def takeChar? (p : Char → Bool) : List Char → Option (List Char)
  | c :: cs => if p c then some cs else none
  | [] => none

/-- An absent value turned into a problem. -/
def orElse {α : Type} (problem : Problem) : Option α → Except Problem α
  | some a => .ok a
  | none => .error problem

/-- Reads a date at the start of a text of at least ten bytes. -/
def takeDate (cs : List Char) : Except Problem (Date × List Char) := do
  let (year, cs) ← orElse .yearCharacter (takeDigits? 4 0 cs)
  let cs ← orElse .dateSeparator (takeChar? (· = '-') cs)
  let (month, cs) ← orElse .monthCharacter (takeDigits? 2 0 cs)
  let cs ← orElse .dateSeparator (takeChar? (· = '-') cs)
  let (dayOfMonth, cs) ← orElse .dayCharacter (takeDigits? 2 0 cs)
  if month < 1 ∨ 12 < month then .error .monthRange
  else if dayOfMonth < 1 ∨ daysIn year month < dayOfMonth then .error .dayRange
  else .ok (⟨year, month, dayOfMonth⟩, cs)

/-- Microseconds from the digits of a fraction; digits behind the sixth are dropped. -/
def microseconds (digits : List Nat) : Int :=
  ofDigits ((digits ++ List.replicate 6 0).take 6)

/-- Reads the fraction of a second, if one follows. -/
def takeFraction? : List Char → Option (Int × List Char)
  | c :: cs =>
    if c = '.' ∨ c = ',' then
      match spanDigits asciiDigit? cs with
      | ([], _) => none
      | (digits, rest) => some (microseconds digits, rest)
    else some (0, c :: cs)
  | [] => some (0, [])

/-- Reads seconds with an optional fraction, if a colon announces them. -/
def takeSeconds? : List Char → Option (Int × List Char)
  | ':' :: cs => do
    let (seconds, cs) ← takeDigits? 2 0 cs
    if 59 < seconds then none
    else
      let (fraction, cs) ← takeFraction? cs
      some (seconds * second + fraction, cs)
  | cs => some (0, cs)

/-- Reads a time of day. -/
def takeTime? (cs : List Char) : Option (Int × List Char) := do
  let (hours, cs) ← takeDigits? 2 0 cs
  let cs ← takeChar? (· = ':') cs
  let (minutes, cs) ← takeDigits? 2 0 cs
  if 23 < hours ∨ 59 < minutes then none
  else
    let (rest, cs) ← takeSeconds? cs
    some ((hours * 60 + minutes) * 60 * second + rest, cs)

/-- Reads the hours and minutes of an offset; a colon may stand between them. -/
def readOffset? (sign : Int) (cs : List Char) : Option Int := do
  let (hours, cs) ← takeDigits? 2 0 cs
  let cs := (takeChar? (· = ':') cs).getD cs
  let (minutes, cs) ← takeDigits? 2 0 cs
  if cs.isEmpty ∧ minutes ≤ 59 ∧ hours ≤ 23 then some (sign * (hours * 60 + minutes)) else none

/-- Reads the rest of a text as a time zone: nothing, a mark for UTC, or an offset. -/
def readZone? : List Char → Option (Option Int)
  | [] => some none
  | ['Z'] | ['z'] => some (some 0)
  | '+' :: cs => (readOffset? 1 cs).map some
  | '-' :: cs | '\u2212' :: cs => (readOffset? (-1) cs).map some
  | _ => none

/-- The characters that may stand between a date and a time. -/
def isDateEnd (c : Char) : Bool := c = 'T' || c = 't' || c = ' ' || c = '_'

/-- Reads a date with a time. -/
def readDateTime? (cs : List Char) : Option Timestamp := do
  let (d, cs) ← (takeDate cs).toOption
  let cs ← takeChar? isDateEnd cs
  let (time, cs) ← takeTime? cs
  let offset ← readZone? cs
  some ⟨d.dayNumber * day + time, offset⟩

/-- The largest count of seconds; a larger count is one of milliseconds. -/
def watershed : Nat := 20000000000

/-- The timestamp in UTC of a count of microseconds since 1970. -/
def ofMicroseconds (count : Int) : Except Problem Timestamp :=
  if count < -62167219200 * second then .error .tooEarly
  else if 253402300800 * second ≤ count then .error .tooLate
  else .ok ⟨count, some 0⟩

/-- The timestamp in UTC of a count of seconds, or of milliseconds beyond the watershed. -/
def ofUnix (count : Int) : Except Problem Timestamp :=
  ofMicroseconds (count * if count.natAbs ≤ watershed then second else 1000)

/-- The timestamp of a count with a fraction, which is rounded to the microsecond. The fraction
counts forward from the whole number below. -/
def ofUnixFloat (x : Float) : Except Problem Timestamp :=
  if x.isNaN then .error .notNumber
  else match Decimal.truncate? x.floor with
  | none => .error (if x < 0.0 then .tooEarly else .tooLate)
  | some whole =>
    let unit : Nat := if x.abs ≤ Float.ofNat watershed then 1000000 else 1000
    let more := ((x - x.floor) * Float.ofNat unit).round
    ofMicroseconds (whole * unit + more.toUInt64.toNat)

/-- Refuses the year zero, which a date may be written in but which no timestamp has. -/
def checked (t : Timestamp) : Except Problem Timestamp :=
  if t.date.year = 0 then .error .yearZero else .ok t

/-- The timestamp of a number. -/
def ofNumber : Number → Except Problem Timestamp
  | .int n => do checked (← if Decimal.isWord n then ofUnix n else ofUnixFloat (Float.ofInt n))
  | .float x => do checked (← ofUnixFloat x)

/-- The digits that a text starts with and the text behind them, unless their number exceeds a word
of 64 bits. -/
def spanWord? (cs : List Char) : Option (List Nat × List Char) :=
  let (digits, rest) := spanDigits asciiDigit? cs
  if Decimal.isWord (ofDigits digits) then some (digits, rest) else none

/-- A text that holds only an integer of 64 bits. -/
def wordText? (cs : List Char) : Option Int := do
  let (negative, body) := takeSign cs
  let (digits, rest) ← spanWord? body
  if digits.isEmpty ∨ !rest.isEmpty then none
  else some (if negative then -(ofDigits digits : Int) else ofDigits digits)

/-- A text that holds only a number with a point, and perhaps an exponent behind it. -/
def pointText? (cs : List Char) : Option Float := do
  let (negative, body) := takeSign cs
  let (_, rest) ← spanWord? body
  if rest.head? = some '.' then
    (Decimal.readUnsigned? asciiDigit? body).map fun w => Decimal.signed negative w.toFloat
  else none

/-- Reads a date alone, or a count of seconds at midnight. This reading names the problem of a text
that no reading accepts. -/
def ofDateText (s : String) : Except Problem Timestamp :=
  let cs := s.toList
  let found := if s.utf8ByteSize < 10 then .error .tooShort else takeDate cs
  match found with
  | .ok (d, []) => .ok (midnight d)
  | other =>
    match wordText? cs with
    | some n => do
      let t ← ofUnix n
      if t.wall % day = 0 then .ok { t with offset := none } else .error .notExact
    | none => match other with
      | .ok _ => .error .extraCharacters
      | .error problem => .error problem

/-- Reads a text as a date with a time, as a count of seconds, or as a date alone. The flag of an
error says that it is one of a date alone. -/
def ofText (s : String) : Except (Problem × Bool) Timestamp := do
  let cs := s.toList
  let counted := match wordText? cs with
    | some n => (ofUnix n).toOption
    | none => (pointText? cs).bind fun x => (ofUnixFloat x).toOption
  let t ← match (readDateTime? cs).or counted with
    | some t => Except.ok t
    | none => (ofDateText s).mapError fun problem => (problem, true)
  (checked t).mapError fun problem => (problem, false)

/-! ### Checks -/

example : (Date.mk 2024 2 29).dayNumber = 19782 := by decide
example : Date.ofDayNumber 19782 = ⟨2024, 2, 29⟩ := by decide
example : (ofText "2024-05-06T07:08:09.123456+02:00").toOption.map iso
    = some "2024-05-06T07:08:09.123456+02:00" := by decide
example : (ofUnix 20000000001).toOption.map iso = some "1970-08-20T11:33:20.001000+00:00" := by
  decide
example : (ofText "2023-02-29").toOption = none := by decide

end Timestamp
end BehaviorTree
