import DashboardGenerator.Number.Digits

/-!
# Dates and times

A date, a time of day, or both with an optional offset. They are checked against the calendar and
the clock, and written back in one normal form: a capital `T` between date and time, a capital `Z`
or a signed offset, and a fraction of at most nine digits without needless zeros.
-/

namespace DashboardGenerator.Toml

open Number

/-- A day of the calendar. -/
structure Date where
  year : Nat
  month : Nat
  day : Nat
deriving Repr, DecidableEq

/-- A time of day. The fraction is in nanoseconds. -/
structure ClockTime where
  hour : Nat
  minute : Nat
  second : Option Nat
  fraction : Option Nat
deriving Repr, DecidableEq

/-- The distance from universal time. -/
inductive ZoneOffset where
  | universal
  | east (minutes : Int)
deriving Repr, DecidableEq

/-- A date, a time, or both. -/
inductive DateTime where
  | onDay (date : Date)
  | atTime (time : ClockTime)
  | moment (date : Date) (time : ClockTime) (offset : Option ZoneOffset)
deriving Repr, DecidableEq

/-- Read exactly `count` decimal digits. -/
def fixedNumber? (count : Nat) (text : List Char) : Option (Nat × List Char) :=
  let digits := text.take count
  if digits.length = count ∧ digits.all Char.isDigit then
    some (decimalValue digits, text.drop count)
  else none

/-- Read a given character. -/
def expect? (character : Char) : List Char → Option (List Char)
  | [] => none
  | first :: rest => if first = character then some rest else none

/-- The year has a twenty-ninth of February. -/
def isLeapYear (year : Nat) : Bool :=
  year % 4 == 0 && (year % 100 != 0 || year % 400 == 0)

/-- The number of days of a month. -/
def daysIn (year month : Nat) : Nat :=
  if month = 2 then (if isLeapYear year then 29 else 28)
  else if month = 4 ∨ month = 6 ∨ month = 9 ∨ month = 11 then 30
  else 31

namespace Date

/-- The date exists in the calendar. -/
def isValid (date : Date) : Bool :=
  1 ≤ date.month && date.month ≤ 12 && 1 ≤ date.day && date.day ≤ daysIn date.year date.month

/-- Read a date. -/
def read? (text : List Char) : Option (Date × List Char) := do
  let (year, text) ← fixedNumber? 4 text
  let text ← expect? '-' text
  let (month, text) ← fixedNumber? 2 text
  let text ← expect? '-' text
  let (day, text) ← fixedNumber? 2 text
  let date : Date := ⟨year, month, day⟩
  if date.isValid then some (date, text) else none

end Date

/-- A date as text. -/
def Date.text (date : Date) : List Char :=
  padded 4 date.year ++ '-' :: padded 2 date.month ++ '-' :: padded 2 date.day

namespace ClockTime

/-- The time is one that a clock shows, a leap second included. -/
def isValid (time : ClockTime) : Bool :=
  time.hour ≤ 23 && time.minute ≤ 59 && time.second.all (· ≤ 60)

/-- Read the fraction of a second behind its point, in nanoseconds; further digits are dropped. -/
def fraction? (text : List Char) : Option (Nat × List Char) :=
  let digits := text.takeWhile Char.isDigit
  if digits.isEmpty then none
  else
    let kept := digits.take 9
    some (decimalValue kept * Nat.pow 10 (9 - kept.length), text.dropWhile Char.isDigit)

/-- Read a time of day. Seconds may be left out, and then there is no fraction. -/
def read? (text : List Char) : Option (ClockTime × List Char) := do
  let (hour, text) ← fixedNumber? 2 text
  let text ← expect? ':' text
  let (minute, text) ← fixedNumber? 2 text
  let (time, text) ←
    match text with
    | ':' :: text => do
      let (second, text) ← fixedNumber? 2 text
      match text with
      | '.' :: text => do
        let (fraction, text) ← fraction? text
        some (ClockTime.mk hour minute (some second) (some fraction), text)
      | _ => some (ClockTime.mk hour minute (some second) none, text)
    | _ => some (ClockTime.mk hour minute none none, text)
  if time.isValid then some (time, text) else none

/-- A fraction as text, with its point. -/
def fractionText (nanoseconds : Nat) : List Char :=
  let digits := ((padded 9 nanoseconds).reverse.dropWhile (· == '0')).reverse
  '.' :: (if digits.isEmpty then ['0'] else digits)

/-- A time of day as text. -/
def text (time : ClockTime) : List Char :=
  padded 2 time.hour ++ ':' :: padded 2 time.minute ++
    (match time.second with
      | some second => ':' :: padded 2 second
      | none => []) ++
    (match time.fraction with
      | some fraction => fractionText fraction
      | none => [])

end ClockTime

namespace ZoneOffset

/-- Read a signed offset behind its sign. -/
def signed? (sign : Int) (text : List Char) : Option (ZoneOffset × List Char) := do
  let (hours, text) ← fixedNumber? 2 text
  let text ← expect? ':' text
  let (minutes, text) ← fixedNumber? 2 text
  if hours ≤ 23 ∧ minutes ≤ 59 then some (.east (sign * (60 * hours + minutes)), text)
  else none

/-- Read an offset, if there is one. -/
def read? : List Char → Option (Option ZoneOffset × List Char)
  | 'Z' :: rest => some (some .universal, rest)
  | 'z' :: rest => some (some .universal, rest)
  | '+' :: rest => (signed? 1 rest).map fun (offset, rest) => (some offset, rest)
  | '-' :: rest => (signed? (-1) rest).map fun (offset, rest) => (some offset, rest)
  | rest => some (none, rest)

/-- An offset as text. -/
def text : ZoneOffset → List Char
  | .universal => ['Z']
  | .east minutes =>
    (if minutes < 0 then '-' else '+') ::
      padded 2 (minutes.natAbs / 60) ++ ':' :: padded 2 (minutes.natAbs % 60)

end ZoneOffset

namespace DateTime

/-- Read the time and the offset behind a date. -/
def afterDate? (date : Date) : List Char → Option DateTime
  | [] => some (.onDay date)
  | separator :: rest => do
    if separator = 'T' ∨ separator = 't' ∨ separator = ' ' then
      let (time, rest) ← ClockTime.read? rest
      let (offset, rest) ← ZoneOffset.read? rest
      if rest.isEmpty then some (.moment date time offset) else none
    else none

/-- Read a text that is a date, a time, or both. -/
def read? (text : List Char) : Option DateTime :=
  match text[4]? with
  | some '-' => do
    let (date, rest) ← Date.read? text
    afterDate? date rest
  | _ => do
    let (time, rest) ← ClockTime.read? text
    if rest.isEmpty then some (.atTime time) else none

/-- The normal form of a date and time. -/
def text : DateTime → List Char
  | .onDay date => date.text
  | .atTime time => time.text
  | .moment date time offset =>
    date.text ++ 'T' :: time.text ++
      (match offset with
        | some offset => offset.text
        | none => [])

end DateTime

end DashboardGenerator.Toml
