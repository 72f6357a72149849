import MapContext.Text.Blank

/-!
# Instants

Dates with time and offset are read in a liberal form of RFC 3339 and written in universal time
with as many groups of three fraction digits as needed.
-/

namespace MapContext

/-- A point in universal time. A leap second is the second before it with a billion or more
nanoseconds. -/
structure Instant where
  /-- Days since 1 January 1970. -/
  day : Int
  /-- Seconds since midnight. -/
  second : Nat
  /-- Nanoseconds. -/
  nanosecond : Nat
  deriving DecidableEq

namespace Instant

/-- The number of days from 1 January 1970 to a date of the Gregorian calendar. -/
def daysOfDate (year : Int) (month day : Nat) : Int :=
  let y := if month ≤ 2 then year - 1 else year
  let era := y / 400
  let yearOfEra := y % 400
  let monthFromMarch : Int := (month + 9) % 12
  let dayOfYear := (153 * monthFromMarch + 2) / 5 + day - 1
  era * 146097 + (yearOfEra * 365 + yearOfEra / 4 - yearOfEra / 100 + dayOfYear) - 719468

/-- The date of the Gregorian calendar with its number of days from 1 January 1970. -/
def dateOfDays (days : Int) : Int × Nat × Nat :=
  let z := days + 719468
  let era := z / 146097
  let dayOfEra := z % 146097
  let yearOfEra :=
    (dayOfEra - dayOfEra / 1460 + dayOfEra / 36524 - dayOfEra / 146096) / 365
  let dayOfYear := dayOfEra - (365 * yearOfEra + yearOfEra / 4 - yearOfEra / 100)
  let monthFromMarch := (5 * dayOfYear + 2) / 153
  let day := dayOfYear - (153 * monthFromMarch + 2) / 5 + 1
  let month := if monthFromMarch < 10 then monthFromMarch + 3 else monthFromMarch - 9
  let year := yearOfEra + era * 400 + (if month ≤ 2 then 1 else 0)
  (year, month.toNat, day.toNat)

/-- Years divisible by four, except centuries not divisible by 400. -/
def isLeapYear (year : Int) : Bool :=
  year % 4 == 0 && (year % 100 != 0 || year % 400 == 0)

/-- The number of days of a month. -/
def daysInMonth (year : Int) (month : Nat) : Nat :=
  if month = 2 then (if isLeapYear year then 29 else 28)
  else if month = 4 || month = 6 || month = 9 || month = 11 then 30
  else 31

/-- The least year of an instant. -/
def leastYear : Int := -262143

/-- The greatest year of an instant. -/
def greatestYear : Int := 262142

/-- A number of at least the given width, filled with zeros. -/
def padded (width n : Nat) : List Char :=
  let digits := Nat.toDigits 10 n
  List.replicate (width - digits.length) '0' ++ digits

/-- A year of four digits, or a signed one outside of them. -/
def yearText (year : Int) : List Char :=
  if 0 ≤ year && year ≤ 9999 then padded 4 year.toNat
  else (if year < 0 then '-' else '+') :: padded 4 year.natAbs

/-- The fraction of a second in no, three, six or nine digits. -/
def fractionText (n : Nat) : List Char :=
  if n = 0 then []
  else if n % 1000000 = 0 then '.' :: padded 3 (n / 1000000)
  else if n % 1000 = 0 then '.' :: padded 6 (n / 1000)
  else '.' :: padded 9 n

/-- The instant in RFC 3339. -/
def display (t : Instant) : String :=
  let (year, month, day) := dateOfDays t.day
  let leap := if 1000000000 ≤ t.nanosecond then 1 else 0
  String.ofList (yearText year ++ '-' :: padded 2 month ++ '-' :: padded 2 day
    ++ 'T' :: padded 2 (t.second / 3600) ++ ':' :: padded 2 (t.second / 60 % 60)
    ++ ':' :: padded 2 (t.second % 60 + leap) ++ fractionText (t.nanosecond % 1000000000) ++ ['Z'])

/-- A value read from the front of a text, with what follows. -/
abbrev Reader (α : Type) := List Char → Option (α × List Char)

/-- Passes over blanks. -/
def skipBlanks (cs : List Char) : List Char := cs.dropWhile Text.isBlank

/-- A number of at least one and at most `width` digits. -/
def digits (width : Nat) : Reader Nat := fun cs =>
  let ds := (cs.take width).takeWhile Char.isDigit
  if ds.isEmpty then none else some (Text.digitsValue ds, cs.drop ds.length)

/-- A number after blanks. -/
def number (width : Nat) : Reader Nat := fun cs => digits width (skipBlanks cs)

/-- A year of up to four digits, or of any length after a sign. -/
def year : Reader Int := fun cs =>
  match skipBlanks cs with
  | '-' :: rest => (digits rest.length rest).map fun (n, rest) => (-n, rest)
  | '+' :: rest => (digits rest.length rest).map fun (n, rest) => (n, rest)
  | rest => (digits 4 rest).map fun (n, rest) => (n, rest)

/-- A mark after blanks. -/
def mark (c : Char) : Reader Unit := fun cs =>
  match skipBlanks cs with
  | d :: rest => if c = d then some ((), rest) else none
  | [] => none

/-- A fraction of a second; digits after the ninth are passed over. -/
def fraction : Reader Nat := fun cs =>
  match cs with
  | '.' :: rest =>
    let ds := rest.takeWhile Char.isDigit
    if ds.isEmpty then none
    else
      let kept := ds.take 9
      some (Text.digitsValue kept * Nat.pow 10 (9 - kept.length), rest.drop ds.length)
  | _ => some (0, cs)

/-- An offset from universal time in minutes. -/
def offset : Reader Int := fun cs =>
  match skipBlanks cs with
  | 'Z' :: rest => some (0, rest)
  | 'z' :: rest => some (0, rest)
  | u :: t :: c :: rest =>
    if [u, t, c].map Char.toLower == ['u', 't', 'c'] then some (0, rest)
    else if u != '+' && u != '-' && u != '\u2212' then none
    else if !t.isDigit || !c.isDigit then none
    else
      match rest.dropWhile fun c => c == ':' || Text.isBlank c with
      | m :: n :: rest =>
        if m.isDigit && n.isDigit && m < '6' then
          let minutes : Int := Text.digitsValue [t, c] * 60 + Text.digitsValue [m, n]
          if 1440 ≤ minutes then none else some (if u = '+' then minutes else -minutes, rest)
        else none
      | _ => none
  | _ => none

/-- The instant of a local date and time at an offset in minutes. -/
def ofLocal? (year : Int) (month day hour minute second nanosecond : Nat) (minutes : Int) :
    Option Instant :=
  if month < 1 || 12 < month || day < 1 || daysInMonth year month < day || 23 < hour
      || 59 < minute || 60 < second || year < leastYear || greatestYear < year then none
  else
    let leap := second = 60
    let wall : Int := daysOfDate year month day * 86400
      + (hour * 3600 + minute * 60 + (if leap then 59 else second) : Nat)
    let total := wall - minutes * 60
    let result : Instant :=
      ⟨total / 86400, (total % 86400).toNat, if leap then nanosecond + 1000000000 else nanosecond⟩
    let resultYear := (dateOfDays result.day).1
    if resultYear < leastYear || greatestYear < resultYear then none else some result

/-- Reads a date, a letter `T` or a blank, a time and an offset. -/
def read? (text : String) : Option Instant := do
  let (year, cs) ← year text.toList
  let (_, cs) ← mark '-' cs
  let (month, cs) ← number 2 cs
  let (_, cs) ← mark '-' cs
  let (day, cs) ← number 2 cs
  let cs ← match cs with
    | c :: rest => if c = 'T' || c = 't' || c = ' ' then some rest else none
    | [] => none
  let (hour, cs) ← number 2 cs
  let (_, cs) ← mark ':' cs
  let (minute, cs) ← number 2 cs
  let (_, cs) ← mark ':' cs
  let (second, cs) ← number 2 cs
  let (nanosecond, cs) ← fraction cs
  let (minutes, cs) ← offset cs
  if (skipBlanks cs).isEmpty then
    ofLocal? year month day hour minute second nanosecond minutes
  else none

end Instant

end MapContext
