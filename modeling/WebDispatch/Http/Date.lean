import WebDispatch.Text.Basic
import WebDispatch.Time.Calendar

/-!
# Dates in headers

The three forms of a date that recipients accept, and the one that is written.  Names of days and
months are recognised in any case.  A day of the week that does not belong to the date is a fault.
-/

namespace WebDispatch
namespace HttpDate

/-- The short names of the days of the week, from Monday. -/
def dayNames : List String := ["Mon", "Tue", "Wed", "Thu", "Fri", "Sat", "Sun"]

/-- What makes up the long names of the days of the week. -/
def dayEndings : List String := ["day", "sday", "nesday", "rsday", "day", "urday", "day"]

/-- The short names of the months, from January. -/
def monthNames : List String :=
  ["Jan", "Feb", "Mar", "Apr", "May", "Jun", "Jul", "Aug", "Sep", "Oct", "Nov", "Dec"]

/-- What the parts of a date say before they are checked. -/
structure Fields where
  /-- The day of the week, from Monday. -/
  weekday : Option Nat := none
  /-- The date. -/
  date : Date
  /-- The hour. -/
  hour : Nat
  /-- The minute. -/
  minute : Nat
  /-- The second, which is sixty within a leap second. -/
  second : Nat
  /-- How many seconds the time is ahead of universal time. -/
  offset : Int := 0
  deriving DecidableEq, Repr

/-- The instant that the parts of a date mean, if they fit together. -/
def Fields.toInstant? (fields : Fields) : Option Instant :=
  if fields.date.isValid ∧ fields.weekday.all (· == fields.date.weekday) ∧
      Instant.firstYear ≤ fields.date.year ∧ fields.date.year ≤ Instant.lastYear ∧
      fields.hour < 24 ∧ fields.minute < 60 ∧ fields.second ≤ 60 ∧
      fields.offset.natAbs < 86400 then
    let time := fields.hour * 3600 + fields.minute * 60 + min fields.second 59
    let seconds := fields.date.toDays * Instant.secondsPerDay + time - fields.offset
    if Instant.isRepresentable seconds then
      some { seconds, nanoseconds := if fields.second = 60 then 1000000000 else 0 }
    else none
  else none

/-! ### Parts of a date -/

/-- Skip white space. -/
def blanks : StateT (List Char) Option Unit :=
  fun s => some ((), s.dropWhile Text.isBlank)

/-- Skip white space, of which there has to be some. -/
def someBlanks : StateT (List Char) Option Unit
  | [] => none
  | c :: rest => if Text.isBlank c then blanks rest else none

/-- Skip a text. -/
def expect (text : String) : StateT (List Char) Option Unit :=
  fun s => if text.toList.isPrefixOf s then some ((), s.drop text.length) else none

/-- The digits in front of a text, of which there have to be at least `least`. -/
def digits (least : Nat) : StateT (List Char) Option (List Char) := fun s =>
  let found := s.takeWhile Char.isDigit
  if found.length < least then none else some (found, s.dropWhile Char.isDigit)

/-- The value of decimal digits. -/
def valueOf (digits : List Char) : Nat :=
  digits.foldl (fun n c => n * 10 + (c.toNat - 48)) 0

/-- A number of at least `least` and at most `most` digits. -/
def number (least most : Nat) : StateT (List Char) Option Nat := fun s =>
  let found := (s.take most).takeWhile Char.isDigit
  if found.length < least then none else some (valueOf found, s.drop found.length)

/-- The place of the name in front of a text in a list of names of three letters. -/
def nameAmong (names : List String) : StateT (List Char) Option Nat := fun s =>
  match names.findIdx? (Text.sameIgnoringCase (String.ofList (s.take 3))) with
  | some place => some (place, s.drop 3)
  | none => none

/-- The short name of a day of the week. -/
def shortDay : StateT (List Char) Option Nat := nameAmong dayNames

/-- The name of a day of the week, short or long. -/
def longDay : StateT (List Char) Option Nat := fun s =>
  match shortDay s with
  | none => none
  | some (day, rest) =>
      let ending := dayEndings.getD day ""
      if Text.sameIgnoringCase (String.ofList (rest.take ending.length)) ending then
        some (day, rest.drop ending.length)
      else some (day, rest)

/-- The name of a month, as a number from one. -/
def month : StateT (List Char) Option Nat := do return (← nameAmong monthNames) + 1

/-! ### The preferred form -/

/-- A year: two digits lie around the year 2000, and three count from 1900. -/
def mailYear : StateT (List Char) Option Int := do
  let found ← digits 2
  let year := valueOf found
  return if found.length = 2 then if year < 50 then year + 2000 else year + 1900
    else if found.length = 3 then year + 1900
    else year

/-- The time zones with a name: how many hours they are behind universal time. -/
def zoneNames : List (String × Nat) :=
  [("gmt", 0), ("ut", 0), ("z", 0), ("edt", 4), ("est", 5), ("cdt", 5), ("cst", 6), ("mdt", 6),
    ("mst", 7), ("pdt", 7), ("pst", 8)]

/-- The offset of a time zone name in seconds.  A single letter other than `j` says nothing about
the time zone. -/
def namedZone? (name : List Char) : Option Int :=
  let name := name.map Char.toLower
  match zoneNames.lookup (String.ofList name) with
  | some hours => some (-(hours * 3600 : Nat))
  | none =>
      match name with
      | [c] => if c = 'j' then none else some 0
      | _ => none

/-- A time zone: its name, or hours and minutes with a sign. -/
def zone : StateT (List Char) Option Int := fun s =>
  match s.takeWhile Char.isAlpha with
  | [] =>
      match s with
      | sign :: a :: b :: c :: d :: rest =>
          if (sign = '+' ∨ sign = '-') ∧ [a, b, c, d].all Char.isDigit ∧ c < '6' then
            let seconds := valueOf [a, b] * 3600 + valueOf [c, d] * 60
            some (if sign = '-' then -(seconds : Int) else seconds, rest)
          else none
      | _ => none
  | name => (namedZone? name).map fun offset => (offset, s.dropWhile Char.isAlpha)

/-- Whether a text consists of comments with white space around them.  A comment stands in
parentheses and may hold comments; a backslash takes the meaning from the character after it.
`depth` comments are open at the start, and `escaped` says whether a backslash came before it. -/
def onlyComments : (depth : Nat) → (escaped : Bool) → List Char → Bool
  | 0, _, [] => true
  | _ + 1, _, [] => false
  | 0, _, c :: rest =>
      if c = '(' then onlyComments 1 false rest
      else Text.isBlank c && onlyComments 0 false rest
  | depth + 1, true, _ :: rest => onlyComments (depth + 1) false rest
  | depth + 1, false, c :: rest =>
      if c = '\\' then onlyComments (depth + 1) true rest
      else if c = '(' then onlyComments (depth + 2) false rest
      else if c = ')' then onlyComments depth false rest
      else onlyComments (depth + 1) false rest

/-- The day of the week in front of a date, which ends in a comma; it may be missing. -/
def leadingDay : StateT (List Char) Option (Option Nat) := fun s =>
  match shortDay s with
  | some (day, ',' :: rest) => some (some day, rest)
  | some _ => none
  | none => some (none, s)

/-- The seconds of a time, which may be missing. -/
def optionalSecond : StateT (List Char) Option Nat := fun s =>
  match s.dropWhile Text.isBlank with
  | ':' :: rest => number 2 2 rest
  | _ => some (0, s)

/-- The form `Sun, 06 Nov 1994 08:49:37 GMT`. -/
def preferred : StateT (List Char) Option Fields := do
  blanks
  let weekday ← leadingDay
  blanks
  let day ← number 1 2
  someBlanks
  let month ← month
  someBlanks
  let year ← mailYear
  someBlanks
  let hour ← number 2 2
  blanks
  expect ":"
  blanks
  let minute ← number 2 2
  let second ← optionalSecond
  someBlanks
  let offset ← zone
  return { weekday, date := { year, month, day }, hour, minute, second, offset }

/-! ### The obsolete forms -/

/-- A number of at most two digits, after white space. -/
def looseNumber : StateT (List Char) Option Nat := do
  blanks
  number 1 2

/-- The time of a day. -/
def looseTime : StateT (List Char) Option (Nat × Nat × Nat) := do
  let hour ← looseNumber
  expect ":"
  let minute ← looseNumber
  expect ":"
  let second ← looseNumber
  return (hour, minute, second)

/-- The form `Sunday, 06-Nov-94 08:49:37 GMT`; the years are those from 1970. -/
def hyphenated : StateT (List Char) Option Fields := do
  let weekday ← longDay
  expect ","
  blanks
  let day ← looseNumber
  expect "-"
  let month ← month
  expect "-"
  let year ← looseNumber
  let (hour, minute, second) ← looseTime
  blanks
  expect "GMT"
  let year : Int := if year < 70 then year + 2000 else year + 1900
  return { weekday := some weekday, date := { year, month, day }, hour, minute, second }

/-- A year of at most four digits, or of any number of digits after a sign. -/
def signedYear : StateT (List Char) Option Int := fun s =>
  match s.dropWhile Text.isBlank with
  | '+' :: rest => (digits 1 rest).map fun (found, rest) => (valueOf found, rest)
  | '-' :: rest => (digits 1 rest).map fun (found, rest) => (-(valueOf found : Int), rest)
  | rest => (number 1 4 rest).map fun (year, rest) => (year, rest)

/-- The form `Sun Nov  6 08:49:37 1994`. -/
def yearLast : StateT (List Char) Option Fields := do
  let weekday ← shortDay
  blanks
  let month ← month
  let day ← looseNumber
  let (hour, minute, second) ← looseTime
  let year ← signedYear
  return { weekday := some weekday, date := { year, month, day }, hour, minute, second }

/-! ### Reading and writing -/

/-- What a form reads from a whole text; `done` says what may be left over. -/
def readWith (form : StateT (List Char) Option Fields) (done : List Char → Bool)
    (s : List Char) : Option Instant := do
  let (fields, rest) ← form s
  if done rest then fields.toInstant? else none

/-- A text with a single space for each run of white space. -/
def squeezed (s : List Char) : List Char :=
  [' '].intercalate ((s.splitOnP Text.isBlank).filter fun word => !word.isEmpty)

/-- The instant that a date in a header means. -/
def parse? (s : String) : Option Instant :=
  let s := Text.trim Text.isBlank s.toList
  readWith preferred (onlyComments 0 false) s <|>
    readWith hyphenated List.isEmpty s <|>
    readWith yearLast List.isEmpty (squeezed s)

/-- A number with at least `width` digits. -/
def padded (width n : Nat) : String :=
  let digits := (toString n).toList
  String.ofList (List.replicate (width - digits.length) '0' ++ digits)

/-- A year with at least four digits, and with a sign if it is outside the years of four digits. -/
def renderYear (year : Int) : String :=
  if year < 0 then "-" ++ padded 4 year.natAbs
  else if 9999 < year then "+" ++ padded 4 year.natAbs
  else padded 4 year.natAbs

/-- An instant in the preferred form.  Within a leap second, the second is the sixtieth. -/
def render (instant : Instant) : String :=
  let date := instant.date
  let time := instant.secondOfDay
  let second := time % 60 + instant.nanoseconds / 1000000000
  dayNames.getD date.weekday "" ++ ", " ++ padded 2 date.day ++ " " ++
    monthNames.getD (date.month - 1) "" ++ " " ++ renderYear date.year ++ " " ++
    padded 2 (time / 3600) ++ ":" ++ padded 2 (time / 60 % 60) ++ ":" ++ padded 2 second ++
    " GMT"

end HttpDate
end WebDispatch
