/-!
Dates and times in settings: a date, a time of day, or both, the latter with an optional offset from
universal time. Each has one written form, so a reader returns that form and what follows it.
-/

namespace SqlSchema.Moment

/-- A moment at the front of a text in its written form, and what follows it. -/
abbrev Split := List Char → Option (List Char × List Char)

/-! ## Parts -/

/-- The value of `count` digits at the front of a text, if it lies between two bounds. -/
def splitNumber (count low high : Nat) (chars : List Char) : Option (Nat × List Char) :=
  let digits := chars.take count
  let value := digits.foldl (fun value digit => 10 * value + (digit.toNat - '0'.toNat)) 0
  if digits.length = count && digits.all Char.isDigit && low ≤ value && value ≤ high then
    some (value, chars.drop count)
  else none

/-- What follows `mark`. -/
def dropMark? (mark : Char) : List Char → Option (List Char)
  | char :: rest => if char = mark then some rest else none
  | [] => none

/-- The number of days in a month. -/
def daysIn (year month : Nat) : Nat :=
  if month = 2 then
    if year % 4 = 0 && (year % 100 != 0 || year % 400 = 0) then 29 else 28
  else if [4, 6, 9, 11].contains month then 30
  else 31

/-- The characters of `chars` before `rest`, where `rest` is what follows them. -/
def run (chars rest : List Char) : List Char :=
  chars.take (chars.length - rest.length)

/-! ## Dates and times -/

/-- A date such as `1999-12-31`. -/
def splitDate : Split := fun chars => do
  let (year, rest) ← splitNumber 4 0 9999 chars
  let (month, rest) ← splitNumber 2 1 12 (← dropMark? '-' rest)
  let (_, rest) ← splitNumber 2 1 (daysIn year month) (← dropMark? '-' rest)
  return (run chars rest, rest)

/-- The places of a second: a point and at least one digit. Nine digits count, and zeros at the end
are not written. -/
def splitPlaces : Split
  | '.' :: rest =>
    let digits := rest.takeWhile Char.isDigit
    let places := ((digits.take 9).reverse.dropWhile (· == '0')).reverse
    if digits.isEmpty then none
    else some (if places.isEmpty then [] else '.' :: places, rest.dropWhile Char.isDigit)
  | chars => some ([], chars)

/-- A time of day such as `23:59:59.5`; a minute may have a leap second. -/
def splitTime : Split := fun chars => do
  let (_, rest) ← splitNumber 2 0 23 chars
  let (_, rest) ← splitNumber 2 0 59 (← dropMark? ':' rest)
  let (_, rest) ← splitNumber 2 0 60 (← dropMark? ':' rest)
  let (places, after) ← splitPlaces rest
  return (run chars rest ++ places, after)

/-- The offset of a time: `Z`, or a sign with hours and minutes. An offset of nothing is written
with a plus. -/
def splitOffset : Split
  | 'Z' :: rest | 'z' :: rest => some (['Z'], rest)
  | chars =>
    match chars with
    | sign :: tail =>
      if sign = '+' || sign = '-' then do
        let (hours, rest) ← splitNumber 2 0 23 tail
        let (minutes, rest) ← splitNumber 2 0 59 (← dropMark? ':' rest)
        let sign := if hours = 0 && minutes = 0 then '+' else sign
        return (sign :: run tail rest, rest)
      else some ([], chars)
    | [] => some ([], [])

/-- What may follow a date: a letter or a space, a time of day and an offset. A space that no time
follows does not belong to the date. -/
def splitAfterDate : Split
  | 'T' :: rest | 't' :: rest => do
    let (time, rest) ← splitTime rest
    let (offset, rest) ← splitOffset rest
    return ('T' :: time ++ offset, rest)
  | ' ' :: digit :: rest =>
    if digit.isDigit then do
      let (time, rest) ← splitTime (digit :: rest)
      let (offset, rest) ← splitOffset rest
      return ('T' :: time ++ offset, rest)
    else some ([], ' ' :: digit :: rest)
  | chars => some ([], chars)

/-- A moment. -/
def split : Split := fun chars =>
  match splitDate chars with
  | some (date, rest) => do
    let (time, rest) ← splitAfterDate rest
    return (date ++ time, rest)
  | none => splitTime chars

example :
    ["1999-12-31", "2000-02-29 08:30:00.250z", "23:59:60.0", "2024-01-01t00:00:00-00:00"].map
        (fun text => (split text.toList).map fun (moment, _) => String.ofList moment) =
      [some "1999-12-31", some "2000-02-29T08:30:00.25Z", some "23:59:60",
        some "2024-01-01T00:00:00+00:00"] := by
  decide +kernel

example : ["1900-02-29", "2000-13-01", "24:00:00", "12:30", "1999-1-1"].map
    (fun text => (split text.toList).isSome) = [false, false, false, false, false] := by
  decide +kernel

end SqlSchema.Moment
