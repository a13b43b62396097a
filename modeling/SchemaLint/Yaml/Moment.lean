import SchemaLint.Yaml.Token

/-!
# Points in time

A date, or a date with a time of day and, if it says so, an offset from universal time.  Reading asks only for the shape;
whether there is such a date shows when it is written out again.
-/

namespace SchemaLint

namespace Yaml

/-- An offset from universal time. -/
structure Offset where
  negative : Bool
  minutes : Nat
  deriving DecidableEq

/-- A time of day. -/
structure Clock where
  hour : Nat
  minute : Nat
  second : Nat
  fraction : List Char
  offset : Option Offset
  deriving DecidableEq

/-- A point in time.  Month and day keep their digits, because only dates with two of each are recognised by their
shape. -/
structure Moment where
  year : Nat
  month : List Char
  day : List Char
  clock : Option Clock
  deriving DecidableEq

namespace Moment

def number (digits : List Char) : Nat :=
  digits.foldl (fun n c => n * 10 + (c.toNat - 48)) 0

/-- Between one and a number of digits, as many as there are, and the rest behind them. -/
def digits? (least most : Nat) (cs : List Char) : Option (List Char × List Char) :=
  let found := (cs.take most).takeWhile Char.isDigit
  if least ≤ found.length then some (found, cs.drop found.length) else none

/-- The rest behind a character that has to come. -/
def expect? (c : Char) : List Char → Option (List Char)
  | d :: rest => if d = c then some rest else none
  | [] => none

def offset? (cs : List Char) : Option (Option Offset) :=
  if cs.isEmpty then some none
  else
    match cs.dropWhile fun c => c = ' ' || c = '\t' with
    | ['Z'] => some (some ⟨false, 0⟩)
    | sign :: rest =>
      if sign = '+' || sign = '-' then do
        let (hours, rest) ← digits? 1 2 rest
        let minutes ←
          match rest with
          | [] => some 0
          | ':' :: rest => do
            let (minutes, rest) ← digits? 2 2 rest
            if rest.isEmpty then some (number minutes) else none
          | _ => none
        return some ⟨sign = '-', number hours * 60 + minutes⟩
      else none
    | [] => none

/-- A time of day to the end. -/
def clock? (cs : List Char) : Option Clock := do
  let (hour, rest) ← digits? 1 2 cs
  let (minute, rest) ← digits? 2 2 (← expect? ':' rest)
  let (second, rest) ← digits? 2 2 (← expect? ':' rest)
  let (fraction, rest) : List Char × List Char :=
    match rest with
    | '.' :: rest => (rest.takeWhile Char.isDigit, rest.dropWhile Char.isDigit)
    | rest => ([], rest)
  let offset ← offset? rest
  return ⟨number hour, number minute, number second, fraction, offset⟩

def read? (cs : List Char) : Option Moment := do
  let (year, rest) ← digits? 4 4 cs
  let (month, rest) ← digits? 1 2 (← expect? '-' rest)
  let (day, rest) ← digits? 1 2 (← expect? '-' rest)
  match rest with
  | [] => return ⟨number year, month, day, none⟩
  | c :: rest =>
    if c = 'T' || c = 't' then return ⟨number year, month, day, ← clock? rest⟩
    else if c = ' ' || c = '\t' then
      return ⟨number year, month, day, ← clock? (rest.dropWhile fun c => c = ' ' || c = '\t')⟩
    else none

/-- Whether characters have the shape of a point in time: a date alone has two digits for month and day. -/
def isShape (cs : List Char) : Bool :=
  match read? cs with
  | some m => m.clock.isSome || (m.month.length = 2 && m.day.length = 2)
  | none => false

/-! ## Writing -/

def isLeap (year : Nat) : Bool :=
  year % 4 = 0 && (year % 100 != 0 || year % 400 = 0)

def daysIn (year month : Nat) : Nat :=
  if month = 2 then (if isLeap year then 29 else 28)
  else if month = 4 || month = 6 || month = 9 || month = 11 then 30 else 31

def padded (width n : Nat) : String :=
  let digits := Nat.toDigits 10 n
  String.ofList (List.replicate (width - digits.length) '0' ++ digits)

def dateText? (m : Moment) : Option String :=
  let month := number m.month
  let day := number m.day
  if 1 ≤ m.year && 1 ≤ month && month ≤ 12 && 1 ≤ day && day ≤ daysIn m.year month then
    some s!"{padded 4 m.year}-{padded 2 month}-{padded 2 day}"
  else none

/-- The six digits of a fraction, which are left out if all of them are zeros. -/
def fractionText (digits : List Char) : String :=
  let six := (digits ++ List.replicate 6 '0').take 6
  if six.all (· = '0') then "" else String.ofList ('.' :: six)

def Offset.text? (o : Offset) : Option String :=
  if o.minutes < 1440 then
    let sign := if o.negative && o.minutes != 0 then "-" else "+"
    some s!"{sign}{padded 2 (o.minutes / 60)}:{padded 2 (o.minutes % 60)}"
  else none

/-- The time of day, if there is such a time. -/
def Clock.text? (c : Clock) : Option String := do
  let offset ←
    match c.offset with
    | some o => Offset.text? o
    | none => some ""
  if c.hour < 24 && c.minute < 60 && c.second < 60 then
    some s!"{padded 2 c.hour}:{padded 2 c.minute}:{padded 2 c.second}{fractionText c.fraction}{offset}"
  else none

/-- The point in time with the largest unit first, if there is such a point. -/
def text? (m : Moment) : Option String := do
  let date ← m.dateText?
  match m.clock with
  | none => return date
  | some c => do
    let time ← Clock.text? c
    return s!"{date}T{time}"

end Moment

end Yaml

end SchemaLint
