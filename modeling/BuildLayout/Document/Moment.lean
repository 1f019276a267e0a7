import BuildLayout.Decimal.Numeral

/-! # Dates and times

    A moment is a date of the calendar, a time of day, or both, and with both perhaps an
    offset from universal time.  The readers take a written moment apart and refuse what no
    calendar or clock shows; a leap second is allowed. -/

namespace BuildLayout.Document

/-- A day of the calendar. -/
structure Date where
  year : Nat
  month : Nat
  day : Nat
  deriving DecidableEq, Repr

/-- A time of day. -/
structure Time where
  hour : Nat
  minute : Nat
  second : Nat
  nanosecond : Nat
  deriving DecidableEq, Repr

/-- The distance of a clock from universal time. -/
inductive Offset where
  | universal
  | minutes (east : Int)
  deriving DecidableEq, Repr

/-- A point in time, as far as it is given. -/
inductive Moment where
  | date (d : Date)
  | time (t : Time)
  | both (d : Date) (t : Time) (offset : Option Offset)
  deriving DecidableEq, Repr

/-! ## Text -/

/-- The numeral with zeros in front, up to the given width. -/
def padded (width n : Nat) : List Char :=
  let digits := Nat.toDigits 10 n
  List.replicate (width - digits.length) '0' ++ digits

/-- The date with four digits for the year and two for month and day. -/
def Date.text (d : Date) : List Char :=
  padded 4 d.year ++ '-' :: padded 2 d.month ++ '-' :: padded 2 d.day

/-- The time with two digits for each part, and the fraction of the second as far as it is
    not zero. -/
def Time.text (t : Time) : List Char :=
  let fraction :=
    if t.nanosecond = 0 then []
    else '.' :: ((padded 9 t.nanosecond).reverse.dropWhile (· == '0')).reverse
  padded 2 t.hour ++ ':' :: padded 2 t.minute ++ ':' :: padded 2 t.second ++ fraction

/-- The offset, with a sign and two digits for hours and minutes. -/
def Offset.text : Offset → List Char
  | .universal => ['Z']
  | .minutes east =>
    (if east < 0 then '-' else '+') :: padded 2 (east.natAbs / 60) ++
      ':' :: padded 2 (east.natAbs % 60)

/-- The moment in one form of writing. -/
def Moment.text : Moment → String
  | .date d => String.ofList d.text
  | .time t => String.ofList t.text
  | .both d t offset =>
    String.ofList (d.text ++ 'T' :: t.text ++ (offset.map Offset.text).getD [])

/-! ## Reading -/

/-- A number of the given count of digits, and what follows it. -/
def digits? : Nat → List Char → Option (Nat × List Char)
  | 0, s => some (0, s)
  | count + 1, s => do
    let c :: rest := s | none
    let d ← Numeral.digit? 10 c
    let (n, rest) ← digits? count rest
    return (d * Nat.pow 10 count + n, rest)

/-- What follows the given character. -/
def after? (c : Char) : List Char → Option (List Char)
  | [] => none
  | d :: rest => if d = c then some rest else none

/-- Whether the year has a 29th of February. -/
def isLeapYear (year : Nat) : Bool := year % 4 == 0 && (year % 100 != 0 || year % 400 == 0)

/-- The number of days in a month. -/
def daysInMonth (year month : Nat) : Nat :=
  if month = 2 then (if isLeapYear year then 29 else 28)
  else if month ∈ [4, 6, 9, 11] then 30
  else 31

/-- A date at the start of the text. -/
def Date.read (s : List Char) : Option (Date × List Char) := do
  let (year, s) ← digits? 4 s
  let (month, s) ← digits? 2 (← after? '-' s)
  let (day, s) ← digits? 2 (← after? '-' s)
  if 1 ≤ month ∧ month ≤ 12 ∧ 1 ≤ day ∧ day ≤ daysInMonth year month then
    return (⟨year, month, day⟩, s)
  else none

/-- The nanoseconds that the digits behind a decimal point stand for; what is finer is cut
    off. -/
def nanoseconds (fraction : List Char) : Nat :=
  let kept := fraction.take 9
  ((Numeral.natural? 10 kept).getD 0) * Nat.pow 10 (9 - kept.length)

/-- A time of day at the start of the text. -/
def Time.read (s : List Char) : Option (Time × List Char) := do
  let (hour, s) ← digits? 2 s
  let (minute, s) ← digits? 2 (← after? ':' s)
  let (second, s) ← digits? 2 (← after? ':' s)
  if 23 < hour ∨ 59 < minute ∨ 60 < second then none
  else
    match s with
    | '.' :: rest =>
      let fraction := rest.takeWhile Numeral.isDigit
      if fraction.isEmpty then none
      else
        return (⟨hour, minute, second, nanoseconds fraction⟩, rest.dropWhile Numeral.isDigit)
    | _ => return (⟨hour, minute, second, 0⟩, s)

/-- Hours and minutes at the start of the text, as minutes. -/
def clockMinutes? (s : List Char) : Option (Nat × List Char) := do
  let (hour, s) ← digits? 2 s
  let (minute, s) ← digits? 2 (← after? ':' s)
  if 23 < hour ∨ 59 < minute then none else return (hour * 60 + minute, s)

/-- The offset that the whole text stands for, if it is not empty. -/
def offset? : List Char → Option (Option Offset)
  | [] => some none
  | ['Z'] | ['z'] => some (some .universal)
  | '+' :: s => do
    let (n, []) ← clockMinutes? s | none
    return some (.minutes n)
  | '-' :: s => do
    let (n, []) ← clockMinutes? s | none
    return some (.minutes (-(n : Int)))
  | _ => none

/-- The date and the time, with an offset if there is one, that the whole text stands for
    when it follows a date. -/
def timeOn? (d : Date) (s : List Char) : Option Moment := do
  let (t, rest) ← Time.read s
  let offset ← offset? rest
  return .both d t offset

/-- The moment that the whole text stands for. -/
def moment? (s : List Char) : Option Moment :=
  match Date.read s with
  | some (d, []) => some (.date d)
  | some (d, 'T' :: rest) | some (d, 't' :: rest) => timeOn? d rest
  | some _ => none
  | none =>
    match Time.read s with
    | some (t, []) => some (.time t)
    | _ => none

end BuildLayout.Document
