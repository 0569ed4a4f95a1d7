/-!
Dates and times in TOML.

A moment is a date, a time, or both; only a moment with both may name an offset from universal
time.
-/

set_option autoImplicit false
set_option relaxedAutoImplicit false

namespace ProfileShell.Toml

structure Date where
  year : Nat
  month : Nat
  day : Nat
  deriving DecidableEq

structure Time where
  hour : Nat
  minute : Nat
  second : Nat
  fraction : List Char
  deriving DecidableEq

/-- A point in time, as far as it is given. -/
inductive Moment
  | date (d : Date)
  | time (t : Time)
  /-- A date and a time, with an offset in minutes if there is one. -/
  | both (d : Date) (t : Time) (offset : Option Int)
  deriving DecidableEq

def isLeapYear (year : Nat) : Bool :=
  year % 4 == 0 && (year % 100 != 0 || year % 400 == 0)

def daysInMonth (year month : Nat) : Nat :=
  if month = 2 then (if isLeapYear year then 29 else 28)
  else if month = 4 ∨ month = 6 ∨ month = 9 ∨ month = 11 then 30
  else 31

def Date.isValid (d : Date) : Bool :=
  1 ≤ d.month && d.month ≤ 12 && 1 ≤ d.day && d.day ≤ daysInMonth d.year d.month

def Time.isValid (t : Time) : Bool :=
  t.hour ≤ 23 && t.minute ≤ 59 && t.second ≤ 60

def digits? (count : Nat) (cs : List Char) : Option (Nat × List Char) :=
  let digits := cs.take count
  if digits.length = count ∧ digits.all Char.isDigit then
    some (Nat.ofDigitChars 10 digits 0, cs.drop count)
  else none

def after? (c : Char) : List Char → Option (List Char)
  | [] => none
  | d :: cs => if d = c then some cs else none

def date? (cs : List Char) : Option (Date × List Char) := do
  let (year, cs) ← digits? 4 cs
  let cs ← after? '-' cs
  let (month, cs) ← digits? 2 cs
  let cs ← after? '-' cs
  let (day, cs) ← digits? 2 cs
  let d : Date := ⟨year, month, day⟩
  if d.isValid then some (d, cs) else none

/-- The digits after a point, if a point and a digit come next. -/
def fraction : List Char → List Char × List Char
  | '.' :: cs =>
    let digits := cs.takeWhile Char.isDigit
    if digits.isEmpty then ([], '.' :: cs) else (digits, cs.dropWhile Char.isDigit)
  | cs => ([], cs)

def time? (cs : List Char) : Option (Time × List Char) := do
  let (hour, cs) ← digits? 2 cs
  let cs ← after? ':' cs
  let (minute, cs) ← digits? 2 cs
  let cs ← after? ':' cs
  let (second, cs) ← digits? 2 cs
  let (digits, cs) := fraction cs
  let t : Time := ⟨hour, minute, second, digits⟩
  if t.isValid then some (t, cs) else none

def minutes? (cs : List Char) : Option (Int × List Char) := do
  let (hour, cs) ← digits? 2 cs
  let cs ← after? ':' cs
  let (minute, cs) ← digits? 2 cs
  if hour ≤ 23 ∧ minute ≤ 59 then some ((hour * 60 + minute : Nat), cs) else none

/-- An offset from universal time and what follows it. -/
def offset? : List Char → Option (Int × List Char)
  | 'Z' :: cs => some (0, cs)
  | 'z' :: cs => some (0, cs)
  | '+' :: cs => minutes? cs
  | '-' :: cs => (minutes? cs).map fun (n, rest) => (-n, rest)
  | _ => none

def isDelimiter (c : Char) : Bool :=
  c == 'T' || c == 't' || c == ' '

/-- The time that goes with a date, if one comes next. -/
def timeOfDate (d : Date) : List Char → Moment × List Char
  | [] => (.date d, [])
  | c :: cs =>
    match if isDelimiter c then time? cs else none with
    | none => (.date d, c :: cs)
    | some (t, rest) =>
      match offset? rest with
      | some (offset, rest) => (.both d t (some offset), rest)
      | none => (.both d t none, rest)

def moment? (cs : List Char) : Option (Moment × List Char) :=
  match date? cs with
  | some (d, rest) => some (timeOfDate d rest)
  | none => (time? cs).map fun (t, rest) => (.time t, rest)

end ProfileShell.Toml
