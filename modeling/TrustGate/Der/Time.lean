import TrustGate.Der.Element

/-!
# Times

The two time types of a certificate. Both are decimal digits followed by a
zone. UTCTime has a two digit year, of which 50 and later are in the twentieth
century, and may leave out the seconds; GeneralizedTime has a four digit year,
may have a point with at most three digits of a second, and must end in the
letter Z. A time stands only for an existing day of the calendar, and a zone
for at most twenty-five hours and fifty-nine minutes from Greenwich.
-/

namespace TrustGate.Der

/-- A point in time, with the distance of its zone from Greenwich in minutes. -/
structure Time where
  year : Nat
  month : Nat
  day : Nat
  hour : Nat
  minute : Nat
  second : Nat
  zone : Int
deriving Repr, DecidableEq

namespace Time

def isLeap (year : Nat) : Bool :=
  year % 4 == 0 && (year % 100 != 0 || year % 400 == 0)

/-- The number of days of a month, zero if there is no such month. -/
def daysIn (year month : Nat) : Nat :=
  match month with
  | 2 => if isLeap year then 29 else 28
  | 4 | 6 | 9 | 11 => 30
  | 1 | 3 | 5 | 7 | 8 | 10 | 12 => 31
  | _ => 0

def isValid (time : Time) : Bool :=
  1 ≤ time.day && time.day ≤ daysIn time.year time.month && time.hour ≤ 23 &&
    time.minute ≤ 59 && time.second ≤ 59

def digit? (byte : UInt8) : Option Nat :=
  if 0x30 ≤ byte ∧ byte ≤ 0x39 then some (byte.toNat - 0x30) else none

def readPair : Bytes → Option (Nat × Bytes)
  | high :: low :: rest => do
      let high ← digit? high
      let low ← digit? low
      return (high * 10 + low, rest)
  | _ => none

/-- Reads the distance of a zone: the letter Z, or a sign, hours and minutes. -/
def readZone : Bytes → Option Int
  | [0x5A] => some 0
  | sign :: rest => do
      let (hours, rest) ← readPair rest
      let (minutes, rest) ← readPair rest
      guard (rest.isEmpty && hours ≤ 25 && minutes ≤ 59)
      let distance : Int := hours * 60 + minutes
      if sign = 0x2B then some distance else if sign = 0x2D then some (-distance) else none
  | [] => none

/-- Reads seconds where two more bytes or more stand; a single byte is left for the zone. -/
def readSeconds : Bytes → Option (Nat × Bytes)
  | first :: second :: rest => readPair (first :: second :: rest)
  | [only] => some (0, [only])
  | [] => none

/-- Passes over the fraction of a second: a point and at most three digits. -/
def skipFraction : Bytes → Option Bytes
  | 0x2E :: rest =>
      let count := (rest.takeWhile fun byte => (digit? byte).isSome).length
      if count ≤ 3 then some (rest.drop count) else none
  | rest => some rest

def ofUtc? (content : Bytes) : Option Time := do
  let (year, rest) ← readPair content
  let (month, rest) ← readPair rest
  let (day, rest) ← readPair rest
  let (hour, rest) ← readPair rest
  let (minute, rest) ← readPair rest
  let (second, rest) ← readSeconds rest
  let zone ← readZone rest
  let year := if 50 ≤ year then 1900 + year else 2000 + year
  let time : Time := ⟨year, month, day, hour, minute, second, zone⟩
  guard time.isValid
  return time

def ofGeneralized? (content : Bytes) : Option Time := do
  guard (content.getLast? == some 0x5A)
  let (century, rest) ← readPair content
  let (year, rest) ← readPair rest
  let (month, rest) ← readPair rest
  let (day, rest) ← readPair rest
  let (hour, rest) ← readPair rest
  let (minute, rest) ← readPair rest
  let (second, rest) ← readSeconds rest
  let rest ← skipFraction rest
  let zone ← readZone rest
  let time : Time := ⟨century * 100 + year, month, day, hour, minute, second, zone⟩
  guard time.isValid
  return time

def read (bytes : Bytes) : Option (Time × Bytes) := do
  let (element, rest) ← readElement bytes
  let time ←
    if element.header.tag = Tag.utcTime then ofUtc? element.content
    else if element.header.tag = Tag.generalizedTime then ofGeneralized? element.content
    else none
  return (time, rest)

end Time

end TrustGate.Der
