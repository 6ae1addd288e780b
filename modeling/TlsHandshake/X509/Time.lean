import TlsHandshake.X509.Element

set_option autoImplicit false

/-! # Times in a certificate (RFC 5280 §4.1.2.5, X.680 §46, §47)

A UTCTime has a year of two digits, a GeneralizedTime one of four. Seconds may be left out before
the zone. The date must exist in the calendar. -/

namespace TlsHandshake.X509.Time

/-- The number two decimal digits spell. -/
def twoDigits (a b : UInt8) : Option Nat :=
  let digit := fun (c : UInt8) => 0x30 ≤ c && c ≤ 0x39
  if digit a && digit b then some ((a.toNat - 0x30) * 10 + (b.toNat - 0x30)) else none

/-- The days of a month. -/
def daysIn (year month : Nat) : Nat :=
  if month = 2 then
    if year % 4 = 0 && (year % 100 != 0 || year % 400 = 0) then 29 else 28
  else if [4, 6, 9, 11].contains month then 30 else 31

/-- Whether a day is in the calendar. -/
def isDate (year month day : Nat) : Bool :=
  1 ≤ month && month ≤ 12 && 1 ≤ day && day ≤ daysIn year month

/-- Whether the bytes are a time zone: `Z`, or a sign, hours and minutes. -/
def isZone (bytes : Bytes) : Bool :=
  match bytes with
  | [0x5a] => true
  | [sign, h1, h2, m1, m2] =>
      (sign = 0x2b || sign = 0x2d)
        && ((twoDigits h1 h2).any (· ≤ 25)) && ((twoDigits m1 m2).any (· ≤ 59))
  | _ => false

/-- Reads month, day, hour, minute and seconds if present, and checks all but the calendar; answers
    with month, day and what follows. -/
def clock? (bytes : Bytes) : Option (Nat × Nat × Bytes) :=
  match bytes with
  | o1 :: o2 :: d1 :: d2 :: h1 :: h2 :: m1 :: m2 :: rest => do
      let month ← twoDigits o1 o2
      let day ← twoDigits d1 d2
      let hour ← twoDigits h1 h2
      let minute ← twoDigits m1 m2
      let (second, rest) ← match rest with
        | [] => none
        | s1 :: s2 :: rest => (twoDigits s1 s2).map (·, rest)
        | rest => some (0, rest)
      if hour ≤ 23 && minute ≤ 59 && second ≤ 59 then return (month, day, rest) else none
  | _ => none

/-- Whether the bytes are a UTCTime: years from 50 on are in the twentieth century. -/
def isUtcTime (bytes : Bytes) : Bool :=
  match bytes with
  | y1 :: y2 :: rest =>
      match twoDigits y1 y2, clock? rest with
      | some year, some (month, day, zone) =>
          isDate (if 50 ≤ year then 1900 + year else 2000 + year) month day && isZone zone
      | _, _ => false
  | _ => false

/-- What follows a fraction of a second, which is a point and at most three digits, or nothing. -/
def afterFraction (bytes : Bytes) : Option Bytes :=
  match bytes with
  | 0x2e :: rest =>
      let digits := rest.takeWhile fun c => 0x30 ≤ c && c ≤ 0x39
      if digits.length ≤ 3 then some (rest.drop digits.length) else none
  | rest => some rest

/-- Whether the bytes are a GeneralizedTime, which ends in `Z`. -/
def isGeneralizedTime (bytes : Bytes) : Bool :=
  match bytes with
  | y1 :: y2 :: y3 :: y4 :: rest =>
      match twoDigits y1 y2, twoDigits y3 y4, clock? rest with
      | some century, some year, some (month, day, rest) =>
          isDate (100 * century + year) month day && (afterFraction rest == some [0x5a])
      | _, _, _ => false
  | _ => false

/-- A time of either form. -/
def time : Tlv Unit := do
  let e ← Tlv.element
  if e.number = 23 then
    if isUtcTime e.content then return () else failure
  else if e.number = 24 then
    if isGeneralizedTime e.content then return () else failure
  else failure

end TlsHandshake.X509.Time
