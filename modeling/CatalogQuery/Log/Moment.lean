import CatalogQuery.Failure
import CatalogQuery.Number.Rounded

/-!
# Moments

The date and the time of a number of seconds since the beginning of 1970, on the meridian of zero
and in the Gregorian calendar, which is extended to all years. Moments are written in two forms:
`iso` with the microseconds if there are any, and `plain` with whole seconds.

The time zone of the machine is left out: a log tells the local time, and local time is taken to be
that of the meridian of zero.
-/

namespace CatalogQuery

/-- A date and time. -/
structure Moment where
  year : Int
  month : Nat
  day : Nat
  /-- The seconds since midnight. -/
  second : Nat
  /-- The millionths of the second that have passed. -/
  micros : Nat := 0
  deriving DecidableEq, Repr

namespace Moment

/-- The days from the first of March of the year zero to the beginning of 1970. -/
def epochDays : Int := 719468

/-- The days of four hundred years. -/
def eraDays : Nat := 146097

/-- The year of an era of four hundred years that a day of it falls into; years begin in March. -/
def yearOfEra (day : Nat) : Nat :=
  (day - day / 1460 + day / 36524 - day / 146096) / 365

/-- The moment that begins a number of seconds after the beginning of 1970. -/
def ofSeconds (seconds : Int) : Moment :=
  let days := seconds.fdiv 86400 + epochDays
  let dayOfEra := (days.fmod eraDays).toNat
  let year := yearOfEra dayOfEra
  let dayOfYear := dayOfEra - (365 * year + year / 4 - year / 100)
  let marchMonth := (5 * dayOfYear + 2) / 153
  let month := if marchMonth < 10 then marchMonth + 3 else marchMonth - 9
  { year := year + days.fdiv eraDays * 400 + (if month ≤ 2 then 1 else 0)
    month
    day := dayOfYear - (153 * marchMonth + 2) / 5 + 1
    second := (seconds.fmod 86400).toNat }

/-! ### From numbers of seconds -/

/-- The largest number of seconds, of either sign, that can be told. -/
def secondsLimit : Int := Nat.pow 2 63

/-- The years that can be told lie less than this from 1900. -/
def yearLimit : Int := Nat.pow 2 31

/-- The moment of a number of seconds, if it can be told. -/
def tell (seconds : Int) : Except Fault Moment :=
  if seconds < -secondsLimit || secondsLimit ≤ seconds then .error .overflow
  else
    let m := ofSeconds seconds
    if m.year - 1900 < -yearLimit || yearLimit ≤ m.year - 1900 then .error .system else .ok m

/-- The moment in which a time falls, to the second. -/
def floor (time : Binary64) : Except Fault Moment :=
  match time with
  | .nan => .error .badValue
  | .inf _ => .error .overflow
  | .finite s m e _ => tell ((Binary64.scaled s m e).fdiv (Nat.pow 2 Binary64.unitScale))

/-- A time as whole seconds and millionths of a second. The fraction is multiplied as a binary64
number, and rounded with a half going to the even neighbour. -/
def split (negative : Bool) (mantissa exponent : Nat) : Int × Nat :=
  let unit := Nat.pow 2 Binary64.unitScale
  let whole := mantissa * Nat.pow 2 exponent / unit
  let fraction := mantissa * Nat.pow 2 exponent % unit
  let micros :=
    match Binary64.ofRatio false (fraction * 1000000) unit with
    | .finite _ m e _ =>
      let (num, den) := Binary64.ratio m e
      roundDiv num den
    | _ => 0
  let total : Int := whole * 1000000 + micros
  let signed := if negative then -total else total
  (signed.fdiv 1000000, (signed.fmod 1000000).toNat)

/-- The end of the first day of the first year, in seconds; no time before it can be written. -/
def firstSecond : Int := -62135510400

/-- The moment of a time, to the microsecond. It lies in the years from 1 to 9999, and not on the
first day of these. -/
def ofTime (time : Binary64) : Except Fault Moment :=
  match time with
  | .nan => .error .badValue
  | .inf _ => .error .overflow
  | .finite s mantissa exponent _ => do
    let (seconds, micros) := split s mantissa exponent
    let m ← tell seconds
    if seconds < firstSecond || 9999 < m.year then .error .badValue else return { m with micros }

/-! ### Texts -/

/-- A number with at least `width` digits. -/
def digits (width n : Nat) : String :=
  String.ofList (Binary64.paddedDigits width n)

/-- The time of the day. -/
def clock (m : Moment) : String :=
  digits 2 (m.second / 3600) ++ ":" ++ digits 2 (m.second / 60 % 60) ++ ":" ++
    digits 2 (m.second % 60)

/-- The month and the day. -/
def monthDay (m : Moment) : String :=
  digits 2 m.month ++ "-" ++ digits 2 m.day

/-- The form with a letter between date and time. -/
def iso (m : Moment) : String :=
  digits 4 m.year.toNat ++ "-" ++ m.monthDay ++ "T" ++ m.clock ++
    (if m.micros = 0 then "" else "." ++ digits 6 m.micros)

/-- The form with a blank between date and time. -/
def plain (m : Moment) : String :=
  integerText m.year ++ "-" ++ m.monthDay ++ " " ++ m.clock

end Moment

end CatalogQuery
