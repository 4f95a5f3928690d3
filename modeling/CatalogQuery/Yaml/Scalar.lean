import CatalogQuery.Datum
import CatalogQuery.Number.Numeral

/-!
# Values of plain scalars

What a scalar that is neither quoted nor empty text stands for in YAML 1.1. A plain scalar is a
truth value, nothing, an integer in one of five notations, a decimal number, a date or a time if it
has the form of one, and a text otherwise. A scalar that has the form of a number or a date without
denoting one is refused (`scalar?` is `none`).

The notations of integers are decimal, octal after `0`, binary after `0b`, hexadecimal after `0x`,
and digits in base sixty parted by colons. Underscores may stand among the digits.
-/

namespace CatalogQuery.Yaml

/-- The words that stand for truth. -/
def trueWords : List String :=
  ["yes", "Yes", "YES", "true", "True", "TRUE", "on", "On", "ON"]

/-- The words that stand for falsehood. -/
def falseWords : List String :=
  ["no", "No", "NO", "false", "False", "FALSE", "off", "Off", "OFF"]

/-- The words that stand for nothing; an empty scalar does as well. -/
def nullWords : List String :=
  ["", "~", "null", "Null", "NULL"]

/-- An optional sign: whether it is a minus, and what follows. -/
def sign : List Char → Bool × List Char
  | '-' :: cs => (true, cs)
  | '+' :: cs => (false, cs)
  | cs => (false, cs)

/-- The characters without underscores. -/
def bare (cs : List Char) : List Char :=
  cs.filter (· != '_')

/-- A digit below `base`, or an underscore. -/
def inBase (base : Nat) (c : Char) : Bool :=
  c == '_' || (c.isDigit && c.toNat - 0x30 < base) ||
    (base == 16 && ('a' ≤ c && c ≤ 'f' || 'A' ≤ c && c ≤ 'F'))

/-- The value of a digit. -/
def digitValue (c : Char) : Nat :=
  if c.isDigit then c.toNat - 0x30 else (asciiLower c).toNat - 0x57

/-- The number that digits of a base denote; there must be one. -/
def digits? (base : Nat) (cs : List Char) : Option Nat :=
  if (bare cs).isEmpty || (base = 10 && integerDigitLimit < (bare cs).length) then none
  else some ((bare cs).foldl (fun n c ↦ n * base + digitValue c) 0)

/-- The parts of a numeral in base sixty after its first: one or two digits below sixty each. -/
def isSixty (cs : List Char) : Bool :=
  match cs with
  | [a] => a.isDigit
  | [a, b] => '0' ≤ a && a ≤ '5' && b.isDigit
  | _ => false

/-- The number that parts in base sixty denote. -/
def joinSixty (ns : List Nat) : Nat :=
  ns.foldl (fun n m ↦ n * 60 + m) 0

/-- The notation of an integer without sign, and the number that it denotes. The first level tells
whether the text has the form of an integer. -/
def unsignedInteger? (cs : List Char) : Option (Option Nat) :=
  match cs with
  | '0' :: 'b' :: ds => if !ds.isEmpty && ds.all (inBase 2) then some (digits? 2 ds) else none
  | '0' :: 'x' :: ds => if !ds.isEmpty && ds.all (inBase 16) then some (digits? 16 ds) else none
  | ['0'] => some (some 0)
  | '0' :: ds => if ds.all (inBase 8) then some (digits? 8 ('0' :: ds)) else none
  | d :: ds =>
    if !d.isDigit then none
    else if ds.all (inBase 10) then some (digits? 10 (d :: ds))
    else
      match splitAtChar ':' (d :: ds) with
      | first :: rest =>
        if first.all (inBase 10) && rest.all isSixty then
          some ((first :: rest).mapM (digits? 10) |>.map joinSixty)
        else none
      | [] => none
  | [] => none

/-- The exponent of a decimal number: its letter, a sign, and digits. -/
def isExponent : List Char → Bool
  | [] => true
  | e :: s :: ds =>
    (e == 'e' || e == 'E') && (s == '+' || s == '-') && !ds.isEmpty && ds.all Char.isDigit
  | _ => false

/-- The text has the form of a decimal number with a point. -/
def isDecimal (signed : Bool) (cs : List Char) : Bool :=
  let whole := cs.takeWhile (inBase 10)
  match cs.dropWhile (inBase 10) with
  | '.' :: after =>
    let fraction := after.takeWhile (inBase 10)
    isExponent (after.dropWhile (inBase 10)) &&
      (match whole, fraction with
       | d :: _, _ => d.isDigit
       | [], d :: _ => d.isDigit && !signed
       | [], [] => false)
  | _ => false

/-- The number that the parts of a numeral in base sixty with a point denote. -/
def sixtyDecimal? (negative : Bool) (cs : List Char) : Option Binary64 :=
  let whole := cs.takeWhile (· != '.')
  let fraction := bare ((cs.dropWhile (· != '.')).drop 1)
  match splitAtChar ':' whole with
  | first :: second :: rest =>
    if first.all (inBase 10) && (first.head?.any Char.isDigit) && (second :: rest).all isSixty &&
        fraction.all Char.isDigit && cs.contains '.' then
      let ns := (first :: second :: rest).map fun p ↦
        (bare p).foldl (fun n c ↦ n * 10 + digitValue c) 0
      let scale := Nat.pow 10 fraction.length
      let f := fraction.foldl (fun n c ↦ n * 10 + digitValue c) 0
      some (.ofRatio negative (joinSixty ns * scale + f) scale)
    else none
  | _ => none

/-- The decimal number that a text denotes, if it has the form of one. -/
def decimal? (cs : List Char) : Option Binary64 :=
  let (negative, rest) := sign cs
  let signed := rest.length < cs.length
  if [".inf", ".Inf", ".INF"].contains (String.ofList rest) then some (.inf negative)
  else if [".nan", ".NaN", ".NAN"].contains (String.ofList cs) then some .nan
  else if isDecimal signed rest then
    (Numeral.decimal? (codePoints (bare rest))).map fun (digits, exponent) ↦
      .ofDecimal negative digits exponent
  else sixtyDecimal? negative rest

/-! ### Dates -/

/-- The number of a group of `least` to `most` digits, and what follows. -/
def digitGroup? (least most : Nat) (cs : List Char) : Option (Nat × List Char) :=
  let ds := (cs.take most).takeWhile Char.isDigit
  if ds.length < least then none
  else some (ds.foldl (fun n c ↦ n * 10 + digitValue c) 0, cs.drop ds.length)

/-- What follows a character. -/
def after? (c : Char) : List Char → Option (List Char)
  | d :: cs => if c = d then some cs else none
  | [] => none

/-- The number of days of a month. -/
def daysInMonth (year month : Nat) : Nat :=
  if month = 2 then (if year % 4 = 0 && (year % 100 != 0 || year % 400 = 0) then 29 else 28)
  else if [4, 6, 9, 11].contains month then 30
  else 31

/-- The day exists. -/
def isDay (year month day : Nat) : Bool :=
  1 ≤ year && 1 ≤ month && month ≤ 12 && 1 ≤ day && day ≤ daysInMonth year month

/-- The offset of a time from that of the zero meridian: whether it is less than a day. -/
def zone? (cs : List Char) : Option Bool :=
  match cs.dropWhile (fun c ↦ c == ' ' || c == '\t') with
  | ['Z'] => some true
  | s :: rest =>
    if s == '+' || s == '-' then do
      let (hours, rest) ← digitGroup? 1 2 rest
      match rest with
      | [] => some (hours < 24)
      | ':' :: rest =>
        let (minutes, rest) ← digitGroup? 2 2 rest
        if rest.isEmpty then some (hours * 60 + minutes < 24 * 60) else none
      | _ => none
    else none
  | [] => if cs.isEmpty then some true else none

/-- The time of a day and its offset: whether it exists. -/
def clock? (cs : List Char) : Option Bool := do
  let (hour, cs) ← digitGroup? 1 2 cs
  let (minute, cs) ← digitGroup? 2 2 (← after? ':' cs)
  let (second, cs) ← digitGroup? 2 2 (← after? ':' cs)
  let rest :=
    match cs with
    | '.' :: cs => cs.dropWhile Char.isDigit
    | cs => cs
  return hour < 24 && minute < 60 && second < 60 && (← zone? rest)

/-- The class of a date or time, if the text has the form of one and that it exists. -/
def date? (cs : List Char) : Option (String × Bool) := do
  let (year, rest) ← digitGroup? 4 4 cs
  let (month, rest) ← digitGroup? 1 2 (← after? '-' rest)
  let (day, rest) ← digitGroup? 1 2 (← after? '-' rest)
  match rest with
  | [] => if cs.length = 10 then some ("date", isDay year month day) else none
  | c :: time =>
    let exact ←
      if c == 'T' || c == 't' then clock? time
      else if c == ' ' || c == '\t' then clock? (time.dropWhile fun c ↦ c == ' ' || c == '\t')
      else none
    some ("datetime", isDay year month day && exact)

/-! ### Scalars -/

/-- The value of a plain scalar. -/
def scalar? (points : List Nat) : Option Datum :=
  match Text.ofPoints points with
  | .broken ps => some (.text (.broken ps))
  | .str s =>
    let cs := s.toList
    if nullWords.contains s then some .null
    else if trueWords.contains s then some (.bool true)
    else if falseWords.contains s then some (.bool false)
    else
      match decimal? cs with
      | some x => some (.float x)
      | none =>
        let (negative, rest) := sign cs
        match unsignedInteger? rest with
        | some n => n.map fun n ↦ .int (if negative then -(n : Int) else n)
        | none =>
          match date? cs with
          | some (className, isValid) =>
            if isValid then some (.foreign { className } none) else none
          | none => if s = "=" || s = "<<" then none else some (.str s)

end CatalogQuery.Yaml
