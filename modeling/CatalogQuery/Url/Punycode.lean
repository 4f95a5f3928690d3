/-!
# Punycode

The ASCII form of a label of a domain name. The ASCII characters of the label come first, then a
hyphen, then one number for each other character, in increasing order of characters: the number of
places that a decoder has to go on before it inserts the character. A number is a list of digits in
base 36 whose weights adapt to the numbers before it. `encode` writes that form and `decode?` reads
it.
-/

namespace CatalogQuery.Punycode

/-- The digit of a value below 36: letters come before decimal digits. -/
def digit (d : Nat) : Char :=
  if d < 26 then Char.ofNat (0x61 + d) else Char.ofNat (0x30 + (d - 26))

/-- The least value that is not the last digit of a number at a position. -/
def threshold (bias position : Nat) : Nat :=
  min 26 (max 1 (position - bias))

theorem threshold_pos (bias position : Nat) : 0 < threshold bias position := by
  simp only [threshold]
  omega

/-- The digits of a number from a position on, the least significant one first. -/
def digits (bias position q : Nat) : List Char :=
  let t := threshold bias position
  if q < t then [digit q]
  else digit (t + (q - t) % (36 - t)) :: digits bias (position + 36) ((q - t) / (36 - t))
termination_by q
decreasing_by
  have h := threshold_pos bias position
  exact Nat.lt_of_le_of_lt (Nat.div_le_self _ _) (by omega)

/-- The bias after a number whose damped value is `delta`. -/
def settledBias (delta bias : Nat) : Nat :=
  if 455 < delta then settledBias (delta / 35) (bias + 36)
  else bias + 36 * delta / (delta + 38)
termination_by delta
decreasing_by exact Nat.div_lt_self (by omega) (by omega)

/-- The bias after the number `delta`, when `count` characters are in place. -/
def nextBias (delta count : Nat) (isFirst : Bool) : Nat :=
  let damped := if isFirst then delta / 700 else delta / 2
  settledBias (damped + damped / count) 0

/-- What the encoder knows between two characters. -/
structure State where
  /-- The digits so far. -/
  output : List Char
  /-- The places passed since the last insertion. -/
  delta : Nat
  /-- The bias of the next number. -/
  bias : Nat
  /-- The characters in place. -/
  count : Nat

/-- Passes one character of the label while `p` is inserted; `basic` characters were in place at the
start. -/
def State.pass (basic p : Nat) (s : State) (c : Char) : State :=
  if c.toNat < p then { s with delta := s.delta + 1 }
  else if c.toNat = p then
    { output := s.output ++ digits s.bias 36 s.delta
      delta := 0
      bias := nextBias s.delta (s.count + 1) (s.count == basic)
      count := s.count + 1 }
  else s

/-- Inserts the characters `ps`, which increase and are not below `least`. -/
def State.insertAll (label : List Char) (basic : Nat) : (least : Nat) → List Nat → State → State
  | _, [], s => s
  | least, p :: ps, s =>
    let ahead := { s with delta := s.delta + (p - least) * (s.count + 1) }
    let passed := label.foldl (State.pass basic p) ahead
    State.insertAll label basic (p + 1) ps { passed with delta := passed.delta + 1 }

/-- An ASCII character. -/
def isBasic (c : Char) : Bool :=
  c.toNat < 0x80

/-- The code points outside ASCII, increasing and without repetition. -/
def others (label : List Char) : List Nat :=
  (((label.filter fun c ↦ !isBasic c).map Char.toNat).mergeSort (· ≤ ·)).eraseDups

/-- The ASCII form of a label. -/
def encode (label : List Char) : List Char :=
  let basic := label.filter isBasic
  let start : State := { output := [], delta := 0, bias := 72, count := basic.length }
  let inserted := State.insertAll label basic.length 0x80 (others label) start
  basic ++ (if basic.isEmpty then [] else ['-']) ++ inserted.output

/-! ### Reading -/

/-- The value of a digit below 36. -/
def digitValue? (c : Char) : Option Nat :=
  if 'a' ≤ c && c ≤ 'z' then some (c.toNat - 0x61)
  else if 'A' ≤ c && c ≤ 'Z' then some (c.toNat - 0x41)
  else if c.isDigit then some (c.toNat - 0x30 + 26)
  else none

/-- The number that starts the text, added to `value`, and what follows it. The first digit has the
given weight. -/
def number? (bias : Nat) : (position weight value : Nat) → List Char → Option (Nat × List Char)
  | _, _, _, [] => none
  | position, weight, value, c :: cs =>
    match digitValue? c with
    | none => none
    | some d =>
      let t := threshold bias position
      if d < t then some (value + d * weight, cs)
      else number? bias (position + 36) (weight * (36 - t)) (value + d * weight) cs

theorem length_lt_of_number? {bias position weight value n : Nat} {cs rest : List Char}
    (h : number? bias position weight value cs = some (n, rest)) : rest.length < cs.length := by
  induction cs generalizing position weight value with
  | nil => simp [number?] at h
  | cons c cs ih =>
    simp only [number?] at h
    split at h
    · simp at h
    · split at h
      · simp only [Option.some.injEq, Prod.mk.injEq] at h
        obtain ⟨-, rfl⟩ := h
        simp
      · exact Nat.lt_succ_of_lt (ih h)

/-- A code point that is a character. -/
def isCharacter (p : Nat) : Bool :=
  p < 0xD800 || (0xDFFF < p && p < 0x110000)

/-- Inserts the characters that the numbers of the text tell. The next one is at least `least` and
goes to place `place` at the earliest. -/
def insertNumbers? (bias least place : Nat) (label : List Char) (cs : List Char) :
    Option (List Char) :=
  match cs with
  | [] => some label
  | c :: rest =>
    match h : number? bias 36 1 place (c :: rest) with
    | none => none
    | some (n, after) =>
      let count := label.length + 1
      let p := least + n / count
      if isCharacter p then
        insertNumbers? (nextBias (n - place) count (place == 0)) p (n % count + 1)
          (label.insertIdx (n % count) (Char.ofNat p)) after
      else none
termination_by cs.length
decreasing_by exact length_lt_of_number? h

/-- What stands before the last hyphen, and what follows it; without a hyphen all follows. -/
def cutLastHyphen (cs : List Char) : List Char × List Char :=
  match cs.reverse.dropWhile (· != '-') with
  | [] => ([], cs)
  | _ :: before => (before.reverse, (cs.reverse.takeWhile (· != '-')).reverse)

/-- The label of an ASCII form. -/
def decode? (form : List Char) : Option (List Char) :=
  let (basic, numbers) := cutLastHyphen form
  if form.all isBasic then insertNumbers? 72 0x80 0 basic numbers else none

end CatalogQuery.Punycode
