import CatalogQuery.Json.Reader

/-!
# Tokens of documents

The lexical grammar of GraphQL, as a function from characters to tokens. Nothing here knows how
documents are written: `tokens?` reads every text of the grammar, and refuses every other.

Blanks, line ends, commas and comments separate tokens and are dropped. Each token is the
**longest** one that stands at its place, and a number has to end before anything that could
continue it. A string between single quotation marks holds no line end; its escapes name code units,
and the halves of a surrogate pair have to stand next to each other. A string between triple marks
is a block, of which the common indentation and the blank lines at both ends are dropped.

`token?` reads one token and `token?_length_lt` says that it takes a character away, which is all
that the recursion of `tokens?` rests on.

## Why it is written once more

The documents are made by writers that join texts, and a claim about what a document **means** needs
a reader that owes nothing to them. The grammar here is therefore the grammar of the language and
not an inverse of the writers: it reads strings with escapes that are never written, numbers in
every layout, and comments. That what is written is read back is proved of it elsewhere, text by
text.

## The form of the readers

Each reader answers the value that it found together with what follows, and nothing if there is no
such value at its place. None of them looks back, so what a reader answers depends on the text from
its place on only. The readers of strings and blocks are structural; only `tokens?` is not, since it
goes on behind a token of any length.
-/

namespace CatalogQuery.Grammar

/-- A token, with the value that it denotes. -/
inductive Token where
  /-- A punctuator of one character. -/
  | punctuator (c : Char)
  /-- The punctuator of three dots. -/
  | spread
  /-- A name. -/
  | name (n : String)
  /-- An integer, which has neither a fraction nor an exponent. -/
  | int (n : Int)
  /-- A number with a fraction or an exponent. -/
  | float (x : Binary64)
  /-- A string, with what its escapes denote. -/
  | string (s : String)
  deriving DecidableEq, Repr

/-! ### Classes of characters -/

/-- The end of a line. -/
def isLineEnd (c : Char) : Bool :=
  c == '\n' || c == '\r'

/-- A blank inside a line. -/
def isSpace (c : Char) : Bool :=
  c == ' ' || c == '\t'

/-- A character between tokens that means nothing. -/
def isIgnored (c : Char) : Bool :=
  isSpace c || isLineEnd c || c == ',' || c == '\uFEFF'

/-- A character that is a token. -/
def isPunctuator (c : Char) : Bool :=
  ['!', '$', '&', '(', ')', ':', '=', '@', '[', ']', '\x7b', '|', '\x7d'].contains c

/-- A character that a name can start with. -/
def isNameStart (c : Char) : Bool :=
  c.isAlpha || c == '_'

/-- A character that a name can continue with. -/
def isNameContinue (c : Char) : Bool :=
  c.isAlphanum || c == '_'

/-! ### Numbers -/

/-- The digits of a whole part: a zero, or digits that do not begin with one. -/
def isWhole : List Char → Bool
  | [] => false
  | '0' :: ds => ds.isEmpty
  | _ => true

/-- The digits of the fraction of a number, if there is a point. -/
def fraction? : List Char → Option (List Char × List Char)
  | '.' :: cs =>
    match cs.takeWhile Char.isDigit with
    | [] => none
    | ds => some (ds, cs.dropWhile Char.isDigit)
  | cs => some ([], cs)

/-- An optional sign: whether it is a minus, and what follows. -/
def sign : List Char → Bool × List Char
  | '-' :: cs => (true, cs)
  | '+' :: cs => (false, cs)
  | cs => (false, cs)

/-- The exponent of a number, if there is its letter. -/
def exponent? : List Char → Option (Option Int × List Char)
  | [] => some (none, [])
  | c :: cs =>
    if c = 'e' || c = 'E' then
      match (sign cs).2.takeWhile Char.isDigit with
      | [] => none
      | ds =>
        let n : Int := Nat.ofDigitChars 10 ds 0
        some (some (if (sign cs).1 then -n else n), (sign cs).2.dropWhile Char.isDigit)
    else some (none, c :: cs)

/-- A number must not be followed by what could continue it. -/
def continuesNumber (cs : List Char) : Bool :=
  cs.head?.any fun c ↦ isNameContinue c || c == '.'

/-- The token of the parts of a number. -/
def numberToken (negative : Bool) (whole fraction : List Char) (exponent : Option Int) : Token :=
  if fraction.isEmpty && exponent.isNone then
    let n : Int := Nat.ofDigitChars 10 whole 0
    .int (if negative then -n else n)
  else
    .float (.ofDecimal negative (Nat.ofDigitChars 10 (whole ++ fraction) 0)
      (exponent.getD 0 - fraction.length))

/-- A number without its sign, and what follows it. -/
def number? (negative : Bool) (cs : List Char) : Option (Token × List Char) :=
  let whole := cs.takeWhile Char.isDigit
  if isWhole whole then
    match fraction? (cs.dropWhile Char.isDigit) with
    | none => none
    | some (fraction, rest) =>
      match exponent? rest with
      | none => none
      | some (exponent, rest) =>
        if continuesNumber rest then none
        else some (numberToken negative whole fraction exponent, rest)
  else none

/-! ### Strings -/

/-- The units of a string after its opening mark, and what follows its closing mark. -/
def units? : List Char → Option (List Nat × List Char)
  | [] => none
  | '"' :: cs => some ([], cs)
  | '\\' :: 'u' :: a :: b :: c :: d :: cs =>
    match Json.hexUnit? a.toNat b.toNat c.toNat d.toNat with
    | none => none
    | some u => (units? cs).map fun (us, rest) ↦ (u :: us, rest)
  | '\\' :: c :: cs =>
    match Json.escaped? c.toNat with
    | none => none
    | some u => (units? cs).map fun (us, rest) ↦ (u :: us, rest)
  | c :: cs =>
    if isLineEnd c || c = '\\' then none
    else (units? cs).map fun (us, rest) ↦ (c.toNat :: us, rest)

/-- The code points of units; half of a surrogate pair has to stand with the other half. -/
def joinPairs? : List Nat → Option (List Nat)
  | [] => some []
  | u :: us =>
    if Encoding.isHigh u then
      match us with
      | v :: us =>
        if Encoding.isLow v then (joinPairs? us).map (Encoding.joinPair u v :: ·) else none
      | [] => none
    else if Encoding.isLow u then none
    else (joinPairs? us).map (u :: ·)

/-- A string after its opening mark, and what follows its closing mark. -/
def string? (cs : List Char) : Option (Token × List Char) :=
  match units? cs with
  | none => none
  | some (us, rest) =>
    (joinPairs? us).map fun ps ↦ (.string (String.ofList (ps.map Char.ofNat)), rest)

/-! ### Block strings -/

/-- The raw characters of a block after its opening marks, and what follows its closing marks. -/
def block? : List Char → Option (List Char × List Char)
  | [] => none
  | '"' :: '"' :: '"' :: cs => some ([], cs)
  | '\\' :: '"' :: '"' :: '"' :: cs =>
    (block? cs).map fun (raw, rest) ↦ ('"' :: '"' :: '"' :: raw, rest)
  | c :: cs => (block? cs).map fun (raw, rest) ↦ (c :: raw, rest)

/-- The lines of a text. -/
def splitLines : List Char → List (List Char)
  | [] => [[]]
  | '\r' :: '\n' :: cs => [] :: splitLines cs
  | c :: cs =>
    if isLineEnd c then [] :: splitLines cs
    else
      match splitLines cs with
      | [] => [[c]]
      | line :: lines => (c :: line) :: lines

/-- A line of blanks only. -/
def isBlankLine (line : List Char) : Bool :=
  line.all isSpace

/-- The indentation that all lines but the first have in common; blank lines do not count. -/
def commonIndent (lines : List (List Char)) : Nat :=
  let indents := (lines.filter fun line ↦ !isBlankLine line).map fun line ↦
    (line.takeWhile isSpace).length
  indents.min?.getD 0

/-- The lines without the blank ones at both ends. -/
def trimLines (lines : List (List Char)) : List (List Char) :=
  ((lines.dropWhile isBlankLine).reverse.dropWhile isBlankLine).reverse

/-- The text that a block denotes. -/
def blockText (raw : List Char) : String :=
  match splitLines raw with
  | [] => ""
  | first :: others =>
    let lines := first :: others.map (·.drop (commonIndent others))
    joinWith "\n" ((trimLines lines).map String.ofList)

/-! ### Tokens -/

/-- The token at the start of a text, and what follows it. -/
def token? : List Char → Option (Token × List Char)
  | [] => none
  | '"' :: '"' :: '"' :: cs => (block? cs).map fun (raw, rest) ↦ (.string (blockText raw), rest)
  | '"' :: cs => string? cs
  | '.' :: '.' :: '.' :: cs => some (.spread, cs)
  | '-' :: cs => number? true cs
  | c :: cs =>
    if isPunctuator c then some (.punctuator c, cs)
    else if isNameStart c then
      some (.name (String.ofList (c :: cs.takeWhile isNameContinue)), cs.dropWhile isNameContinue)
    else number? false (c :: cs)

/-! ### Every token takes a character away -/

variable {cs rest : List Char} {t : Token}

theorem length_dropWhile_le (p : Char → Bool) (cs : List Char) :
    (cs.dropWhile p).length ≤ cs.length :=
  (List.dropWhile_suffix p).length_le

/-- Reading a fraction makes the text no longer; where there is no point, nothing is taken. -/
theorem fraction?_length_le {ds : List Char} (h : fraction? cs = some (ds, rest)) :
    rest.length ≤ cs.length := by
  unfold fraction? at h
  split at h
  · split at h
    · cases h
    · cases h
      exact Nat.le_succ_of_le (length_dropWhile_le _ _)
  · cases h
    exact Nat.le_refl _

theorem sign_length_le (cs : List Char) : (sign cs).2.length ≤ cs.length := by
  unfold sign
  split <;> simp

/-- Reading an exponent makes the text no longer; where its letter is missing, nothing is taken. -/
theorem exponent?_length_le {e : Option Int} (h : exponent? cs = some (e, rest)) :
    rest.length ≤ cs.length := by
  unfold exponent? at h
  split at h
  · cases h
    exact Nat.le_refl _
  · next c cs =>
    split at h
    · split at h
      · cases h
      · cases h
        exact Nat.le_succ_of_le (Nat.le_trans (length_dropWhile_le _ _) (sign_length_le cs))
    · cases h
      exact Nat.le_refl _

/-- A run that is not empty makes the text shorter. -/
theorem length_dropWhile_lt {p : Char → Bool} (h : cs.takeWhile p ≠ []) :
    (cs.dropWhile p).length < cs.length := by
  have hsum := congrArg List.length (List.takeWhile_append_dropWhile (p := p) (l := cs))
  have hpos := List.length_pos_iff.2 h
  rw [List.length_append] at hsum
  omega

/-- The whole part of a number has a digit. This is the character that reading a number takes
away. -/
theorem ne_nil_of_isWhole {ds : List Char} (h : isWhole ds = true) : ds ≠ [] := by
  rintro rfl
  cases h

/-- Reading a number takes at least its first digit. -/
theorem number?_length_lt {negative : Bool} (h : number? negative cs = some (t, rest)) :
    rest.length < cs.length := by
  simp only [number?] at h
  split at h
  · next hwhole =>
    split at h
    · cases h
    · next fraction afterFraction hfraction =>
      split at h
      · cases h
      · next exponent afterExponent hexponent =>
        split at h
        · cases h
        · cases h
          -- Exponent and fraction may be empty, the whole part may not.
          calc rest.length ≤ afterFraction.length := exponent?_length_le hexponent
            _ ≤ (cs.dropWhile Char.isDigit).length := fraction?_length_le hfraction
            _ < cs.length := length_dropWhile_lt (ne_nil_of_isWhole hwhole)
  · cases h

/-- Reading the units of a string makes the text no longer. -/
theorem units?_length_le {us : List Nat} (h : units? cs = some (us, rest)) :
    rest.length ≤ cs.length := by
  -- One case for each way in which a string goes on: its end, a numeric escape, a short escape, and
  -- a character that stands for itself.
  fun_induction units? cs generalizing us rest with
  | case1 => cases h
  | case2 cs =>
    cases h
    exact Nat.le_succ _
  | case3 => cases h
  | case4 a b c d cs u hu ih =>
    obtain ⟨⟨vs, after⟩, hrest, heq⟩ := Option.map_eq_some_iff.1 h
    cases heq
    have := ih hrest
    simp only [List.length_cons]
    omega
  | case5 => cases h
  | case6 c cs _ u hu ih =>
    obtain ⟨⟨vs, after⟩, hrest, heq⟩ := Option.map_eq_some_iff.1 h
    cases heq
    have := ih hrest
    simp only [List.length_cons]
    omega
  | case7 => cases h
  | case8 c cs _ _ _ _ ih =>
    obtain ⟨⟨vs, after⟩, hrest, heq⟩ := Option.map_eq_some_iff.1 h
    cases heq
    exact Nat.le_succ_of_le (ih hrest)

theorem string?_length_le (h : string? cs = some (t, rest)) : rest.length ≤ cs.length := by
  unfold string? at h
  split at h
  · cases h
  · next us after hunits =>
    obtain ⟨ps, -, heq⟩ := Option.map_eq_some_iff.1 h
    cases heq
    exact units?_length_le hunits

theorem block?_length_le {raw : List Char} (h : block? cs = some (raw, rest)) :
    rest.length ≤ cs.length := by
  fun_induction block? cs generalizing raw rest with
  | case1 => cases h
  | case2 cs =>
    cases h
    simp only [List.length_cons]
    omega
  | case3 cs ih =>
    obtain ⟨⟨inner, after⟩, hrest, heq⟩ := Option.map_eq_some_iff.1 h
    cases heq
    have := ih hrest
    simp only [List.length_cons]
    omega
  | case4 c cs _ _ ih =>
    obtain ⟨⟨inner, after⟩, hrest, heq⟩ := Option.map_eq_some_iff.1 h
    cases heq
    exact Nat.le_succ_of_le (ih hrest)

/-- **Reading a token takes a character away.** -/
theorem token?_length_lt (h : token? cs = some (t, rest)) : rest.length < cs.length := by
  -- The opening mark, the sign or the first character is what is taken in every case but the last,
  -- where it is the first digit of a number.
  unfold token? at h
  split at h
  · cases h
  · obtain ⟨⟨raw, after⟩, hblock, heq⟩ := Option.map_eq_some_iff.1 h
    cases heq
    have := block?_length_le hblock
    simp only [List.length_cons]
    omega
  · exact Nat.lt_succ_of_le (string?_length_le h)
  · cases h
    simp only [List.length_cons]
    omega
  · exact Nat.lt_succ_of_lt (number?_length_lt h)
  · split at h
    · cases h
      exact Nat.lt_succ_self _
    · split at h
      · cases h
        exact Nat.lt_succ_of_le (length_dropWhile_le _ _)
      · exact number?_length_lt h

/-- The tokens of a text. -/
def tokens? : List Char → Option (List Token)
  | [] => some []
  | c :: cs =>
    if isIgnored c then tokens? cs
    else if c = '#' then tokens? (cs.dropWhile fun c ↦ !isLineEnd c)
    else
      match _h : token? (c :: cs) with
      | none => none
      | some (t, rest) => (tokens? rest).map (t :: ·)
termination_by cs => cs.length
decreasing_by
  · exact Nat.lt_succ_self _
  · exact Nat.lt_succ_of_le (length_dropWhile_le _ _)
  · exact token?_length_lt ‹_›

end CatalogQuery.Grammar
