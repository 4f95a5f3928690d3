import CatalogQuery.Text.Basic

/-!
# Tokens of YAML

The text of a YAML document as a list of tokens. Structure that is written by indentation becomes
explicit: a block collection has a token where it begins and where it ends. A key is known as such
only when the colon after it is found, on the same line and within 1024 characters; then its token,
and that of a mapping that begins with it, are put in before it (`Lexer.value`).

The lexer goes through the text one token at a time (`Lexer.step`). It refuses what the grammar of
tokens excludes. Anchors, aliases, tags and block scalars are not part of the form of documents that
settings are written in, and are refused as well.
-/

namespace CatalogQuery.Yaml

/-- A token. -/
inductive Token where
  | directive
  | documentStart | documentEnd
  | blockSequence | blockMapping | blockEnd
  | flowSequence | flowSequenceEnd | flowMapping | flowMappingEnd
  | item | comma | key | value
  /-- A scalar, and whether it is plain. -/
  | scalar (points : List Nat) (isPlain : Bool)
  deriving DecidableEq, Repr

/-! ### Characters -/

/-- A line break. -/
def isBreak (c : Char) : Bool :=
  c == '\n' || c == '\x85' || c == '\u2028' || c == '\u2029'

/-- A blank inside a line. -/
def isSpace (c : Char) : Bool :=
  c == ' ' || c == '\t'

/-- The text is at its end or goes on with a blank or a line break. -/
def atGap : List Char → Bool
  | [] => true
  | c :: _ => isSpace c || isBreak c

/-- The text goes on with one of two marks that part documents. -/
def atSeparator : List Char → Bool
  | '-' :: '-' :: '-' :: rest => atGap rest
  | '.' :: '.' :: '.' :: rest => atGap rest
  | _ => false

/-- The code point that a line break stands for. -/
def breakPoint (c : Char) : Nat :=
  if c == '\u2028' || c == '\u2029' then c.toNat else 0x0A

/-- A character that a document may hold. -/
def isPrintable (c : Char) : Bool :=
  let p := c.toNat
  p == 0x09 || p == 0x0A || p == 0x0D || (0x20 ≤ p && p ≤ 0x7E) || p == 0x85 ||
    (0xA0 ≤ p && p ≤ 0xD7FF) || (0xE000 ≤ p && p ≤ 0xFFFD) || 0x10000 ≤ p

/-! ### Places -/

/-- A place in the text. -/
structure Cursor where
  /-- What follows. -/
  rest : List Char
  /-- The number of characters before. -/
  index : Nat := 0
  /-- The number of lines before. -/
  line : Nat := 0
  /-- The number of characters before on the line. -/
  column : Nat := 0
  deriving Repr

namespace Cursor

/-- The place after one character. -/
def next (c : Cursor) : Cursor :=
  match c.rest with
  | [] => c
  | ch :: rest =>
    if isBreak ch then { rest, index := c.index + 1, line := c.line + 1, column := 0 }
    else if ch == '\uFEFF' then { c with rest, index := c.index + 1 }
    else { c with rest, index := c.index + 1, column := c.column + 1 }

/-- The place after `n` characters. -/
def skip : (n : Nat) → Cursor → Cursor
  | 0, c => c
  | n + 1, c => skip n c.next

/-- The place where `rest` follows, which is an end of what follows now. -/
def moveTo (rest : List Char) (c : Cursor) : Cursor :=
  c.skip (c.rest.length - rest.length)

end Cursor

/-! ### Folding of lines -/

/-- The line breaks from the start of a line on, and what follows the blanks after them; none if a
mark that parts documents is found. -/
def breaks? : (steps : Nat) → List Char → Option (List Nat × List Char)
  | 0, _ => none
  | steps + 1, cs =>
    if atSeparator cs then none
    else
      match cs.dropWhile isSpace with
      | c :: rest =>
        if isBreak c then (breaks? steps rest).map fun (ps, rest) ↦ (breakPoint c :: ps, rest)
        else some ([], c :: rest)
      | [] => some ([], [])

/-- What a line break and the breaks after it stand for: a single one is a space. -/
def folded (first : Nat) (others : List Nat) : List Nat :=
  if first != 0x0A then first :: others else if others.isEmpty then [0x20] else others

/-- What blanks and breaks inside a quoted scalar stand for, and what follows them. -/
def quotedSpaces? (cs : List Char) : Option (List Nat × List Char) :=
  match cs.dropWhile isSpace with
  | [] => none
  | c :: rest =>
    if isBreak c then
      (breaks? (rest.length + 1) rest).map fun (ps, rest) ↦ (folded (breakPoint c) ps, rest)
    else some (codePoints (cs.takeWhile isSpace), c :: rest)

/-! ### Quoted scalars -/

/-- The code point that a letter after a backslash stands for. -/
def escaped? (c : Char) : Option Nat :=
  match c with
  | '0' => some 0x00
  | 'a' => some 0x07
  | 'b' => some 0x08
  | 't' => some 0x09
  | '\t' => some 0x09
  | 'n' => some 0x0A
  | 'v' => some 0x0B
  | 'f' => some 0x0C
  | 'r' => some 0x0D
  | 'e' => some 0x1B
  | ' ' => some 0x20
  | '"' => some 0x22
  | '\\' => some 0x5C
  | '/' => some 0x2F
  | 'N' => some 0x85
  | '_' => some 0xA0
  | 'L' => some 0x2028
  | 'P' => some 0x2029
  | _ => none

/-- The number of digits after a letter that begins a numeric escape. -/
def escapeWidth? (c : Char) : Option Nat :=
  match c with
  | 'x' => some 2
  | 'u' => some 4
  | 'U' => some 8
  | _ => none

/-- The value of a hexadecimal digit. -/
def hexValue? (c : Char) : Option Nat :=
  if c.isDigit then some (c.toNat - 0x30)
  else if 'a' ≤ c && c ≤ 'f' then some (c.toNat - 0x57)
  else if 'A' ≤ c && c ≤ 'F' then some (c.toNat - 0x37)
  else none

/-- The code point that hexadecimal digits denote. -/
def hexPoint? (cs : List Char) : Option Nat := do
  let ds ← cs.mapM hexValue?
  let p := ds.foldl (fun n d ↦ n * 16 + d) 0
  if p < 0x110000 then some p else none

/-- What follows a backslash: the code points that it stands for, and the rest. -/
def escape? (cs : List Char) : Option (List Nat × List Char) :=
  match cs with
  | [] => none
  | c :: rest =>
    match escaped? c, escapeWidth? c with
    | some p, _ => some ([p], rest)
    | none, some width =>
      if rest.length < width then none
      else (hexPoint? (rest.take width)).map fun p ↦ ([p], rest.drop width)
    | none, none => if isBreak c then breaks? (rest.length + 1) rest else none

/-- The content of a quoted scalar after its opening mark, and what follows its closing mark. -/
def quoted? (mark : Char) : (steps : Nat) → List Char → Option (List Nat × List Char)
  | 0, _ => none
  | steps + 1, cs =>
    match cs with
    | [] => none
    | c :: rest =>
      let more (ps : List Nat) (rest : List Char) : Option (List Nat × List Char) :=
        (quoted? mark steps rest).map fun (qs, rest) ↦ (ps ++ qs, rest)
      if c = mark then
        match mark, rest with
        | '\'', '\'' :: rest => more [0x27] rest
        | _, rest => some ([], rest)
      else if mark = '"' && c = '\\' then (escape? rest).bind fun (ps, rest) ↦ more ps rest
      else if isSpace c || isBreak c then
        (quotedSpaces? cs).bind fun (ps, rest) ↦ more ps rest
      else more [c.toNat] rest

/-! ### Plain scalars -/

/-- A plain scalar ends at `c`, which `rest` follows. -/
def endsPlain (inFlow : Bool) (c : Char) (rest : List Char) : Bool :=
  isSpace c || isBreak c ||
    (c == ':' && (atGap rest ||
      (inFlow && rest.head?.any [',', '[', ']', '\x7b', '\x7d'].contains))) ||
    (inFlow && [',', '?', '[', ']', '\x7b', '\x7d'].contains c)

/-- The characters up to the end or the next blank of a plain scalar, and what follows. -/
def plainPart (inFlow : Bool) : List Char → List Char × List Char
  | [] => ([], [])
  | c :: rest =>
    if endsPlain inFlow c rest then ([], c :: rest)
    else
      let (part, rest) := plainPart inFlow rest
      (c :: part, rest)

/-- The line breaks after the first one, with spaces between them, and what follows; the flag tells
whether a mark that parts documents was found. -/
def plainBreaks : List Char → Bool → List Nat × List Char × Bool
  | [], _ => ([], [], false)
  | c :: rest, atStart =>
    if atStart && atSeparator (c :: rest) then ([], c :: rest, true)
    else if c = ' ' then plainBreaks rest false
    else if isBreak c then
      let (ps, rest, parted) := plainBreaks rest true
      (breakPoint c :: ps, rest, parted)
    else ([], c :: rest, false)

/-- What blanks inside a plain scalar stand for, what follows them, and whether they hold a break.
Nothing is given where the scalar cannot go on. -/
def plainSpaces (cs : List Char) : List Nat × List Char × Bool :=
  let spaces := cs.takeWhile (· == ' ')
  match cs.dropWhile (· == ' ') with
  | [] => (codePoints spaces, [], false)
  | c :: rest =>
    if isBreak c then
      let (ps, rest, parted) := plainBreaks rest true
      (if parted then [] else folded (breakPoint c) ps, rest, true)
    else (codePoints spaces, c :: rest, false)

/-- A plain scalar in a context of the given indentation: its content, the place after it, and
whether a key may follow. `pending` stands between what was read and what follows. -/
def plain (inFlow : Bool) (indent : Int) :
    (steps : Nat) → (pending : List Nat) → (keyAllowed : Bool) → Cursor → List Nat × Cursor × Bool
  | 0, _, keyAllowed, c => ([], c, keyAllowed)
  | steps + 1, pending, keyAllowed, c =>
    if c.rest.head? = some '#' then ([], c, keyAllowed)
    else
      let (part, rest) := plainPart inFlow c.rest
      if part.isEmpty then ([], c, keyAllowed)
      else
        let (spaces, rest, broken) := plainSpaces rest
        let c := c.moveTo rest
        let content := pending ++ codePoints part
        if spaces.isEmpty || c.rest.head? = some '#' || (!inFlow && (c.column : Int) < indent) then
          (content, c, broken)
        else
          let (more, c, keyAllowed) := plain inFlow indent steps spaces broken c
          (content ++ more, c, keyAllowed)

/-! ### The lexer -/

/-- A token that may turn out to be a key. -/
structure KeyCandidate where
  /-- The depth of flow collections around it. -/
  depth : Nat
  /-- The number of tokens before it. -/
  place : Nat
  /-- It must be a key. -/
  isRequired : Bool
  /-- The place of its first character. -/
  index : Nat
  /-- The line of its first character. -/
  line : Nat
  /-- The column of its first character. -/
  column : Nat

/-- The lexer between two tokens. -/
structure Lexer where
  /-- The place in the text. -/
  cursor : Cursor
  /-- The tokens so far. -/
  tokens : Array Token := #[]
  /-- The column of the innermost block collection. -/
  indent : Int := -1
  /-- The columns of the block collections around it. -/
  outer : List Int := []
  /-- The depth of flow collections. -/
  depth : Nat := 0
  /-- A key may begin here. -/
  keyAllowed : Bool := true
  /-- The tokens that may turn out to be keys, at most one of each depth. -/
  candidates : List KeyCandidate := []

namespace Lexer

/-- Adds a token. -/
def add (t : Token) (l : Lexer) : Lexer :=
  { l with tokens := l.tokens.push t }

/-- Passes `n` characters. -/
def skip (n : Nat) (l : Lexer) : Lexer :=
  { l with cursor := l.cursor.skip n }

/-- Passes the byte order mark at the beginning of the text. -/
def skipMark (l : Lexer) : Lexer :=
  if l.cursor.index = 0 && l.cursor.rest.head? = some '\uFEFF' then l.skip 1 else l

/-- Passes blanks, comments and line breaks; in block context a key may begin after a line break. -/
def skipGap : (steps : Nat) → Lexer → Lexer
  | 0, l => l
  | steps + 1, l =>
    let afterSpaces := l.cursor.rest.dropWhile (· == ' ')
    let afterComment :=
      if afterSpaces.head? = some '#' then afterSpaces.dropWhile fun c ↦ !isBreak c else afterSpaces
    let l := { l with cursor := l.cursor.moveTo afterComment }
    match afterComment with
    | c :: _ =>
      if isBreak c then
        skipGap steps { l.skip 1 with keyAllowed := l.keyAllowed || l.depth == 0 }
      else l
    | [] => l

/-- Drops the candidates that are too far back to be keys. -/
def dropStale (l : Lexer) : Option Lexer :=
  let isStale (k : KeyCandidate) : Bool :=
    k.line != l.cursor.line || 1024 < l.cursor.index - k.index
  if l.candidates.any fun k ↦ isStale k && k.isRequired then none
  else some { l with candidates := l.candidates.filter fun k ↦ !isStale k }

/-- Drops the candidate of the current depth. -/
def dropCandidate (l : Lexer) : Option Lexer :=
  if l.candidates.any fun k ↦ k.depth == l.depth && k.isRequired then none
  else some { l with candidates := l.candidates.filter fun k ↦ k.depth != l.depth }

/-- Notes the token that follows as one that may turn out to be a key. -/
def offer (l : Lexer) : Option Lexer :=
  if l.keyAllowed then do
    let candidate : KeyCandidate := {
      depth := l.depth
      place := l.tokens.size
      isRequired := l.depth == 0 && l.indent == l.cursor.column
      index := l.cursor.index
      line := l.cursor.line
      column := l.cursor.column }
    let l ← l.dropCandidate
    return { l with candidates := candidate :: l.candidates }
  else some l

/-- The number of block collections that end before a column, and the indentations left. -/
def endings (column : Int) : (indent : Int) → (outer : List Int) → Nat × Int × List Int
  | indent, [] => (0, indent, [])
  | indent, i :: is =>
    if column < indent then
      let (n, indent, outer) := endings column i is
      (n + 1, indent, outer)
    else (0, indent, i :: is)

/-- Ends the block collections that are indented more than a column. -/
def unwind (column : Int) (l : Lexer) : Lexer :=
  if l.depth != 0 then l
  else
    let (n, indent, outer) := endings column l.indent l.outer
    { l with indent, outer, tokens := l.tokens ++ Array.replicate n .blockEnd }

/-- Begins a block collection at a column unless one is there: its token stands at `place`. -/
def indentTo (column : Nat) (place : Nat) (start : Token) (l : Lexer) : Lexer :=
  if l.depth == 0 && l.indent < column then
    { l with
      indent := column
      outer := l.indent :: l.outer
      tokens := l.tokens.insertIdxIfInBounds place start }
  else l

/-- Ends what is open before a mark that stands at the margin. -/
def margin (t : Token) (width : Nat) (l : Lexer) : Option Lexer := do
  let l ← (l.unwind (-1)).dropCandidate
  return { l.add t with keyAllowed := false, cursor := l.cursor.skip width }

/-- Begins a flow collection. -/
def openFlow (t : Token) (l : Lexer) : Option Lexer := do
  let l ← l.offer
  return { (l.add t).skip 1 with depth := l.depth + 1, keyAllowed := true }

/-- Ends a flow collection. -/
def closeFlow (t : Token) (l : Lexer) : Option Lexer := do
  let l ← l.dropCandidate
  if l.depth = 0 then none
  else return { (l.add t).skip 1 with depth := l.depth - 1, keyAllowed := false }

/-- A comma between the entries of a flow collection. -/
def comma (l : Lexer) : Option Lexer := do
  let l ← l.dropCandidate
  return { (l.add .comma).skip 1 with keyAllowed := true }

/-- The mark before an item of a block sequence. -/
def item (l : Lexer) : Option Lexer := do
  if l.depth == 0 && !l.keyAllowed then none
  else
    let l := l.indentTo l.cursor.column l.tokens.size .blockSequence
    let l ← l.dropCandidate
    return { (l.add .item).skip 1 with keyAllowed := true }

/-- The mark before a key that is given in full. -/
def fullKey (l : Lexer) : Option Lexer := do
  if l.depth == 0 && !l.keyAllowed then none
  else
    let l := l.indentTo l.cursor.column l.tokens.size .blockMapping
    let l ← l.dropCandidate
    return { (l.add .key).skip 1 with keyAllowed := l.depth == 0 }

/-- The colon before a value. If the token before it may be a key, it is one. -/
def value (l : Lexer) : Option Lexer :=
  match l.candidates.find? fun k ↦ k.depth == l.depth with
  | some k =>
    let keyed :=
      { l with
        candidates := l.candidates.filter fun k ↦ k.depth != l.depth
        tokens := l.tokens.insertIdxIfInBounds k.place .key }
    let l := keyed.indentTo k.column k.place .blockMapping
    some { (l.add .value).skip 1 with keyAllowed := false }
  | none =>
    if l.depth == 0 && !l.keyAllowed then none
    else do
      let l := l.indentTo l.cursor.column l.tokens.size .blockMapping
      let l ← l.dropCandidate
      return { (l.add .value).skip 1 with keyAllowed := l.depth == 0 }

/-- A quoted scalar. -/
def quotedScalar (mark : Char) (l : Lexer) : Option Lexer := do
  let l ← l.offer
  let content := l.cursor.rest.drop 1
  let (points, rest) ← quoted? mark (content.length + 1) content
  return { l.add (.scalar points false) with
    cursor := l.cursor.moveTo rest
    keyAllowed := false }

/-- A plain scalar. -/
def plainScalar (l : Lexer) : Option Lexer := do
  let l ← l.offer
  let (points, cursor, keyAllowed) :=
    plain (l.depth != 0) (l.indent + 1) (l.cursor.rest.length + 1) [] false l.cursor
  return { l.add (.scalar points true) with cursor, keyAllowed }

/-- A directive: a name and its parameters, up to the end of the line. -/
def directive (l : Lexer) : Option Lexer := do
  let l ← (l.unwind (-1)).dropCandidate
  let line := l.cursor.rest.takeWhile fun c ↦ !isBreak c
  if (line.drop 1).head?.any fun c ↦ c.isAlphanum || c == '-' || c == '_' then
    return { l.add .directive with cursor := l.cursor.skip line.length, keyAllowed := false }
  else none

/-- A plain scalar can begin with `c`, which `rest` follows. -/
def beginsPlain (depth : Nat) (c : Char) (rest : List Char) : Bool :=
  if ['-', '?', ':'].contains c then !atGap rest && (c == '-' || depth == 0)
  else !(isSpace c || isBreak c ||
    [',', '[', ']', '\x7b', '\x7d', '#', '&', '*', '!', '|', '>', '\'', '"', '%', '@',
      '\u0060'].contains c)

/-- Goes through the next token; at the end of the text there is none. -/
def step (l : Lexer) : Option (Lexer × Bool) := do
  let l := (l.skipMark).skipGap (l.cursor.rest.length + 1)
  let l ← l.dropStale
  let l := l.unwind l.cursor.column
  let go (l : Option Lexer) : Option (Lexer × Bool) := l.map (·, true)
  match l.cursor.rest with
  | [] =>
    let l ← (l.unwind (-1)).dropCandidate
    return (l, false)
  | c :: rest =>
    if l.cursor.column = 0 && c = '%' then go l.directive
    else if l.cursor.column = 0 && atSeparator (c :: rest) then
      go (l.margin (if c = '-' then .documentStart else .documentEnd) 3)
    else if c = '[' then go (l.openFlow .flowSequence)
    else if c = '\x7b' then go (l.openFlow .flowMapping)
    else if c = ']' then go (l.closeFlow .flowSequenceEnd)
    else if c = '\x7d' then go (l.closeFlow .flowMappingEnd)
    else if c = ',' then go l.comma
    else if c = '-' && atGap rest then go l.item
    else if c = '?' && (l.depth != 0 || atGap rest) then go l.fullKey
    else if c = ':' && (l.depth != 0 || atGap rest) then go l.value
    else if c = '\'' || c = '"' then go (l.quotedScalar c)
    else if beginsPlain l.depth c rest then go l.plainScalar
    else none

/-- Goes through all tokens. -/
def run : (steps : Nat) → Lexer → Option (List Token)
  | 0, _ => none
  | steps + 1, l => do
    let (l, more) ← l.step
    if more then l.run steps else return l.tokens.toList

end Lexer

/-- The text with every line break in the form of a line feed. -/
def unifyBreaks : List Char → List Char
  | '\r' :: '\n' :: cs => '\n' :: unifyBreaks cs
  | '\r' :: cs => '\n' :: unifyBreaks cs
  | c :: cs => c :: unifyBreaks cs
  | [] => []

/-- The tokens of a text. -/
def tokens? (text : List Char) : Option (List Token) :=
  if text.all isPrintable then
    let cs := unifyBreaks text
    Lexer.run (cs.length + 2) { cursor := { rest := cs } }
  else none

end CatalogQuery.Yaml
