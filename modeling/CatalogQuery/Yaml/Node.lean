import CatalogQuery.Datum.Equal
import CatalogQuery.Yaml.Scalar
import CatalogQuery.Yaml.Token

/-!
# Documents of YAML

The tree of a document, and the value that it stands for. `Node.ofTokens?` reads the tokens of a
text that holds at most one document; `Node.toDatum?` gives the value of a tree. The keys of a
mapping must not be sequences or mappings; of entries with equal keys the last value stands in the
first place. A text without a document, and a document without content, stand for null.

The readers of nested nodes count steps down; `Node.ofTokens?` starts them with more than twice the
number of tokens, and of two steps in a row at least one consumes a token.
-/

namespace CatalogQuery.Yaml

/-- A node of a document. -/
inductive Node where
  | empty
  | scalar (points : List Nat) (isPlain : Bool)
  | sequence (items : List Node)
  | mapping (entries : List (Node × Node))
  deriving Repr

namespace Node

/-! ### From tokens -/

/-- The place of a node: whether block collections may stand there, and whether a sequence may be
written there by its items alone. -/
inductive Place where
  | block | entry | flow
  deriving DecidableEq

/-- An item of a block sequence is empty before one of these. -/
def endsItem (t : Token) : Bool :=
  t == .item || t == .blockEnd

/-- A key or value of a block mapping is empty before one of these. -/
def endsEntry (t : Token) : Bool :=
  t == .key || t == .value || t == .blockEnd

/-- An item that is written without indentation is empty before one of these. -/
def endsMarginItem (t : Token) : Bool :=
  t == .item || endsEntry t

/-- A key or value of an entry in a flow collection is empty before one of these. -/
def endsFlow (close : Token) (t : Token) : Bool :=
  t == .comma || t == close

/-- What stands after the comma between two entries of a flow collection that `close` ends. No comma
stands before the first entry, nor where the collection ends. -/
def afterComma? (isFirst : Bool) (close : Token) (ts : List Token) : Option (List Token) :=
  if isFirst || ts.head? = some close then some ts
  else
    match ts with
    | .comma :: rest => some rest
    | _ => none

/-- The node that is made of what was read. -/
def collect? {α : Type} (make : α → Node) (read : Option (α × List Token)) :
    Option (Node × List Token) :=
  read.map fun (content, rest) ↦ (make content, rest)

mutual

/-- A node at a place, and what follows it. -/
def read? (place : Place) : (steps : Nat) → List Token → Option (Node × List Token)
  | 0, _ => none
  | steps + 1, ts =>
    match ts with
    | .scalar points isPlain :: rest => some (.scalar points isPlain, rest)
    | .flowSequence :: rest => collect? .sequence (flowItems? true steps rest)
    | .flowMapping :: rest => collect? .mapping (flowEntries? true steps rest)
    | .blockSequence :: rest =>
      if place = .flow then none else collect? .sequence (blockItems? steps rest)
    | .blockMapping :: rest =>
      if place = .flow then none else collect? .mapping (blockEntries? steps rest)
    | .item :: _ => if place = .entry then collect? .sequence (marginItems? steps ts) else none
    | _ => none

/-- A node, or an empty one before a token that ends its place. -/
def readUnless? (ends : Token → Bool) (place : Place) :
    (steps : Nat) → List Token → Option (Node × List Token)
  | 0, _ => none
  | steps + 1, ts => if ts.head?.any ends then some (.empty, ts) else read? place steps ts

/-- The items of a block sequence. -/
def blockItems? : (steps : Nat) → List Token → Option (List Node × List Token)
  | 0, _ => none
  | steps + 1, ts =>
    match ts with
    | .item :: rest => do
      let (x, rest) ← readUnless? endsItem .block steps rest
      let (xs, rest) ← blockItems? steps rest
      return (x :: xs, rest)
    | .blockEnd :: rest => some ([], rest)
    | _ => none

/-- The items of a sequence that is not indented more than the key before it. -/
def marginItems? : (steps : Nat) → List Token → Option (List Node × List Token)
  | 0, _ => none
  | steps + 1, ts =>
    match ts with
    | .item :: rest => do
      let (x, rest) ← readUnless? endsMarginItem .block steps rest
      let (xs, rest) ← marginItems? steps rest
      return (x :: xs, rest)
    | _ => some ([], ts)

/-- The entries of a block mapping. -/
def blockEntries? : (steps : Nat) → List Token → Option (List (Node × Node) × List Token)
  | 0, _ => none
  | steps + 1, ts =>
    match ts with
    | .key :: rest => do
      let (k, rest) ← readUnless? endsEntry .entry steps rest
      let (v, rest) ← entryValue? endsEntry .entry steps rest
      let (es, rest) ← blockEntries? steps rest
      return ((k, v) :: es, rest)
    | .blockEnd :: rest => some ([], rest)
    | _ => none

/-- The value of an entry, if there is one. -/
def entryValue? (ends : Token → Bool) (place : Place) :
    (steps : Nat) → List Token → Option (Node × List Token)
  | 0, _ => none
  | steps + 1, ts =>
    match ts with
    | .value :: rest => readUnless? ends place steps rest
    | _ => some (.empty, ts)

/-- The items of a flow sequence; an item with a key is a mapping of one entry. -/
def flowItems? (isFirst : Bool) : (steps : Nat) → List Token → Option (List Node × List Token)
  | 0, _ => none
  | steps + 1, ts =>
    match afterComma? isFirst .flowSequenceEnd ts with
    | none => none
    | some (.flowSequenceEnd :: rest) => some ([], rest)
    | some (.key :: rest) => do
      let ends (t : Token) : Bool := t == .value || endsFlow .flowSequenceEnd t
      let (k, rest) ← readUnless? ends .flow steps rest
      let (v, rest) ← entryValue? (endsFlow .flowSequenceEnd) .flow steps rest
      let (xs, rest) ← flowItems? false steps rest
      return (.mapping [(k, v)] :: xs, rest)
    | some ts => do
      let (x, rest) ← read? .flow steps ts
      let (xs, rest) ← flowItems? false steps rest
      return (x :: xs, rest)

/-- The entries of a flow mapping; a key alone has an empty value. -/
def flowEntries? (isFirst : Bool) :
    (steps : Nat) → List Token → Option (List (Node × Node) × List Token)
  | 0, _ => none
  | steps + 1, ts =>
    match afterComma? isFirst .flowMappingEnd ts with
    | none => none
    | some (.flowMappingEnd :: rest) => some ([], rest)
    | some (.key :: rest) => do
      let ends (t : Token) : Bool := t == .value || endsFlow .flowMappingEnd t
      let (k, rest) ← readUnless? ends .flow steps rest
      let (v, rest) ← entryValue? (endsFlow .flowMappingEnd) .flow steps rest
      let (es, rest) ← flowEntries? false steps rest
      return ((k, v) :: es, rest)
    | some ts => do
      let (k, rest) ← read? .flow steps ts
      let (es, rest) ← flowEntries? false steps rest
      return ((k, .empty) :: es, rest)

end

/-- What follows directives and the mark that a document begins with. -/
def afterStart? (ts : List Token) : Option (List Token) :=
  match ts.dropWhile (· == .directive) with
  | .documentStart :: rest => some rest
  | _ => none

/-- The content of the document that tokens begin with, and what follows it. -/
def content? (ts : List Token) : Option (Node × List Token) :=
  let ends (t : Token) : Bool := t == .directive || t == .documentStart || t == .documentEnd
  if ts.isEmpty then some (.empty, [])
  else readUnless? ends .block (2 * ts.length + 2) ts

/-- The document that tokens begin with, and what follows it. It may lack the mark at its beginning,
but then it has content. -/
def document? (ts : List Token) : Option (Node × List Token) :=
  match ts with
  | .documentEnd :: _ => none
  | .directive :: _ | .documentStart :: _ => (afterStart? ts).bind content?
  | _ => content? ts

/-- The tree of the one document that tokens hold. -/
def ofTokens? (ts : List Token) : Option Node := do
  let (node, rest) ← document? ts
  if (rest.dropWhile (· == .documentEnd)).isEmpty then some node else none

/-! ### To data -/

/-- A value that can be a key: neither a sequence nor a mapping. -/
def isKey : Datum → Bool
  | .list _ | .dict _ => false
  | _ => true

mutual

/-- The value of a node. -/
def toDatum? : Node → Option Datum
  | .empty => some .null
  | .scalar points isPlain => if isPlain then scalar? points else some (.text (.ofPoints points))
  | .sequence items => (itemsToData? items).map .list
  | .mapping entries => (entriesToData? entries []).map .dict

/-- The values of nodes. -/
def itemsToData? : List Node → Option (List Datum)
  | [] => some []
  | n :: ns => do return (← toDatum? n) :: (← itemsToData? ns)

/-- The entries of a mapping, put one after the other into those before them. -/
def entriesToData? : List (Node × Node) → List (Datum × Datum) → Option (List (Datum × Datum))
  | [], before => some before
  | (k, v) :: es, before => do
    let key ← toDatum? k
    if isKey key then entriesToData? es (Datum.put key (← toDatum? v) before) else none

end

end Node

/-- The value that a text stands for. -/
def read? (text : List Char) : Option Datum :=
  ((tokens? text).bind Node.ofTokens?).bind Node.toDatum?

end CatalogQuery.Yaml
