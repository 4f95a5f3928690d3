import CatalogQuery.Proofs.Grammar.Token
import CatalogQuery.Vocabulary

/-!
# Operations as trees

The grammar of GraphQL operations, as a function from tokens to trees: values with variables, lists
and objects; fields with aliases, arguments and selections; one operation with its keyword and an
optional name. Variable definitions, directives and fragments are not in it, so a document that uses
one is refused.

The readers of nested parts count steps down. Every step takes a token away, so a reader that has as
many steps as there are tokens reaches the end. `tokens` writes a tree in the one way that has
nothing optional in it, and `operation?_tokens` says that every tree is read back from there.

## Trees and tokens

`Grammar.read` is what "the document means" refers to everywhere else: a document is a text, and it
means the tree that `read` finds in it. A tree says everything that a reader of the language can
tell about a document and nothing about how it is laid out.

Reading a tree back from its tokens is not possible for every tree. A value that is an enumeration
value named `true` has the tokens of the truth value, and a root selection without fields has no
tokens at all. The first is ruled out by `Value.IsProper`, the second by asking for a field.

## The induction

The readers come in two mutual families, values with their rows and fields with their selections,
and `value?_tokens` and `fields?_tokens` follow them. Each statement has a number of steps that is
at least the number of tokens, and an arbitrary rest. Where a part is optional, the reader looks one
token ahead, so the rest must not begin with the mark that would open the part (`StartsNot`): no
colon behind the name of a field, no parenthesis behind the arguments, no brace behind the
selection.
-/

namespace CatalogQuery.Grammar

/-! ### Trees -/

/-- A value of an argument. -/
inductive Value where
  /-- A variable. -/
  | variable (n : String)
  /-- An integer. -/
  | int (n : Int)
  /-- A decimal number. -/
  | float (x : Binary64)
  /-- A string, quoted or in a block. -/
  | string (s : String)
  /-- A truth value. -/
  | bool (b : Bool)
  /-- The word for no value. -/
  | null
  /-- Any other bare word. -/
  | enum (n : String)
  /-- A list in brackets. -/
  | list (items : List Value)
  /-- An object in braces, with its entries in the order of the text. -/
  | object (entries : List (String × Value))

/-- A field of a selection: an optional alias, its name, its arguments, and the selection below
it. -/
inductive Field where
  /-- A field is read whole or not at all. -/
  | mk (key : Option String) (name : String) (arguments : List (String × Value))
      (selection : List Field)

/-- An operation: its type, an optional name, and its selection. -/
structure Operation where
  /-- The type that the keyword names. -/
  type : OperationType
  /-- The name, if there is one. -/
  name : Option String
  /-- The selected root fields. -/
  selection : List Field

/-! ### Reading

The readers take tokens from the front and give back what they did not take. Running out of steps
and meeting a token that does not fit are the same failure, since with enough steps the first does
not occur.
-/

/-- The value that a name denotes. -/
def nameValue (n : String) : Value :=
  if n = "true" then .bool true
  else if n = "false" then .bool false
  else if n = "null" then .null
  else .enum n

mutual

/-- A value at the start of tokens, and what follows it. -/
def value? : (steps : Nat) → List Token → Option (Value × List Token)
  | 0, _ => none
  | steps + 1, ts =>
    match ts with
    | .int n :: ts => some (.int n, ts)
    | .float x :: ts => some (.float x, ts)
    | .string s :: ts => some (.string s, ts)
    | .name n :: ts => some (nameValue n, ts)
    | .punctuator '$' :: .name n :: ts => some (.variable n, ts)
    | .punctuator '[' :: ts => (items? steps ts).map fun (vs, ts) ↦ (.list vs, ts)
    | .punctuator '\x7b' :: ts => (entries? '\x7d' steps ts).map fun (es, ts) ↦ (.object es, ts)
    | _ => none

/-- The values up to a closing bracket, and what follows it. -/
def items? : (steps : Nat) → List Token → Option (List Value × List Token)
  | 0, _ => none
  | steps + 1, ts =>
    match ts with
    | .punctuator ']' :: ts => some ([], ts)
    | ts =>
      match value? steps ts with
      | none => none
      | some (v, ts) => (items? steps ts).map fun (vs, ts) ↦ (v :: vs, ts)

/-- The named values up to a closing mark, and what follows it. -/
def entries? (close : Char) :
    (steps : Nat) → List Token → Option (List (String × Value) × List Token)
  | 0, _ => none
  | steps + 1, ts =>
    match ts with
    | .name n :: .punctuator ':' :: ts =>
      match value? steps ts with
      | none => none
      | some (v, ts) => (entries? close steps ts).map fun (es, ts) ↦ ((n, v) :: es, ts)
    | .punctuator c :: ts => if c = close then some ([], ts) else none
    | _ => none

end

/-- The arguments of a field, if there are parentheses; they are not empty. -/
def arguments? (steps : Nat) : List Token → Option (List (String × Value) × List Token)
  | .punctuator '(' :: ts =>
    match entries? ')' steps ts with
    | some (e :: es, ts) => some (e :: es, ts)
    | _ => none
  | ts => some ([], ts)

/-- The alias and the name of a field, and what follows them. -/
def fieldName? : List Token → Option (Option String × String × List Token)
  | .name a :: .punctuator ':' :: .name n :: ts => some (some a, n, ts)
  | .name n :: ts => some (none, n, ts)
  | _ => none

mutual

/-- The fields up to a closing brace, and what follows it. -/
def fields? : (steps : Nat) → List Token → Option (List Field × List Token)
  | 0, _ => none
  | steps + 1, ts =>
    match ts with
    | .punctuator '\x7d' :: ts => some ([], ts)
    | ts =>
      match fieldName? ts with
      | none => none
      | some (key, name, ts) =>
        match arguments? steps ts with
        | none => none
        | some (args, ts) =>
          match selection? steps ts with
          | none => none
          | some (below, ts) =>
            (fields? steps ts).map fun (fs, ts) ↦ (.mk key name args below :: fs, ts)

/-- The selection below a field, if there are braces; it is not empty. -/
def selection? : (steps : Nat) → List Token → Option (List Field × List Token)
  | 0, _ => none
  | steps + 1, ts =>
    match ts with
    | .punctuator '\x7b' :: ts =>
      match fields? steps ts with
      | some (f :: fs, ts) => some (f :: fs, ts)
      | _ => none
    | ts => some ([], ts)

end

/-- The operation of a type with an optional name and a selection, and nothing after it. -/
def namedOperation? (type : OperationType) (name : Option String) (ts : List Token) :
    Option Operation :=
  match selection? ts.length ts with
  | some (f :: fs, []) => some { type, name, selection := f :: fs }
  | _ => none

/-- The one operation that tokens are; without a keyword it is a query. -/
def operation? : List Token → Option Operation
  | .name keyword :: ts =>
    match Vocabulary.ofWire? keyword with
    | none => none
    | some type =>
      match ts with
      | .name n :: ts => namedOperation? type (some n) ts
      | ts => namedOperation? type none ts
  | ts => namedOperation? .query none ts

/-- The one operation that a text is. -/
def read (s : String) : Option Operation :=
  (tokens? s.toList).bind operation?

/-! ### Writing

Tokens are written in the form without options: no commas, as the lexer has none, a keyword before
the selection, and parentheses and braces only around something.
-/

mutual

/-- The tokens of a value. -/
def Value.tokens : Value → List Token
  | .variable n => [.punctuator '$', .name n]
  | .int n => [.int n]
  | .float x => [.float x]
  | .string s => [.string s]
  | .bool b => [.name (if b then "true" else "false")]
  | .null => [.name "null"]
  | .enum n => [.name n]
  | .list vs => .punctuator '[' :: (itemTokens vs ++ [.punctuator ']'])
  | .object es => .punctuator '\x7b' :: (entryTokens es ++ [.punctuator '\x7d'])

/-- The tokens of values in a row. -/
def itemTokens : List Value → List Token
  | [] => []
  | v :: vs => v.tokens ++ itemTokens vs

/-- The tokens of named values. -/
def entryTokens : List (String × Value) → List Token
  | [] => []
  | (n, v) :: es => .name n :: .punctuator ':' :: (v.tokens ++ entryTokens es)

end

/-- The tokens of arguments; without any there are no parentheses. -/
def argumentTokens (es : List (String × Value)) : List Token :=
  if es.isEmpty then [] else .punctuator '(' :: (entryTokens es ++ [.punctuator ')'])

/-- The tokens of an alias. -/
def keyTokens : Option String → List Token
  | none => []
  | some a => [.name a, .punctuator ':']

/-- A selection in braces; without fields there are none. -/
def bracedTokens (ts : List Token) : List Token :=
  if ts.isEmpty then [] else .punctuator '\x7b' :: (ts ++ [.punctuator '\x7d'])

mutual

/-- The tokens of a field. -/
def Field.tokens : Field → List Token
  | .mk key name args below =>
    keyTokens key ++ .name name :: (argumentTokens args ++ bracedTokens (fieldTokens below))

/-- The tokens of fields in a row. -/
def fieldTokens : List Field → List Token
  | [] => []
  | f :: fs => f.tokens ++ fieldTokens fs

end

/-- The tokens of an operation. -/
def Operation.tokens (o : Operation) : List Token :=
  .name (Vocabulary.wire o.type) ::
    ((o.name.map Token.name).toList ++ bracedTokens (fieldTokens o.selection))

/-! ### Values are read back

Every reader consumes at least one token for each step that it takes, so the number of tokens bounds
the number of steps. The statements for items and entries end with the mark that closes the row,
because that is where these readers stop.
-/

mutual

/-- No word of a value is one that denotes another value. -/
def Value.IsProper : Value → Prop
  | .enum n => nameValue n = .enum n
  | .list vs => AreProper vs
  | .object es => EntriesAreProper es
  | _ => True

/-- The values are proper. -/
def AreProper : List Value → Prop
  | [] => True
  | v :: vs => v.IsProper ∧ AreProper vs

/-- The named values are proper. -/
def EntriesAreProper : List (String × Value) → Prop
  | [] => True
  | (_, v) :: es => v.IsProper ∧ EntriesAreProper es

end

theorem Value.tokens_ne_nil (v : Value) : v.tokens ≠ [] := by
  cases v <;> simp [Value.tokens]

theorem Value.length_tokens_pos (v : Value) : 0 < v.tokens.length :=
  List.length_pos_iff.2 v.tokens_ne_nil

/-- A value starts with no closing bracket. -/
theorem Value.items?_tokens_append (v : Value) (steps : Nat) (ts : List Token) :
    items? (steps + 1) (v.tokens ++ ts) =
      match value? steps (v.tokens ++ ts) with
      | none => none
      | some (v, ts) => (items? steps ts).map fun (vs, ts) ↦ (v :: vs, ts) := by
  cases v <;> rfl

mutual

/-- A value is read back from its tokens, whatever follows them. -/
theorem value?_tokens : ∀ (v : Value) (steps : Nat) (rest : List Token), v.IsProper →
    v.tokens.length ≤ steps → value? steps (v.tokens ++ rest) = some (v, rest)
  | v, 0, rest, _, hsteps => absurd v.length_tokens_pos (by omega)
  | .variable n, steps + 1, rest, _, _ => rfl
  | .int n, steps + 1, rest, _, _ => rfl
  | .float x, steps + 1, rest, _, _ => rfl
  | .string s, steps + 1, rest, _, _ => rfl
  | .bool true, steps + 1, rest, _, _ => rfl
  | .bool false, steps + 1, rest, _, _ => rfl
  | .null, steps + 1, rest, _, _ => rfl
  | .enum n, steps + 1, rest, hproper, _ => by
    have hname : nameValue n = .enum n := hproper
    simp only [Value.tokens, List.cons_append, List.nil_append, value?, hname]
  | .list vs, steps + 1, rest, hproper, hsteps => by
    -- The two brackets are not among the tokens of the items, which leaves one step for the opening
    -- one.
    have hlength : (itemTokens vs).length + 1 ≤ steps := by
      simpa [Value.tokens] using hsteps
    have hitems := items?_tokens vs steps rest hproper hlength
    simp only [Value.tokens, List.cons_append, List.append_assoc, List.nil_append, value?, hitems]
    rfl
  | .object es, steps + 1, rest, hproper, hsteps => by
    have hlength : (entryTokens es).length + 1 ≤ steps := by
      simpa [Value.tokens] using hsteps
    have hentries := entries?_tokens es '\x7d' steps rest hproper hlength
    simp only [Value.tokens, List.cons_append, List.append_assoc, List.nil_append, value?, hentries]
    rfl

/-- The items of a list are read back up to the bracket that closes it. -/
theorem items?_tokens : ∀ (vs : List Value) (steps : Nat) (rest : List Token), AreProper vs →
    (itemTokens vs).length + 1 ≤ steps →
    items? steps (itemTokens vs ++ .punctuator ']' :: rest) = some (vs, rest)
  | _, 0, _, _, hsteps => absurd hsteps (by omega)
  | [], steps + 1, rest, _, _ => rfl
  | v :: vs, steps + 1, rest, hproper, hsteps => by
    have hpos := v.length_tokens_pos
    simp only [itemTokens, List.length_append] at hsteps
    have hvalue := value?_tokens v steps (itemTokens vs ++ .punctuator ']' :: rest) hproper.1
      (by omega)
    have hitems := items?_tokens vs steps rest hproper.2 (by omega)
    rw [itemTokens, List.append_assoc, v.items?_tokens_append, hvalue]
    simp only [hitems]
    rfl

/-- Named values are read back up to the mark that closes them, in an object as in arguments. -/
theorem entries?_tokens : ∀ (es : List (String × Value)) (close : Char) (steps : Nat)
    (rest : List Token), EntriesAreProper es → (entryTokens es).length + 1 ≤ steps →
    entries? close steps (entryTokens es ++ .punctuator close :: rest) = some (es, rest)
  | _, _, 0, _, _, hsteps => absurd hsteps (by omega)
  | [], close, steps + 1, rest, _, _ => by simp [entryTokens, entries?]
  | (n, v) :: es, close, steps + 1, rest, hproper, hsteps => by
    simp only [entryTokens, List.length_append, List.length_cons] at hsteps
    have hvalue := value?_tokens v steps (entryTokens es ++ .punctuator close :: rest) hproper.1
      (by omega)
    have hentries := entries?_tokens es close steps rest hproper.2 (by omega)
    simp only [entryTokens, List.cons_append, List.append_assoc, entries?, hvalue, hentries]
    rfl

end

/-! ### Operations are read back

The induction is on fields, and takes the values as read back already. What may follow a field is a
name or a closing brace (`startsNot_fieldTokens`), and none of the optional parts begins with
either.
-/

mutual

/-- The arguments at and below a field are proper. -/
def Field.IsProper : Field → Prop
  | .mk _ _ args below => EntriesAreProper args ∧ FieldsAreProper below

/-- The arguments in a selection are proper. -/
def FieldsAreProper : List Field → Prop
  | [] => True
  | f :: fs => f.IsProper ∧ FieldsAreProper fs

end

/-- The tokens do not start with a punctuator. -/
def StartsNot (c : Char) (ts : List Token) : Prop :=
  ts.head? ≠ some (.punctuator c)

/-- The alias and the name of a field are read back. Without an alias it matters that no colon
follows. -/
theorem fieldName?_tokens (key : Option String) (n : String) {ts : List Token}
    (h : StartsNot ':' ts) : fieldName? (keyTokens key ++ .name n :: ts) = some (key, n, ts) := by
  cases key with
  | some a => rfl
  | none =>
    unfold fieldName?
    split
    · next heq =>
      cases heq
      exact absurd rfl h
    · next heq =>
      cases heq
      rfl
    · next hname => exact absurd rfl (hname n ts)

/-- The arguments of a field are read back, or none where there are no parentheses. -/
theorem arguments?_tokens (es : List (String × Value)) (steps : Nat) {ts : List Token}
    (hproper : EntriesAreProper es) (hsteps : (argumentTokens es).length ≤ steps)
    (h : StartsNot '(' ts) : arguments? steps (argumentTokens es ++ ts) = some (es, ts) := by
  cases es with
  | nil =>
    rw [argumentTokens, List.isEmpty_nil, if_pos rfl, List.nil_append]
    unfold arguments?
    split
    · exact absurd rfl h
    · rfl
  | cons e es =>
    simp only [argumentTokens, List.isEmpty_cons, Bool.false_eq_true, if_false, List.length_cons,
      List.length_append, List.length_nil] at hsteps
    have hentries := entries?_tokens (e :: es) ')' steps ts hproper (by omega)
    simp only [argumentTokens, List.isEmpty_cons, Bool.false_eq_true, if_false, List.cons_append,
      List.append_assoc, List.nil_append, arguments?, hentries]

/-- A field begins with a name: its alias, or else its own. -/
theorem Field.exists_tokens_eq (f : Field) : ∃ n ts, f.tokens = .name n :: ts := by
  obtain ⟨key, name, args, below⟩ := f
  cases key with
  | none => exact ⟨_, _, rfl⟩
  | some a => exact ⟨_, _, rfl⟩

/-- A selection has tokens exactly if it has fields. -/
theorem isEmpty_fieldTokens (fs : List Field) : (fieldTokens fs).isEmpty = fs.isEmpty := by
  cases fs with
  | nil => rfl
  | cons f fs =>
    obtain ⟨n, ts, hf⟩ := f.exists_tokens_eq
    simp [fieldTokens, hf]

/-- After a field, a name or a closing brace follows. -/
theorem startsNot_fieldTokens {c : Char} (hc : c ≠ '\x7d') (fs : List Field) (rest : List Token) :
    StartsNot c (fieldTokens fs ++ .punctuator '\x7d' :: rest) := by
  cases fs with
  | nil => simpa [StartsNot, fieldTokens] using hc.symm
  | cons f fs =>
    obtain ⟨n, ts, hf⟩ := f.exists_tokens_eq
    simp [StartsNot, fieldTokens, hf]

theorem startsNot_bracedTokens {c : Char} {rest : List Token} (ts : List Token) (hc : c ≠ '\x7b')
    (h : StartsNot c rest) : StartsNot c (bracedTokens ts ++ rest) := by
  unfold bracedTokens
  split
  · exact h
  · simpa [StartsNot] using hc.symm

theorem startsNot_argumentTokens {c : Char} {rest : List Token} (es : List (String × Value))
    (hc : c ≠ '(') (h : StartsNot c rest) : StartsNot c (argumentTokens es ++ rest) := by
  unfold argumentTokens
  split
  · exact h
  · simpa [StartsNot] using hc.symm

/-- A field starts with no closing brace. -/
theorem Field.fields?_tokens_append (f : Field) (steps : Nat) (ts : List Token) :
    fields? (steps + 1) (f.tokens ++ ts) =
      match fieldName? (f.tokens ++ ts) with
      | none => none
      | some (key, name, ts) =>
        match arguments? steps ts with
        | none => none
        | some (args, ts) =>
          match selection? steps ts with
          | none => none
          | some (below, ts) =>
            (fields? steps ts).map fun (fs, ts) ↦ (.mk key name args below :: fs, ts) := by
  obtain ⟨n, us, hf⟩ := f.exists_tokens_eq
  rw [hf]
  rfl

mutual

/-- A selection is read back up to the brace that closes it. -/
theorem fields?_tokens : ∀ (fs : List Field) (steps : Nat) (rest : List Token), FieldsAreProper fs →
    (fieldTokens fs).length + 1 ≤ steps →
    fields? steps (fieldTokens fs ++ .punctuator '\x7d' :: rest) = some (fs, rest)
  | _, 0, _, _, hsteps => absurd hsteps (by omega)
  | [], steps + 1, rest, _, _ => rfl
  | .mk key name args below :: fs, steps + 1, rest, hproper, hsteps => by
    obtain ⟨⟨hargs, hbelow⟩, hfs⟩ := hproper
    simp only [fieldTokens, Field.tokens, List.length_append, List.length_cons] at hsteps
    -- What stands behind a field begins the next field or closes the selection; it opens nothing.
    have hfollows {c : Char} (hc : c ≠ '\x7d') := startsNot_fieldTokens hc fs rest
    have hname := fieldName?_tokens key name (startsNot_argumentTokens args (by decide)
      (startsNot_bracedTokens (fieldTokens below) (by decide) (hfollows (c := ':') (by decide))))
    have hargs := arguments?_tokens args steps hargs (by omega)
      (startsNot_bracedTokens (fieldTokens below) (by decide) (hfollows (c := '(') (by decide)))
    have hbelow := selection?_tokens below steps _ hbelow (by omega) (by omega)
      (hfollows (c := '\x7b') (by decide))
    have hfs := fields?_tokens fs steps rest hfs (by omega)
    rw [fieldTokens, List.append_assoc, Field.fields?_tokens_append]
    simp only [Field.tokens, List.append_assoc, List.cons_append, hname, hargs, hbelow, hfs]
    rfl

/-- The selection below a field is read back, or none where there are no braces. -/
theorem selection?_tokens : ∀ (fs : List Field) (steps : Nat) (rest : List Token),
    FieldsAreProper fs → 0 < steps → (bracedTokens (fieldTokens fs)).length ≤ steps →
    StartsNot '\x7b' rest →
    selection? steps (bracedTokens (fieldTokens fs) ++ rest) = some (fs, rest)
  | _, 0, _, _, hpos, _, _ => absurd hpos (by omega)
  | [], steps + 1, rest, _, _, _, hrest => by
    rw [bracedTokens, isEmpty_fieldTokens, List.isEmpty_nil, if_pos rfl, List.nil_append]
    unfold selection?
    split
    · exact absurd rfl hrest
    · rfl
  | f :: fs, steps + 1, rest, hproper, _, hsteps, _ => by
    simp only [bracedTokens, isEmpty_fieldTokens, List.isEmpty_cons, Bool.false_eq_true, if_false,
      List.length_cons, List.length_append, List.length_nil] at hsteps
    have hfields := fields?_tokens (f :: fs) steps rest hproper (by omega)
    simp only [bracedTokens, isEmpty_fieldTokens, List.isEmpty_cons, Bool.false_eq_true, if_false,
      List.cons_append, List.append_assoc, List.nil_append, selection?, hfields]

end

theorem namedOperation?_tokens (type : OperationType) (name : Option String) {fs : List Field}
    (hne : fs ≠ []) (hproper : FieldsAreProper fs) :
    namedOperation? type name (bracedTokens (fieldTokens fs)) =
      some { type, name, selection := fs } := by
  obtain ⟨f, fs, rfl⟩ := List.exists_cons_of_ne_nil hne
  have hpos : 0 < (bracedTokens (fieldTokens (f :: fs))).length := by
    simp [bracedTokens, isEmpty_fieldTokens]
  have hselection := selection?_tokens (f :: fs) _ [] hproper hpos (Nat.le_refl _)
    (by simp [StartsNot])
  rw [List.append_nil] at hselection
  simp only [namedOperation?, hselection]

theorem ofWire?_wire (type : OperationType) :
    Vocabulary.ofWire? (Vocabulary.wire type) = some type := by
  cases type <;> decide

/-- **An operation is read back from its tokens.** -/
theorem operation?_tokens {o : Operation} (hne : o.selection ≠ [])
    (hproper : FieldsAreProper o.selection) : operation? o.tokens = some o := by
  obtain ⟨type, name, fs⟩ := o
  have hnamed := namedOperation?_tokens type name hne hproper
  obtain ⟨f, fs, rfl⟩ := List.exists_cons_of_ne_nil hne
  cases name with
  | some n =>
    simp only [Operation.tokens, operation?, ofWire?_wire, Option.map_some, Option.toList_some,
      List.cons_append, List.nil_append, hnamed]
  | none =>
    -- Without a name the keyword is followed by the brace at once, so the reader must not take a
    -- name there.
    have hbraced : bracedTokens (fieldTokens (f :: fs)) =
        .punctuator '\x7b' :: (fieldTokens (f :: fs) ++ [.punctuator '\x7d']) := by
      simp [bracedTokens, isEmpty_fieldTokens]
    rw [hbraced] at hnamed
    simp only [Operation.tokens, operation?, ofWire?_wire, Option.map_none, Option.toList_none,
      List.nil_append, hbraced, hnamed]

end CatalogQuery.Grammar
