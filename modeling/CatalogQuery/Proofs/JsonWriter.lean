import CatalogQuery.Proofs.JsonToken
import Mathlib.Data.List.Nodup

/-!
# Reading what was written as JSON

A value that can be written (`Json.Encodable`) is read back from its text, whatever follows, as its
image in JSON (`Json.decoded`): a word is its wire form, a tuple a list, a value without a form of
its own the text of its plain form, and the keys of a mapping are texts. The induction follows the
writer; the steps of the reader are bounded by twice the length of the text. So the text as a whole
is one value (`Json.readPoints_text`).

The members of an object are read one by one, and one that comes again takes the place of the first.
Where all keys are different the entries are the members in their order (`Json.decoded_map`).

## Reading before something

`ReadsAs cs d` speaks of the characters in front of any others that end a token, and of any number
of steps that is large enough. Both are needed where values stand inside of others: behind an item
there is a comma or a bracket, and the reader has used up steps by then. For elements and members
there are forms of their own, since their readers go on to the closing mark.

A reader looks at the first character of a value to decide what it is, and at the one behind an
opening bracket to tell an empty list from another one. `BeginsValue` is all that has to be known
about it.

## The shape of the recursion

The text of a value is written by recursion over values, items and members, and the main theorem
follows it with a case for each kind of value. The cases are assembled from lemmas about the reader
that mention no writer (`readsAs_signed`, `readsAsElements_singleton`, `ReadsAsMembers.object`). The
empty list and the empty object are cases of their own, because they are read in another way.
-/

namespace CatalogQuery.Json

open Grammar

variable {d k : Datum} {xs : List Datum} {es : List (Datum × Datum)} {t : Text} {cs : List Char}

/-! ### Values that can be written

`Encodable` asks of every part what could go wrong with it: an integer has to be within the digit
limit, a text must not have halves of surrogate pairs, and the key of a mapping has to be of a class
with a text. Numbers that are not finite are written under names which the reader knows, and so
nothing is asked of them.

`decoded` is what comes back. It is not the identity: tuples come back as lists, words, identifiers
and amounts as texts, keys as texts, and of members with the same key the last value is kept in the
place of the first.
-/

/-- A text of characters. -/
def HasCharacters (t : Text) : Prop :=
  ∀ p ∈ t.points, Text.isScalar p = true

theorem hasCharacters_str (s : String) : HasCharacters (.str s) :=
  isScalar_of_mem_codePoints s

/-- The text that a key is written as. -/
def keyName? : Datum → Option Text
  | .null => some (.str "null")
  | .bool b => some (.str (boolText b))
  | .int n => some (.str (integerText n))
  | .float x => some (.str (numberText x))
  | .text t => some t
  | .word w => some (.str w.wire)
  | _ => none

theorem keyText?_eq (k : Datum) : keyText? k = (keyName? k).map quote := by
  cases k <;> rfl

/-- A key that can be written. -/
def EncodableKey (k : Datum) : Prop :=
  (∀ n, k = .int n → integerFits n = true) ∧ ∃ t, keyName? k = some t ∧ HasCharacters t

mutual

/-- A value that can be written: its integers are within the digit limit, its texts are characters,
and its keys have texts. -/
def Encodable : Datum → Prop
  | .int n => integerFits n = true
  | .text t => HasCharacters t
  | .list xs => EncodableItems xs
  | .tuple xs => EncodableItems xs
  | .dict es => EncodableMembers es
  | .foreign o _ => HasCharacters o.plain
  | _ => True

/-- The items can be written. -/
def EncodableItems : List Datum → Prop
  | [] => True
  | x :: xs => Encodable x ∧ EncodableItems xs

/-- The members can be written. -/
def EncodableMembers : List (Datum × Datum) → Prop
  | [] => True
  | (k, v) :: es => EncodableKey k ∧ Encodable v ∧ EncodableMembers es

end

mutual

/-- What is read where a value was written. -/
def decoded : Datum → Datum
  | .null => .null
  | .bool b => .bool b
  | .int n => .int n
  | .float x => .float x
  | .text t => .text (.ofPoints t.points)
  | .word w => .str w.wire
  | .list xs => .list (decodedItems xs)
  | .tuple xs => .list (decodedItems xs)
  | .dict es => ofMembers (decodedMembers es)
  | d => .text (.ofPoints d.plain.points)

/-- What is read where items were written. -/
def decodedItems : List Datum → List Datum
  | [] => []
  | x :: xs => decoded x :: decodedItems xs

/-- What is read where members were written. -/
def decodedMembers : List (Datum × Datum) → List (Text × Datum)
  | [] => []
  | (k, v) :: es => (.ofPoints ((keyName? k).getD (.str "")).points, decoded v) :: decodedMembers es

end

/-! ### Nothing is wrong with such a value -/

mutual

/-- Nothing is wrong with a value that can be written. -/
theorem fault?_of_encodable : ∀ {d : Datum}, Encodable d → fault? d = none
  | .int n, h => by
    rw [Encodable] at h
    rw [fault?, h]
    rfl
  | .list xs, h | .tuple xs, h => by
    rw [Encodable] at h
    rw [fault?]
    exact itemsFault?_of_encodable h
  | .dict es, h => by
    rw [Encodable] at h
    rw [fault?]
    exact membersFault?_of_encodable h
  | .null, _ | .bool _, _ | .float _, _ | .text _, _ | .octets _, _ | .word _, _ | .id _, _
  | .money _, _ | .foreign .., _ => by rw [fault?] <;> simp

/-- Nothing is wrong with items that can be written. -/
theorem itemsFault?_of_encodable : ∀ {xs : List Datum}, EncodableItems xs → itemsFault? xs = none
  | [], _ => by rw [itemsFault?]
  | x :: xs, h => by
    rw [EncodableItems] at h
    rw [itemsFault?, fault?_of_encodable h.1, itemsFault?_of_encodable h.2]
    rfl

/-- Nothing is wrong with members that can be written. -/
theorem membersFault?_of_encodable :
    ∀ {es : List (Datum × Datum)}, EncodableMembers es → membersFault? es = none
  | [], _ => by rw [membersFault?]
  | (k, v) :: es, h => by
    rw [EncodableMembers] at h
    obtain ⟨⟨hint, t, ht, -⟩, hv, hes⟩ := h
    have hvalue : fault? v = none := fault?_of_encodable hv
    have hmembers : membersFault? es = none := membersFault?_of_encodable hes
    have hkey : (keyText? k).isSome = true := by
      rw [keyText?_eq, ht]
      rfl
    cases k with
    | int n => simp [membersFault?, hint n rfl, hvalue, hmembers]
    | _ => simp [membersFault?, hkey, hvalue, hmembers]

end

/-- A value that can be written is written as its text. -/
theorem write_of_encodable (h : Encodable d) : write d = .ok (text d) := by
  rw [write, fault?_of_encodable h]

/-! ### What is read

A bound on the steps from below makes the statements monotone: what is read with some steps is read
with more. Twice the length is enough, for every value is at least one character and costs one step
for itself and one for the list or object around it.
-/

/-- The characters are read as the value, before anything that ends a token. -/
def ReadsAs (cs : List Char) (d : Datum) : Prop :=
  ∀ (steps : Nat) (rest : List Char), 2 * cs.length ≤ steps + 1 → stops rest = true →
    value (steps + 1) (codePoints (cs ++ rest)) = .ok (d, codePoints rest)

/-- The characters are read as the elements of a list that ends behind them. -/
def ReadsAsElements (cs : List Char) (xs : List Datum) : Prop :=
  ∀ (steps : Nat) (rest : List Char), 2 * cs.length + 1 ≤ steps →
    elements steps (codePoints (cs ++ ']' :: rest)) = .ok (xs, codePoints rest)

/-- The characters are read as the members of an object that ends behind them. -/
def ReadsAsMembers (cs : List Char) (ms : List (Text × Datum)) : Prop :=
  ∀ (steps : Nat) (rest : List Char), 2 * cs.length + 1 ≤ steps →
    members steps (codePoints (cs ++ '\x7d' :: rest)) = .ok (ms, codePoints rest)

/-- The first character of a value: neither a blank nor the end of a list. -/
def BeginsValue (cs : List Char) : Prop :=
  ∃ c rest, cs = c :: rest ∧ isBlank c.toNat = false ∧ c ≠ ']'

theorem BeginsValue.append (h : BeginsValue cs) (rest : List Char) : BeginsValue (cs ++ rest) := by
  obtain ⟨c, cs, rfl, hblank, hclose⟩ := h
  exact ⟨c, cs ++ rest, rfl, hblank, hclose⟩

theorem BeginsValue.length_pos (h : BeginsValue cs) : 0 < cs.length := by
  obtain ⟨c, cs, rfl, -, -⟩ := h
  exact Nat.succ_pos _

/-- There are no blanks before a value. -/
theorem skipBlanks_of_beginsValue (h : BeginsValue cs) :
    skipBlanks (codePoints cs) = codePoints cs := by
  obtain ⟨c, rest, rfl, hblank, -⟩ := h
  exact List.dropWhile_cons_of_neg (by simp [hblank])

/-! ### Numbers

Integers and finite numbers begin with a digit, behind a sign or without one, and are handed to the
reader of numbers. What that reads of them was shown apart from values (`number_toDigits`,
`number_magnitudeText`).
-/

theorem exists_toNat_of_isDigit {c : Char} (hc : c.isDigit = true) :
    ∃ n < 10, c.toNat = 0x30 + n := by
  have hdigit : Numeral.isDigit c.toNat = true := (Numeral.isDigit_toNat c).trans hc
  simp only [Numeral.isDigit, Bool.and_eq_true, decide_eq_true_eq] at hdigit
  exact ⟨c.toNat - 0x30, by omega, by omega⟩

/-- A numeral without a sign is read as a number. -/
theorem value_of_isDigit {c : Char} (hc : c.isDigit = true) (steps : Nat) (ps : List Nat) :
    value (steps + 1) (c.toNat :: ps) = number false (c.toNat :: ps) := by
  obtain ⟨n, hn, hc⟩ := exists_toNat_of_isDigit hc
  rw [hc]
  interval_cases n <;> rfl

/-- A numeral with a sign is read as a number. -/
theorem value_of_minus {c : Char} (hc : c.isDigit = true) (steps : Nat) (ps : List Nat) :
    value (steps + 1) (0x2D :: c.toNat :: ps) = number true (c.toNat :: ps) := by
  obtain ⟨n, hn, hc⟩ := exists_toNat_of_isDigit hc
  rw [hc]
  interval_cases n <;> rfl

/-- A sign, if the number is negative. -/
def signText (negative : Bool) : List Char :=
  if negative then ['-'] else []

/-- A numeral begins a value, with a sign or without one. -/
theorem beginsValue_signed {c : Char} (hc : c.isDigit = true) (negative : Bool) (cs : List Char) :
    BeginsValue (signText negative ++ c :: cs) := by
  cases negative with
  | true => exact ⟨'-', _, rfl, rfl, by decide⟩
  | false =>
    refine ⟨c, cs, rfl, ?_, fun h ↦ absurd hc (by rw [h]; decide)⟩
    obtain ⟨n, hn, hc⟩ := exists_toNat_of_isDigit hc
    rw [hc]
    interval_cases n <;> rfl

/-- What begins with a digit, behind a sign or without one, is read as a number. -/
theorem readsAs_signed {negative : Bool} {c : Char} (hc : c.isDigit = true)
    (h : ∀ rest, stops rest = true →
      number negative (codePoints (c :: cs ++ rest)) = .ok (d, codePoints rest)) :
    ReadsAs (signText negative ++ c :: cs) d := by
  intro steps rest _ hrest
  rw [← h rest hrest, List.append_assoc]
  cases negative with
  | true => exact value_of_minus hc steps (codePoints (cs ++ rest))
  | false => exact value_of_isDigit hc steps (codePoints (cs ++ rest))

/-- An integer is written as a sign and digits. -/
theorem exists_integerText (n : Int) :
    ∃ c ds, Nat.toDigits 10 n.natAbs = c :: ds ∧ c.isDigit = true ∧
      (integerText n).toList = signText (n < 0) ++ c :: ds := by
  obtain ⟨c, ds, hds, hc⟩ := exists_isDigit_cons_toDigits n.natAbs
  refine ⟨c, ds, hds, hc, ?_⟩
  rw [← hds]
  cases n <;> simp [integerText, signText]

/-- A finite number is written as a sign and something that begins with a digit. -/
theorem exists_display (negative : Bool) {m e : Nat} (h : IsCanonical m e) :
    ∃ c ds, Binary64.magnitudeText m e = c :: ds ∧ c.isDigit = true ∧
      (numberText (.finite negative m e h)).toList = signText negative ++ c :: ds := by
  have hnumber : number? negative (Binary64.magnitudeText m e ++ []) = _ :=
    number?_magnitudeText h rfl
  rw [List.append_nil] at hnumber
  obtain ⟨c, ds, hds, hc⟩ := exists_isDigit_cons_of_number? hnumber
  refine ⟨c, ds, hds, hc, ?_⟩
  simp [numberText, Binary64.display, signText, hds]

/-- An integer is read back. -/
theorem readsAs_integerText {n : Int} (h : integerFits n = true) :
    ReadsAs (integerText n).toList (.int n) := by
  have hfits : n.natAbs < 10 ^ integerDigitLimit := by
    unfold integerFits at h
    generalize integerDigitLimit = limit at h ⊢
    simpa using h
  have hsigned : (if decide (n < 0) then -(n.natAbs : Int) else n.natAbs) = n := by
    simp only [decide_eq_true_eq]
    split <;> omega
  obtain ⟨c, ds, hds, hc, htext⟩ := exists_integerText n
  rw [htext]
  refine readsAs_signed hc fun rest hrest ↦ ?_
  rw [← hds, number_toDigits _ hfits hrest, hsigned]

/-- A number is read back, and so are the three that are not finite. -/
theorem readsAs_numberText (x : Binary64) : ReadsAs (numberText x).toList (.float x) := by
  cases x with
  | nan => exact fun _ _ _ _ ↦ rfl
  | inf negative => cases negative <;> exact fun _ _ _ _ ↦ rfl
  | finite negative m e h =>
    obtain ⟨c, ds, hds, hc, htext⟩ := exists_display negative h
    rw [htext]
    refine readsAs_signed hc fun rest hrest ↦ ?_
    rw [← hds, number_magnitudeText h hrest]

/-! ### Names and texts -/

/-- A truth value is read back. -/
theorem readsAs_boolText (b : Bool) : ReadsAs (boolText b).toList (.bool b) := by
  cases b <;> exact fun _ _ _ _ ↦ rfl

theorem toList_quote (t : Text) :
    (quote t).toList = '"' :: (t.points.flatMap escapePlain ++ ['"']) := by
  simp [quote, plainLiteral]

theorem beginsValue_quote (t : Text) : BeginsValue (quote t).toList := by
  rw [toList_quote]
  exact ⟨'"', _, rfl, rfl, by decide⟩

/-- What stands between the marks is read as the text. -/
theorem string_quote (h : HasCharacters t) (rest : List Char) :
    string (codePoints (t.points.flatMap escapePlain ++ '"' :: rest)) =
      .ok (.ofPoints t.points, codePoints rest) := by
  rw [codePoints_append]
  exact string_plainLiteral h _

/-- A text is read back. -/
theorem readsAs_quote (h : HasCharacters t) :
    ReadsAs (quote t).toList (.text (.ofPoints t.points)) := by
  intro steps rest _ _
  rw [toList_quote, List.cons_append, List.append_assoc]
  show (string (codePoints (_ ++ '"' :: rest))).map _ = _
  rw [string_quote h]
  rfl

/-! ### Lists

A list is read up to the first element to see that it is not empty, and then element by element.
What separates two elements is a comma and a blank, and the blank is skipped before the next one is
read.
-/

/-- One element, and the end of the list. -/
theorem readsAsElements_singleton {x : Datum} (h : ReadsAs cs x) (hcs : BeginsValue cs) :
    ReadsAsElements cs [x] := by
  intro steps rest hsteps
  -- One step is for the list and one for the element, and an element has at least one character.
  have hpos := hcs.length_pos
  obtain ⟨steps, rfl⟩ : ∃ n, steps = n + 2 := ⟨steps - 2, by omega⟩
  rw [elements, h steps (']' :: rest) (by omega) rfl]
  rfl

/-- One more element in front of others. -/
theorem ReadsAsElements.cons {x : Datum} (h : ReadsAs cs x) (hcs : BeginsValue cs) {ds : List Char}
    (hxs : ReadsAsElements ds xs) (hds : BeginsValue ds) :
    ReadsAsElements (cs ++ ',' :: ' ' :: ds) (x :: xs) := by
  intro steps rest hsteps
  rw [List.length_append, List.length_cons, List.length_cons] at hsteps
  have hpos := hcs.length_pos
  obtain ⟨steps, rfl⟩ : ∃ n, steps = n + 2 := ⟨steps - 2, by omega⟩
  rw [List.append_assoc, elements, h steps (',' :: ' ' :: ds ++ ']' :: rest) (by omega) rfl]
  show (elements (steps + 1) (skipBlanks (codePoints (ds ++ ']' :: rest))) >>= _) = _
  rw [skipBlanks_of_beginsValue (hds.append _), hxs (steps + 1) rest (by omega)]
  rfl

/-- Elements in brackets are a list. -/
theorem ReadsAsElements.list (h : ReadsAsElements cs xs) (hcs : BeginsValue cs) :
    ReadsAs ('[' :: cs ++ [']']) (.list xs) := by
  intro steps rest hsteps _
  rw [List.length_append, List.length_cons, List.length_singleton] at hsteps
  have hskip := skipBlanks_of_beginsValue (hcs.append (']' :: rest))
  have hread := h steps rest (by omega)
  -- The reader looks for the empty list first.
  obtain ⟨c, cs, rfl, -, hclose⟩ := hcs
  have hne : c.toNat ≠ 0x5D := fun hc ↦ hclose (Char.toNat_inj.1 hc)
  rw [List.append_assoc]
  show value (steps + 1) (0x5B :: codePoints (c :: cs ++ ']' :: rest)) = _
  rw [value, hskip]
  split
  · next heq => exact absurd (List.cons.inj heq).1 hne
  · rw [hread]
    rfl

/-! ### Objects -/

/-- A key is followed by a colon and a value. -/
theorem members_quote (ht : HasCharacters t) (hcs : BeginsValue cs) (steps : Nat) :
    members (steps + 1) (codePoints ((quote t).toList ++ ':' :: ' ' :: cs)) = (do
      let (v, rest) ← value steps (codePoints cs)
      match skipBlanks rest with
      | 0x7D :: rest => return ([(.ofPoints t.points, v)], rest)
      | 0x2C :: rest =>
        let (ms, rest) ← members steps (skipBlanks rest)
        return ((.ofPoints t.points, v) :: ms, rest)
      | _ => .error .malformed) := by
  rw [← skipBlanks_of_beginsValue hcs, toList_quote, List.cons_append, List.append_assoc]
  show (string (codePoints (t.points.flatMap escapePlain ++ '"' :: ':' :: ' ' :: cs)) >>= _) = _
  rw [string_quote ht]
  rfl

/-- One member, and the end of the object. -/
theorem readsAsMembers_singleton (ht : HasCharacters t) (h : ReadsAs cs d) (hcs : BeginsValue cs) :
    ReadsAsMembers ((quote t).toList ++ ':' :: ' ' :: cs) [(.ofPoints t.points, d)] := by
  intro steps rest hsteps
  rw [List.length_append, List.length_cons, List.length_cons] at hsteps
  obtain ⟨steps, rfl⟩ : ∃ n, steps = n + 2 := ⟨steps - 2, by omega⟩
  rw [List.append_assoc, List.cons_append, List.cons_append, members_quote ht (hcs.append _),
    h steps ('\x7d' :: rest) (by omega) rfl]
  rfl

/-- One more member in front of others. -/
theorem ReadsAsMembers.cons {ms : List (Text × Datum)} {ds : List Char} (ht : HasCharacters t)
    (h : ReadsAs cs d) (hcs : BeginsValue cs) (hms : ReadsAsMembers ds ms) (hds : BeginsValue ds) :
    ReadsAsMembers ((quote t).toList ++ ':' :: ' ' :: (cs ++ ',' :: ' ' :: ds))
      ((.ofPoints t.points, d) :: ms) := by
  intro steps rest hsteps
  simp only [List.length_append, List.length_cons] at hsteps
  obtain ⟨steps, rfl⟩ : ∃ n, steps = n + 2 := ⟨steps - 2, by omega⟩
  rw [List.append_assoc, List.cons_append, List.cons_append, List.append_assoc,
    members_quote ht (hcs.append _), h steps (',' :: ' ' :: ds ++ '\x7d' :: rest) (by omega) rfl]
  show (members (steps + 1) (skipBlanks (codePoints (ds ++ '\x7d' :: rest))) >>= _) = _
  rw [skipBlanks_of_beginsValue (hds.append _), hms (steps + 1) rest (by omega)]
  rfl

/-- Members in braces are an object. -/
theorem ReadsAsMembers.object {ms : List (Text × Datum)} (h : ReadsAsMembers ('"' :: cs) ms) :
    ReadsAs ('\x7b' :: ('"' :: cs) ++ ['\x7d']) (ofMembers ms) := by
  intro steps rest hsteps _
  simp only [List.length_append, List.length_cons, List.length_nil] at hsteps
  have hread := h steps rest (by rw [List.length_cons]; omega)
  rw [List.append_assoc]
  show (members steps (codePoints ('"' :: cs ++ '\x7d' :: rest))).map _ = _
  rw [hread]
  rfl

/-! ### The text of a value

The mutual recursion has one theorem for each function of the writer. A list and an object with
something in them are told from empty ones by how their first part begins.
-/

theorem joinWith_cons (part next : String) (parts : List String) :
    (joinWith ", " (part :: next :: parts)).toList =
      part.toList ++ ',' :: ' ' :: (joinWith ", " (next :: parts)).toList := by
  simp [joinWith]

/-- What the first part begins, the whole begins. -/
theorem beginsValue_joinWith {part : String} (h : BeginsValue part.toList) (parts : List String) :
    BeginsValue (joinWith ", " (part :: parts)).toList := by
  cases parts with
  | nil => exact h
  | cons next parts =>
    rw [joinWith_cons]
    exact h.append _

/-- The text of a value begins as the reader expects of one. -/
theorem beginsValue_text (h : Encodable d) : BeginsValue (text d).toList := by
  cases d with
  | null => exact ⟨'n', _, rfl, rfl, by decide⟩
  | bool b =>
    cases b with
    | true => exact ⟨'t', _, rfl, rfl, by decide⟩
    | false => exact ⟨'f', _, rfl, rfl, by decide⟩
  | int n =>
    obtain ⟨c, ds, -, hc, htext⟩ := exists_integerText n
    rw [text, htext]
    exact beginsValue_signed hc _ ds
  | float x =>
    cases x with
    | nan => exact ⟨'N', _, rfl, rfl, by decide⟩
    | inf negative =>
      cases negative with
      | true => exact ⟨'-', _, rfl, rfl, by decide⟩
      | false => exact ⟨'I', _, rfl, rfl, by decide⟩
    | finite negative m e hcanonical =>
      obtain ⟨c, ds, -, hc, htext⟩ := exists_display negative hcanonical
      rw [text, htext]
      exact beginsValue_signed hc _ ds
  | list xs | tuple xs =>
    rw [text, String.toList_append, String.toList_append]
    exact ⟨'[', _, rfl, rfl, by decide⟩
  | dict es =>
    rw [text, String.toList_append, String.toList_append]
    exact ⟨'\x7b', _, rfl, rfl, by decide⟩
  | text | word | octets | id | money | foreign => exact beginsValue_quote _

/-- A member is the text of its key, a colon and the text of its value. -/
theorem memberTexts_cons (hk : keyName? k = some t) (v : Datum) (es : List (Datum × Datum)) :
    memberTexts ((k, v) :: es) = (quote t ++ ": " ++ text v) :: memberTexts es := by
  rw [memberTexts, keyText?_eq, hk]
  rfl

theorem decodedMembers_cons (hk : keyName? k = some t) (v : Datum) (es : List (Datum × Datum)) :
    decodedMembers ((k, v) :: es) = (.ofPoints t.points, decoded v) :: decodedMembers es := by
  rw [decodedMembers, hk]
  rfl

theorem toList_member (t : Text) (s : String) :
    (quote t ++ ": " ++ s).toList = (quote t).toList ++ ':' :: ' ' :: s.toList := by
  simp

theorem beginsValue_member (t : Text) (s : String) : BeginsValue (quote t ++ ": " ++ s).toList := by
  rw [toList_member]
  exact (beginsValue_quote t).append _

/-- The members of an object begin with the quotation mark of a key. -/
theorem exists_joinWith_member (t : Text) (s : String) (parts : List String) :
    ∃ cs, (joinWith ", " ((quote t ++ ": " ++ s) :: parts)).toList = '"' :: cs := by
  have hmember : ∃ cs, (quote t ++ ": " ++ s).toList = '"' :: cs := by
    rw [toList_member, toList_quote]
    exact ⟨_, rfl⟩
  obtain ⟨cs, hcs⟩ := hmember
  cases parts with
  | nil => exact ⟨cs, hcs⟩
  | cons next parts => exact ⟨_, by rw [joinWith_cons, hcs, List.cons_append]⟩

mutual

/-- **What was written of a value is read as its image.** -/
theorem readsAs_text : ∀ {d : Datum}, Encodable d → ReadsAs (text d).toList (decoded d)
  | .null, _ => fun _ _ _ _ ↦ rfl
  | .bool b, _ => by
    rw [text, decoded]
    exact readsAs_boolText b
  | .int n, h => by
    rw [Encodable] at h
    rw [text, decoded]
    exact readsAs_integerText h
  | .float x, _ => by
    rw [text, decoded]
    exact readsAs_numberText x
  | .text t, h => by
    rw [Encodable] at h
    rw [text, decoded]
    exact readsAs_quote h
  | .foreign o elements, h => by
    rw [Encodable] at h
    rw [text, decoded]
    · exact readsAs_quote h
    all_goals simp
  | .word w, _ => by
    have hread := readsAs_quote (hasCharacters_str w.wire)
    rw [Text.points_str, Text.ofPoints_codePoints, String.ofList_toList] at hread
    rw [text, decoded]
    exact hread
  | .octets _, _ | .id _, _ | .money _, _ => by
    rw [text, decoded]
    · exact readsAs_quote (hasCharacters_str _)
    all_goals simp
  | .list [], _ | .tuple [], _ => fun _ _ _ _ ↦ rfl
  | .list (x :: xs), h | .tuple (x :: xs), h => by
    rw [Encodable] at h
    rw [text, decoded, String.toList_append, String.toList_append]
    exact (readsAsElements_itemTexts h (List.cons_ne_nil _ _)).list
      (beginsValue_joinWith (beginsValue_text h.1) _)
  | .dict [], _ => fun _ _ _ _ ↦ rfl
  | .dict ((k, v) :: es), h => by
    -- An object that is not empty is told from an empty one by the quotation mark of its first key.
    rw [Encodable] at h
    have hread := readsAsMembers_memberTexts h (List.cons_ne_nil _ _)
    obtain ⟨⟨-, t, ht, -⟩, -⟩ := h
    obtain ⟨cs, hcs⟩ := exists_joinWith_member t (text v) (memberTexts es)
    rw [memberTexts_cons ht, hcs] at hread
    rw [text, decoded, memberTexts_cons ht, String.toList_append, String.toList_append, hcs]
    exact hread.object

/-- What was written of items is read as their images. -/
theorem readsAsElements_itemTexts : ∀ {xs : List Datum}, EncodableItems xs → xs ≠ [] →
    ReadsAsElements (joinWith ", " (itemTexts xs)).toList (decodedItems xs)
  | [], _, hne => absurd rfl hne
  | [x], h, _ => by
    rw [EncodableItems] at h
    rw [itemTexts, itemTexts, decodedItems, decodedItems, joinWith]
    exact readsAsElements_singleton (readsAs_text h.1) (beginsValue_text h.1)
  | x :: y :: xs, h, _ => by
    rw [EncodableItems] at h
    have hrest := readsAsElements_itemTexts h.2 (List.cons_ne_nil _ _)
    rw [itemTexts] at hrest
    rw [itemTexts, itemTexts, decodedItems, joinWith_cons]
    exact ReadsAsElements.cons (readsAs_text h.1) (beginsValue_text h.1) hrest
      (beginsValue_joinWith (beginsValue_text h.2.1) _)

/-- What was written of members is read as their images. -/
theorem readsAsMembers_memberTexts : ∀ {es : List (Datum × Datum)}, EncodableMembers es → es ≠ [] →
    ReadsAsMembers (joinWith ", " (memberTexts es)).toList (decodedMembers es)
  | [], _, hne => absurd rfl hne
  | [(k, v)], h, _ => by
    obtain ⟨⟨-, t, ht, hcharacters⟩, hv, -⟩ := h
    rw [memberTexts_cons ht, decodedMembers_cons ht, memberTexts, decodedMembers, joinWith,
      toList_member]
    exact readsAsMembers_singleton hcharacters (readsAs_text hv) (beginsValue_text hv)
  | (k, v) :: (k', v') :: es, h, _ => by
    obtain ⟨⟨-, t, ht, hcharacters⟩, hv, hes⟩ := h
    have hrest := readsAsMembers_memberTexts hes (List.cons_ne_nil _ _)
    obtain ⟨⟨-, t', ht', -⟩, -⟩ := hes
    rw [memberTexts_cons ht'] at hrest
    rw [memberTexts_cons ht, decodedMembers_cons ht, memberTexts_cons ht', joinWith_cons,
      toList_member, List.append_assoc, List.cons_append, List.cons_append]
    exact ReadsAsMembers.cons hcharacters (readsAs_text hv) (beginsValue_text hv) hrest
      (beginsValue_joinWith (beginsValue_member t' _) _)

end

/-! ### The text as a whole -/

/-- **A value that was written is read back**, and nothing is left behind it. -/
theorem readPoints_text (h : Encodable d) :
    readPoints (codePoints (text d).toList) = .ok (decoded d) := by
  have hread := readsAs_text h (2 * (text d).toList.length + 1) [] (by omega) rfl
  rw [List.append_nil] at hread
  rw [readPoints, skipBlanks_of_beginsValue (beginsValue_text h), codePoints, List.length_map]
  rw [codePoints] at hread
  rw [hread]
  rfl

/-! ### Objects with different keys

Members are entered one after the other. As long as no key comes twice each of them is put at the
end, and the entries are the members.
-/

/-- A new key comes last. -/
theorem setEntry_of_not_mem (h : Datum.text t ∉ es.map Prod.fst) (d : Datum) :
    setEntry (.text t) d es = es ++ [(.text t, d)] := by
  induction es with
  | nil => rfl
  | cons e es ih =>
    obtain ⟨k, v⟩ := e
    obtain ⟨hne, hes⟩ := List.ne_and_not_mem_of_not_mem_cons h
    have hrest := ih hes
    cases k with
    | text s =>
      have hst : s ≠ t := fun heq ↦ hne (heq ▸ rfl)
      rw [setEntry, if_neg hst, hrest]
      rfl
    | _ => simp [setEntry, hrest]

/-- Members with different keys are the entries of their object. -/
theorem ofMembers_of_nodup {ms : List (Text × Datum)} (h : (ms.map Prod.fst).Nodup) :
    ofMembers ms = .dict (ms.map fun m ↦ (.text m.1, m.2)) := by
  rw [ofMembers]
  congr 1
  induction ms using List.reverseRecOn with
  | nil => rfl
  | append_singleton ms m ih =>
    rw [List.map_append, List.nodup_append] at h
    obtain ⟨hms, -, hm⟩ := h
    rw [List.foldl_append, ih hms, List.map_append]
    refine setEntry_of_not_mem (fun hmem ↦ ?_) m.2
    rw [List.map_map] at hmem
    obtain ⟨n, hn, heq⟩ := List.mem_map.1 hmem
    exact hm n.1 (List.mem_map_of_mem hn) m.1 (by simp) (Datum.text.inj heq)

/-- Named values become the members of an object. -/
theorem decodedMembers_map (as : List (String × Datum)) :
    decodedMembers (as.map fun a ↦ (.str a.1, a.2)) = as.map fun a ↦ (.str a.1, decoded a.2) := by
  induction as with
  | nil => rfl
  | cons a as ih =>
    rw [List.map_cons, decodedMembers_cons rfl, ih, Text.points_str, Text.ofPoints_codePoints,
      String.ofList_toList]
    rfl

/-- Named values can be written if each of them can. -/
theorem encodableMembers_map {as : List (String × Datum)} (h : ∀ a ∈ as, Encodable a.2) :
    EncodableMembers (as.map fun a ↦ (.str a.1, a.2)) := by
  induction as with
  | nil => trivial
  | cons a as ih =>
    rw [List.forall_mem_cons] at h
    exact ⟨⟨by simp, _, rfl, hasCharacters_str a.1⟩, h.1, ih h.2⟩

/-- **Named values under different names are read back** under these names and in their order. -/
theorem decoded_map {as : List (String × Datum)} (h : (as.map Prod.fst).Nodup) :
    decoded (.dict (as.map fun a ↦ (.str a.1, a.2))) =
      .dict (as.map fun a ↦ (.str a.1, decoded a.2)) := by
  have hnames : ((as.map fun a ↦ ((.str a.1, decoded a.2) : Text × Datum)).map Prod.fst).Nodup := by
    rw [List.map_map]
    show (as.map (Text.str ∘ Prod.fst)).Nodup
    rw [← List.map_map]
    exact h.map fun _ _ heq ↦ Text.str.inj heq
  rw [decoded, decodedMembers_map, ofMembers_of_nodup hnames, List.map_map]
  rfl

end CatalogQuery.Json
