import CatalogQuery.Proofs.WireValue

/-!
# Identifiers and their canonical texts

What the reader of identifiers accepts. `Id.ofPoints` takes a text apart into a namespace, a type
and a number; each part is given back as it was read, so a text that is read is the canonical text
of what it is read as (`Id.ofPoints_eq_ok`), and the identifiers that are read are the well-formed
ones (`Id.ofPoints_eq_ok_iff`).

`Id.IsGid` says the form of a canonical text in characters, with no reader in it, and `Id.Made`
holds of every identifier that a call answers. That equal identifiers are those of equal texts is no
fact about the way a text is put together: both are what the one text is read as.

## Why reading is exact

The reader is given code points, among which there may be halves of surrogate pairs, and an
identifier consists of strings. Nothing is lost on the way: each part is checked point by point, and
what passes is below 0x80. `Id.ofAscii` and the code points of a string undo each other there. So
the proof goes backwards through the reader and finds in each part what was taken
(`Id.eq_append_of_segment?`), with nothing left over at the end, not even a line break.

## Identifiers that are made

A factory takes a type and a number and checks the number as the reader does, and the namespace that
it puts in is well-formed. Therefore all identifiers that a caller can get are well-formed
(`Id.Made.isWellFormed`), and a well-formed identifier is what its own text is read as.
-/

namespace CatalogQuery

/-! ### Words -/

/-- A word that is read has the text that it was read from. -/
theorem Vocabulary.wire_of_ofWire? {α : Type} [Vocabulary α] {s : String} {w : α}
    (h : ofWire? s = some w) : wire w = s := by
  simpa using List.find?_some h

namespace Id

variable {ps rest taken start : List Nat} {member : Nat → Bool} {i : Id}

/-! ### Parts of a text

The reader cuts a text at slashes. What it takes and what it leaves make up the text again, for each
of its steps.
-/

/-- What comes after a beginning follows it. -/
theorem eq_append_of_after? (h : after? start ps = some rest) : ps = start ++ rest := by
  induction start generalizing ps with
  | nil =>
    cases h
    rfl
  | cons s start ih =>
    cases ps with
    | nil => cases h
    | cons p ps =>
      rw [after?] at h
      split at h
      · rename_i hsp
        rw [hsp, ih h, List.cons_append]
      · cases h

/-- A segment is not empty, has the points that it may have, and ends before a slash. -/
theorem eq_append_of_segment? (h : segment? member ps = some (taken, rest)) :
    taken ≠ [] ∧ (∀ p ∈ taken, member p = true) ∧ ps = taken ++ 0x2F :: rest := by
  rw [segment?] at h
  split at h
  · rename_i p qs after htake hdrop
    cases h
    refine ⟨List.cons_ne_nil _ _, fun q hq ↦ ?_, ?_⟩
    · rw [← htake] at hq
      exact List.mem_takeWhile_imp hq
    · rw [← htake, ← hdrop, List.takeWhile_append_dropWhile]
  · cases h

/-- A text of ASCII code points is given back. -/
theorem codePoints_ofAscii (h : ∀ p ∈ ps, p < 0x80) : codePoints (ofAscii ps).toList = ps := by
  rw [ofAscii, codePoints, String.toList_ofList, List.map_map]
  refine (List.map_congr_left fun p hp ↦ ?_).trans (List.map_id ps)
  have hlt := h p hp
  exact Text.toNat_ofNat_of_lt (by omega)

theorem lt_of_isDigit {p : Nat} (h : isDigit p = true) : p < 0x80 := by
  simp only [isDigit, Bool.and_eq_true, decide_eq_true_eq] at h
  omega

theorem lt_of_isLetter {p : Nat} (h : isLetter p = true) : p < 0x80 := by
  simp only [isLetter, Bool.and_eq_true, Bool.or_eq_true, decide_eq_true_eq] at h
  omega

/-- The points of a namespace are ASCII. -/
theorem lt_of_isSpacePoint {p : Nat} (h : isSpacePoint p = true) : p < 0x80 := by
  simp only [isSpacePoint, Bool.or_eq_true, beq_iff_eq] at h
  rcases h with ((hdigit | hletter) | rfl) | rfl
  · exact lt_of_isDigit hdigit
  · exact lt_of_isLetter hletter
  · decide
  · decide

/-! ### Public contract -/

/-- **A text that is read as an identifier is its canonical text.** -/
theorem ofPoints_eq_ok (h : ofPoints ps = .ok i) :
    i.IsWellFormed ∧ codePoints i.gid.toList = ps := by
  rw [ofPoints] at h
  split at h
  · cases h
  · rename_i space type number hsplit
    split at h
    · cases h
    · rename_i entityType htype
      split at h
      · rename_i hnumber
        cases h
        obtain ⟨afterStart, hstart, hsplit⟩ := Option.bind_eq_some_iff.1 hsplit
        obtain ⟨⟨space', afterSpace⟩, hspace, hsplit⟩ := Option.bind_eq_some_iff.1 hsplit
        obtain ⟨⟨type', number'⟩, htypePoints, hsplit⟩ := Option.bind_eq_some_iff.1 hsplit
        dsimp only at hsplit
        split at hsplit
        · cases hsplit
        · cases hsplit
          obtain ⟨hne, hpoints, rfl⟩ := eq_append_of_segment? hspace
          obtain ⟨-, hletters, rfl⟩ := eq_append_of_segment? htypePoints
          obtain rfl := eq_append_of_after? hstart
          have hdigits : ∀ p ∈ number, isDigit p = true := by
            rw [isNumber, Bool.and_eq_true, List.all_eq_true] at hnumber
            exact hnumber.2
          have hspaceBack := codePoints_ofAscii fun p hp ↦ lt_of_isSpacePoint (hpoints p hp)
          have htypeBack := codePoints_ofAscii fun p hp ↦ lt_of_isLetter (hletters p hp)
          have hnumberBack := codePoints_ofAscii fun p hp ↦ lt_of_isDigit (hdigits p hp)
          refine ⟨⟨?_, ?_, ?_⟩, ?_⟩
          · rwa [hnumberBack]
          · rwa [hspaceBack]
          · rwa [hspaceBack]
          · rw [codePoints_gid, Vocabulary.wire_of_ofWire? htype, hspaceBack, htypeBack,
              hnumberBack]
      · cases h

/-- **The identifiers that are read** are the well-formed ones, each from its canonical text
alone. -/
theorem ofPoints_eq_ok_iff : ofPoints ps = .ok i ↔ i.IsWellFormed ∧ codePoints i.gid.toList = ps :=
  ⟨ofPoints_eq_ok, fun ⟨h, hps⟩ ↦ hps ▸ ofPoints_gid h⟩

variable {raw type : Datum} {t : Text}

/-- Reading a value that is a text is reading its code points. -/
theorem parse_eq_ok_iff (h : raw.asText? = some t) :
    parse raw = .ok i ↔ i.IsWellFormed ∧ t.points = codePoints i.gid.toList := by
  have hread : parse raw = .ok i ↔ ofPoints t.points = .ok i := by
    simp only [parse, h]
    rcases ofPoints t.points with part | j
    · dsimp only
      split
      · simp [Failure.identifier, Failure.showing]
      · simp
    · simp
  rw [hread, ofPoints_eq_ok_iff, eq_comm (a := t.points)]

/-- A text that is read as an identifier is its canonical text. -/
theorem points_of_parse {raw : Text} (h : parse (.text raw) = .ok i) :
    raw.points = codePoints i.gid.toList :=
  ((parse_eq_ok_iff rfl).1 h).2

/-- A text that is not read is refused as no identifier. -/
theorem parse_cases (h : raw.asText? = some t) :
    (∃ i, parse raw = .ok i) ∨ ∃ shown, parse raw = .error (.invalidIdentifier shown) := by
  have hshown : Failure.identifier raw = .invalidIdentifier raw.plain := by
    simp [Failure.identifier, Failure.showing, Datum.hasText_of_asText? h]
  simp only [parse, h]
  rcases ofPoints t.points with part | j
  · right
    dsimp only
    split
    · exact ⟨_, congrArg Except.error hshown⟩
    · exact ⟨_, rfl⟩
  · exact .inl ⟨j, rfl⟩

/-! ### Identifiers that calls answer

The ways to get an identifier are two factories and the reader. The number that a factory takes is a
text, and is checked in the way in which the reader checks one.
-/

/-- An identifier that a call answers: made from a type and a number, or read from a text. -/
inductive Made : Id → Prop
  /-- From a type and a number. -/
  | make {type raw : Datum} {i : Id} : Id.make type raw = .ok i → Made i
  /-- From a number, of a given type. -/
  | ofType {entityType : EntityType} {raw : Datum} {i : Id} : Id.ofType entityType raw = .ok i →
      Made i
  /-- From a text. -/
  | parse {raw : Datum} {i : Id} : Id.parse raw = .ok i → Made i

/-- A number that a factory takes has the form of a number. -/
theorem isNumber_of_number? {number : String} (h : number? raw = some number) :
    isNumber (codePoints number.toList) = true := by
  rw [number?] at h
  split at h
  · rename_i t _
    split at h
    · rename_i hnumber
      cases h
      have hdigits : ∀ p ∈ t.points, p < 0x80 := by
        intro p hp
        rw [isNumber, Bool.and_eq_true, List.all_eq_true] at hnumber
        exact lt_of_isDigit (hnumber.2 p hp)
      rwa [codePoints_ofAscii hdigits]
    · cases h
  · cases h

/-- An identifier that is made is well-formed. -/
theorem isWellFormed_of_make (h : make type raw = .ok i) : i.IsWellFormed := by
  have hspace : codePoints "shopify".toList ≠ [] ∧
      ∀ p ∈ codePoints "shopify".toList, isSpacePoint p = true := by decide
  rw [make] at h
  rcases hnumber : number? raw with - | number
  · rw [hnumber] at h
    cases h
  · rw [hnumber] at h
    rcases htype : (Vocabulary.ofDatum? type : Option EntityType) with - | entityType
    · simp only [htype] at h
      cases h
    · simp only [htype] at h
      cases h
      exact ⟨isNumber_of_number? hnumber, hspace.1, hspace.2⟩

/-- An identifier that is read is well-formed. -/
theorem isWellFormed_of_parse (h : parse raw = .ok i) : i.IsWellFormed := by
  rcases htext : raw.asText? with - | t
  · rw [parse, htext] at h
    cases h
  · exact ((parse_eq_ok_iff htext).1 h).1

/-- An identifier that a call answers is well-formed. -/
theorem Made.isWellFormed (h : Made i) : i.IsWellFormed := by
  cases h with
  | make hmake => exact isWellFormed_of_make hmake
  | ofType hmake => exact isWellFormed_of_make hmake
  | parse hparse => exact isWellFormed_of_parse hparse

/-- A well-formed identifier is read back from its text. -/
theorem parse_gid (h : i.IsWellFormed) : parse (.str i.gid) = .ok i :=
  (parse_eq_ok_iff rfl).2 ⟨h, rfl⟩

/-- Well-formed identifiers with one text are one. -/
theorem eq_of_gid_eq {j : Id} (hi : i.IsWellFormed) (hj : j.IsWellFormed) (h : i.gid = j.gid) :
    i = j := by
  have hread := parse_gid hi
  rw [h, parse_gid hj] at hread
  exact (Except.ok.inj hread).symm

/-! ### The form of a canonical text

The form is stated in characters and does not mention the reader. It is the same as being the
canonical text of a well-formed identifier, since the namespaces and numbers in it are arbitrary
within their characters and the types are the four that there are.
-/

/-- The form of a canonical text: the scheme, a namespace of letters, digits, low lines and hyphens,
one of four types, and a number of ASCII digits. -/
def IsGid (s : String) : Prop :=
  ∃ space word number : String, s = "gid://" ++ space ++ "/" ++ word ++ "/" ++ number ∧
    space ≠ "" ∧ (∀ c ∈ space.toList, c.isAlphanum = true ∨ c = '_' ∨ c = '-') ∧
    word ∈ ["Product", "ProductVariant", "Location", "BulkOperation"] ∧
    number ≠ "" ∧ ∀ c ∈ number.toList, c.isDigit = true

theorem isDigit_toNat (c : Char) : isDigit c.toNat = c.isDigit := by
  rw [Bool.eq_iff_iff]
  simp [isDigit, Char.isDigit, UInt32.le_iff_toNat_le]

/-- The points of a namespace are letters, digits, low lines and hyphens. -/
theorem isSpacePoint_toNat (c : Char) :
    isSpacePoint c.toNat = true ↔ c.isAlphanum = true ∨ c = '_' ∨ c = '-' := by
  have hletter : isLetter c.toNat = c.isAlpha := by
    have halpha : c.isAlpha = (decide (c.val ≥ 'A'.val ∧ c.val ≤ 'Z'.val) ||
        (decide (c.val ≥ 'a'.val) && decide (c.val ≤ 'z'.val))) := rfl
    rw [halpha, Bool.eq_iff_iff]
    simp [isLetter, UInt32.le_iff_toNat_le]
  have hlow : c.toNat = 0x5F ↔ c = '_' :=
    ⟨fun h ↦ Char.toNat_inj.1 h, fun h ↦ h ▸ rfl⟩
  have hhyphen : c.toNat = 0x2D ↔ c = '-' :=
    ⟨fun h ↦ Char.toNat_inj.1 h, fun h ↦ h ▸ rfl⟩
  simp only [isSpacePoint, isDigit_toNat, hletter, Bool.or_eq_true, beq_iff_eq, hlow, hhyphen,
    Char.isAlphanum, or_assoc, or_comm (a := c.isDigit = true)]

/-- There are four types. -/
theorem exists_wire_eq_iff {word : String} :
    (∃ type : EntityType, Vocabulary.wire type = word) ↔
      word ∈ ["Product", "ProductVariant", "Location", "BulkOperation"] := by
  constructor
  · rintro ⟨type, rfl⟩
    cases type <;> decide
  · intro h
    simp only [List.mem_cons, List.not_mem_nil, or_false] at h
    rcases h with rfl | rfl | rfl | rfl
    · exact ⟨.product, rfl⟩
    · exact ⟨.productVariant, rfl⟩
    · exact ⟨.location, rfl⟩
    · exact ⟨.bulkOperation, rfl⟩

/-- A property of all code points of a string is one of all its characters. -/
theorem forall_mem_codePoints_iff {p : Nat → Prop} {s : String} :
    (∀ n ∈ codePoints s.toList, p n) ↔ ∀ c ∈ s.toList, p c.toNat :=
  List.forall_mem_map

/-- What it means to be well-formed, in characters. -/
theorem isWellFormed_iff : i.IsWellFormed ↔
    i.space ≠ "" ∧ (∀ c ∈ i.space.toList, c.isAlphanum = true ∨ c = '_' ∨ c = '-') ∧
      i.number ≠ "" ∧ ∀ c ∈ i.number.toList, c.isDigit = true := by
  have hne (s : String) : codePoints s.toList ≠ [] ↔ s ≠ "" := by simp [codePoints]
  have hnumber : isNumber (codePoints i.number.toList) = true ↔
      i.number ≠ "" ∧ ∀ c ∈ i.number.toList, c.isDigit = true := by
    have hdigits : (codePoints i.number.toList).all isDigit = true ↔
        ∀ c ∈ i.number.toList, c.isDigit = true := by
      rw [List.all_eq_true, forall_mem_codePoints_iff]
      simp only [isDigit_toNat]
    rw [isNumber, Bool.and_eq_true, hdigits, ← hne]
    simp
  have hspace : (∀ p ∈ codePoints i.space.toList, isSpacePoint p = true) ↔
      ∀ c ∈ i.space.toList, c.isAlphanum = true ∨ c = '_' ∨ c = '-' := by
    rw [forall_mem_codePoints_iff]
    simp only [isSpacePoint_toNat]
  constructor
  · intro h
    exact ⟨(hne _).1 h.space_ne_nil, hspace.1 h.space, hnumber.1 h.number⟩
  · rintro ⟨hspaceNe, hspaceAll, hnumberAll⟩
    exact ⟨hnumber.2 hnumberAll, (hne _).2 hspaceNe, hspace.2 hspaceAll⟩

/-- The texts of that form are those of the well-formed identifiers. -/
theorem isGid_iff {s : String} : IsGid s ↔ ∃ i : Id, i.IsWellFormed ∧ i.gid = s := by
  constructor
  · rintro ⟨space, word, number, rfl, hspaceNe, hspace, hword, hnumberNe, hnumber⟩
    obtain ⟨entityType, rfl⟩ := exists_wire_eq_iff.2 hword
    exact ⟨⟨entityType, number, space⟩, isWellFormed_iff.2 ⟨hspaceNe, hspace, hnumberNe, hnumber⟩,
      rfl⟩
  · rintro ⟨i, hi, rfl⟩
    obtain ⟨hspaceNe, hspace, hnumberNe, hnumber⟩ := isWellFormed_iff.1 hi
    exact ⟨i.space, Vocabulary.wire i.entityType, i.number, rfl, hspaceNe, hspace,
      exists_wire_eq_iff.1 ⟨i.entityType, rfl⟩, hnumberNe, hnumber⟩

/-- **The texts that are read as identifiers are those of the form.** Such a text is the canonical
text of what it is read as, and every other is refused as no identifier. An identifier that a call
answers is read back from its canonical text, and two of them are equal exactly when their texts
are. -/
theorem parse_exact :
    (∀ (raw : Datum) (t : Text), raw.asText? = some t →
      ((∃ i, parse raw = .ok i) ↔ ∃ s, IsGid s ∧ t.points = codePoints s.toList) ∧
      (∀ i, parse raw = .ok i → t.points = codePoints i.gid.toList) ∧
      ((¬ ∃ s, IsGid s ∧ t.points = codePoints s.toList) →
        ∃ shown, parse raw = .error (.invalidIdentifier shown))) ∧
    (∀ i, Made i → parse (.str i.gid) = .ok i) ∧
    ∀ i j, Made i → Made j → ((Datum.id i).equal (.id j) = true ↔ i.gid = j.gid) := by
  refine ⟨fun raw t htext ↦ ?_, fun i hi ↦ parse_gid hi.isWellFormed, fun i j hi hj ↦ ?_⟩
  · have hform : (∃ i, parse raw = .ok i) ↔ ∃ s, IsGid s ∧ t.points = codePoints s.toList := by
      simp only [parse_eq_ok_iff htext, isGid_iff]
      constructor
      · rintro ⟨i, hi, hpoints⟩
        exact ⟨i.gid, ⟨i, hi, rfl⟩, hpoints⟩
      · rintro ⟨s, ⟨i, hi, rfl⟩, hpoints⟩
        exact ⟨i, hi, hpoints⟩
    refine ⟨hform, fun i hi ↦ ((parse_eq_ok_iff htext).1 hi).2, fun hno ↦ ?_⟩
    exact (parse_cases htext).resolve_left fun hread ↦ hno (hform.1 hread)
  · have hequal : (Datum.id i).equal (.id j) = true ↔ i = j := by
      show (i == j) = true ↔ i = j
      exact beq_iff_eq
    rw [hequal]
    exact ⟨fun h ↦ congrArg gid h, fun h ↦ eq_of_gid_eq hi.isWellFormed hj.isWellFormed h⟩

/-- Another namespace, with zeros in front of the number; a line break after the number; an
identifier that a factory answers beside one that is read. -/
theorem parse_exact_namespace :
    (∃ i, parse (.str "gid://my-app_2/Product/007") = .ok i) ∧
      (∃ shown, parse (.str "gid://shopify/Product/7\n") = .error (.invalidIdentifier shown)) ∧
      parse (.str (Id.mk .product "7" "shopify").gid) = .ok ⟨.product, "7", "shopify"⟩ ∧
      ¬ (Datum.id ⟨.product, "7", "shopify"⟩).equal (.id ⟨.product, "7", "my-app_2"⟩) = true := by
  obtain ⟨htexts, hback, hequal⟩ := parse_exact
  have hforeign : IsGid "gid://my-app_2/Product/007" :=
    ⟨"my-app_2", "Product", "007", by decide, by decide, by simp, by decide, by decide, by simp⟩
  have hfactory : ofType .product (.str "7") = .ok ⟨.product, "7", "shopify"⟩ := rfl
  have hreader : parse (.str "gid://my-app_2/Product/7") = .ok ⟨.product, "7", "my-app_2"⟩ := rfl
  have hmade : Made ⟨.product, "7", "shopify"⟩ := .ofType hfactory
  have hread : Made ⟨.product, "7", "my-app_2"⟩ := .parse hreader
  refine ⟨(htexts _ _ rfl).1.2 ⟨_, hforeign, rfl⟩, ?_, hback _ hmade, ?_⟩
  · refine (htexts _ _ rfl).2.2 fun hform ↦ ?_
    obtain ⟨i, hi⟩ := (htexts (.str "gid://shopify/Product/7\n") _ rfl).1.2 hform
    cases hi
  · rw [hequal _ _ hmade hread]
    decide

end Id

end CatalogQuery
