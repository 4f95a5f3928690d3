import CatalogQuery.Proofs.Classification
import CatalogQuery.Proofs.IntegerNumeral
import CatalogQuery.Proofs.IntegerPart
import CatalogQuery.Proofs.Materialize

/-!
# Counts of objects

The count in a bulk operation passes two readers. The check of the payload takes it as a text or as
an integer, and the building of the entity reads the text. `Datum.Counts` says what comes of both
together: a text is read as the integer that it is a numeral of, with blanks, a sign, low lines and
digits of any script; a number has to be whole and within the signed words of 64 bits; an integer is
taken as it is, however large.

`decodeEntry_objectCount` carries this to whole bodies. There is no bound on a count, and none of
its sign. Where the shop writes what it documents, digits of ASCII, the count is what the digits
denote.

## The two readers

The check of the payload has an alternative: a text is kept as it is, and everything else has to be
an integer. As the text is not looked at, a text never fails there, and the building of the entity
is where a text that is no integer is refused. `ObjectCount.count_eq_ok_iff` joins the two readers,
and from there on nobody asks which of them refused.

That a number has to be within 64 bits belongs to decimal numbers only. It is where the check gives
up on converting them, and an integer of any size passes (`Datum.Counts.integer`). A truth value
passes as an integer as well.

## Bodies

`Envelope.HoldsBulk` says of a body, without the decoder, that it holds a bulk operation with
certain entries. Both root fields of bulk operations are covered, one of which has the operation one
level further down (`Envelope.BulkPayload`). A body that holds one is undecodable, or comes out as
its operation does (`Envelope.HoldsBulk.decodeEntry_cases`); and an entry that is a bulk operation
comes from such a body (`Envelope.exists_holdsBulk`). Between these two lemmas and the lemmas of
single counts there is only the node of the operation.
-/

open CatalogQuery.Attempt

namespace CatalogQuery

/-! ### Single counts -/

/-- What a value counts: the integer that it is, the whole number that it is, or the integer that it
is the text of. -/
inductive Datum.Counts : Datum → Int → Prop
  /-- An integer of any size, or a truth value. -/
  | integer {d : Datum} {n : Int} (hd : d.asInt? = some n) : Counts d n
  /-- A decimal number that is whole and within 64 bits. -/
  | whole {x : Binary64} {n : Int} (hx : x.toRat? = some (n : ℚ)) (hlow : -(2 : Int) ^ 63 < n)
      (hhigh : n < 2 ^ 63) : Counts (.float x) n
  /-- A text of an integer, with all that may surround and join its digits. -/
  | text {d : Datum} {n : Int} {t : Text} (a : IntegerNumeral) (hd : d.asText? = some t)
      (ht : t.points = a.points) (hn : n = a.value) : Counts d n

/-- What a field counts that may be absent or null. -/
inductive CountedAs : Option Datum → Option Int → Prop
  /-- There is no such field. -/
  | absent : CountedAs none none
  /-- The field is null. -/
  | null : CountedAs (some .null) none
  /-- The field counts something. -/
  | counted {d : Datum} {n : Int} (h : d.Counts n) : CountedAs (some d) (some n)

namespace ObjectCount

variable {d : Datum} {c : ObjectCount} {t : Text} {n : Int}

/-- A text is kept as it is. -/
theorem check_of_asText? (h : d.asText? = some t) : check d = .ok (.text t) := by
  rw [check, Coerce.text, h]

/-- Any other value has to be an integer. -/
theorem check_of_no_text (h : d.asText? = none) :
    check d = .ok c ↔ ∃ n, Coerce.int d = .ok n ∧ c = .number n := by
  rw [check, Coerce.text, h]
  cases Coerce.int d with
  | error issues => simp [Checked.fail]
  | ok n => simp [Checked.fail, eq_comm]

end ObjectCount

/-- A number is an integer if it is whole and within the signed words of 64 bits. -/
theorem Coerce.intOfFloat_eq_ok_iff {x : Binary64} {n : Int} :
    intOfFloat x = .ok n ↔ x.toRat? = some (n : ℚ) ∧ -(2 : Int) ^ 63 < n ∧ n < 2 ^ 63 := by
  rw [← Binary64.toInt?_eq_some_iff, intOfFloat]
  -- Numbers that are not finite are no integers on either side.
  split
  · next hinfinite =>
    have hnone : x.toInt? = none := by
      cases x with
      | finite => cases hinfinite
      | _ => rfl
    simp [hnone, Checked.fail]
  · cases x.toInt? with
    | none => simp [Checked.fail]
    | some m =>
      have hbounds :
          (decide (-((Nat.pow 2 63 : Nat) : Int) < m) && decide (m < (Nat.pow 2 63 : Nat))) = true ↔
            -(2 : Int) ^ 63 < m ∧ m < 2 ^ 63 := by
        rw [Bool.and_eq_true, decide_eq_true_eq, decide_eq_true_eq]
        norm_num
      simp only [hbounds, Option.some.injEq]
      split
      · next hm =>
        rw [Except.ok.injEq]
        constructor
        · rintro rfl
          exact ⟨rfl, hm⟩
        · exact And.left
      · next hm =>
        constructor
        · intro h
          cases h
        · rintro ⟨rfl, hn⟩
          exact absurd hn hm

/-- What is no text is an integer field's if it is an integer, or a number that is one. -/
theorem Coerce.int_eq_ok_iff {d : Datum} {n : Int} (h : d.asText? = none) :
    int d = .ok n ↔ d.Counts n := by
  constructor
  · intro hint
    -- Integers, truth values and numbers pass; the two forms of text are excluded.
    cases d with
    | int m =>
      cases hint
      exact .integer rfl
    | bool b =>
      cases hint
      exact .integer rfl
    | float x =>
      obtain ⟨hx, hlow, hhigh⟩ := intOfFloat_eq_ok_iff.1 hint
      exact .whole hx hlow hhigh
    | text | word => cases h
    | _ => cases hint
  · intro hcounts
    cases hcounts with
    | integer hd =>
      cases d with
      | int | bool =>
        cases hd
        rfl
      | _ => cases hd
    | whole hx hlow hhigh => exact intOfFloat_eq_ok_iff.2 ⟨hx, hlow, hhigh⟩
    | text _ hd =>
      rw [h] at hd
      cases hd

/-- A text counts the integer that it is read as. -/
theorem Datum.counts_of_asText? {d : Datum} {t : Text} {n : Int} (h : d.asText? = some t) :
    d.Counts n ↔ Numeral.integer? t.points = some n := by
  rw [Numeral.integer?_eq_some_iff]
  constructor
  · intro hcounts
    cases hcounts with
    | integer hd =>
      rw [Datum.asInt?_of_asText? h] at hd
      cases hd
    | whole => cases h
    | text a hd ht hn =>
      rw [h] at hd
      cases hd
      exact ⟨a, ht, hn⟩
  · rintro ⟨a, ht, hn⟩
    exact .text a h ht hn

namespace ObjectCount

variable {d : Datum} {c : ObjectCount} {n : Int} {failure : Failure}

/-- **What is checked and then read is what the value counts.** -/
theorem count_eq_ok_iff (h : check d = .ok c) : c.count = .ok n ↔ d.Counts n := by
  cases ht : d.asText? with
  | some t =>
    rw [check_of_asText? ht] at h
    cases h
    rw [Datum.counts_of_asText? ht, count]
    cases Numeral.integer? t.points <;> simp
  | none =>
    obtain ⟨m, hm, rfl⟩ := (check_of_no_text ht).1 h
    rw [← Coerce.int_eq_ok_iff ht, hm, count, Except.ok.injEq, Except.ok.injEq]

/-- Only a text is refused once it has passed the check. -/
theorem count_eq_error (h : check d = .ok c) (hcount : c.count = .error failure) :
    ∃ t, d.asText? = some t ∧ failure = .invalidScalar (.text t) "UnsignedInt64" := by
  cases ht : d.asText? with
  | some t =>
    rw [check_of_asText? ht] at h
    cases h
    rw [count] at hcount
    split at hcount
    · cases hcount
    · cases hcount
      exact ⟨t, rfl, by simp [Failure.scalar, Failure.showing, Datum.hasText]⟩
  | none =>
    obtain ⟨m, -, rfl⟩ := (check_of_no_text ht).1 h
    cases hcount

end ObjectCount

/-! ### The count of a bulk operation -/

/-- A leaf field passes if its value does. -/
theorem checkLeaf_eq_ok_iff {α : Type} {name plainName : String} {es : List (Datum × Datum)}
    {check : Datum → Checked α} {a : Option α} :
    checkLeaf name plainName es check = .ok a ↔
      checkPresent check (fieldValue? name plainName es) = .ok a := by
  rw [checkLeaf, checkOptional_eq, Checked.under_eq_ok_iff]

/-- A wrapped payload passes with a node if it has one that passes. -/
theorem checkWrapped_eq_some_iff {α : Type} {name plainName : String} {check : Datum → Checked α}
    {d : Datum} {a : α} :
    checkWrapped name plainName check d = .ok (some a) ↔ ∃ outer v, d = .dict outer ∧
      fieldValue? name plainName outer = some v ∧ v ≠ .null ∧ check v = .ok a := by
  cases d with
  | dict es => simp [checkWrapped, checkLeaf_eq_ok_iff, checkPresent_eq_some_iff]
  | _ => simp [checkWrapped, Checked.fail]

/-- The count of a node is what the field was checked as. -/
theorem BulkNode.objectCount_of_check {es : List (Datum × Datum)} {node : BulkNode}
    (h : check (.dict es) = .ok node) :
    checkPresent ObjectCount.check (fieldValue? "objectCount" "object_count" es) =
      .ok node.objectCount := by
  -- The fields are checked one after another, and all of them passed.
  obtain ⟨withUrl, url, hwithUrl, -, hnode⟩ := Checked.ap_eq_ok_iff.1 h
  obtain ⟨withCount, count, hwithCount, hcount, rfl⟩ := Checked.ap_eq_ok_iff.1 hwithUrl
  obtain ⟨withCode, code, hwithCode, -, rfl⟩ := Checked.ap_eq_ok_iff.1 hwithCount
  obtain ⟨withStatus, status, hwithStatus, -, rfl⟩ := Checked.ap_eq_ok_iff.1 hwithCode
  obtain ⟨id, -, rfl⟩ := map_eq_ok_iff.1 hwithStatus
  rw [← hnode]
  exact checkLeaf_eq_ok_iff.1 hcount

/-- What is checked and then read is what the field counts. -/
theorem countedAs_of_rel {value : Option Datum} {raw : Option ObjectCount} {count : Option Int}
    (h : checkPresent ObjectCount.check value = .ok raw)
    (hcount : Option.Rel (fun c n ↦ c.count = .ok n) raw count) : CountedAs value count := by
  cases hcount with
  | none =>
    rcases checkPresent_eq_none_iff.1 h with rfl | rfl
    · exact .absent
    · exact .null
  | some hn =>
    obtain ⟨d, rfl, -, hd⟩ := checkPresent_eq_some_iff.1 h
    exact .counted ((ObjectCount.count_eq_ok_iff hd).1 hn)

/-- A bulk operation that is built counts what its field counts. -/
theorem BulkNode.countedAs_of_entity {es : List (Datum × Datum)} {node : BulkNode}
    {b : BulkOperation} (h : check (.dict es) = .ok node) (hb : node.entity = .ok b) :
    CountedAs (fieldValue? "objectCount" "object_count" es) b.objectCount := by
  have hreads := node.reads
  rw [hb] at hreads
  cases hreads with
  | done hyields => exact countedAs_of_rel (objectCount_of_check h) hyields.objectCount

/-- A count that counts nothing is what the building of the entity fails at. -/
theorem BulkNode.entity_of_not_counts {es : List (Datum × Datum)} {node : BulkNode} {d : Datum}
    (h : check (.dict es) = .ok node) (hd : fieldValue? "objectCount" "object_count" es = some d)
    (hnull : d ≠ .null) (hcounts : ∀ n, ¬ d.Counts n) :
    ∃ t, d.asText? = some t ∧ node.entity = .error (.invalidScalar (.text t) "UnsignedInt64") := by
  have hpresent := objectCount_of_check h
  rw [hd, checkPresent_some hnull] at hpresent
  obtain ⟨c, hc, hraw⟩ := map_eq_ok_iff.1 hpresent
  -- The count is read before anything else, so its failure is that of the node.
  cases hcount : c.count with
  | ok n => exact absurd ((ObjectCount.count_eq_ok_iff hc).1 hcount) (hcounts n)
  | error failure =>
    obtain ⟨t, ht, rfl⟩ := ObjectCount.count_eq_error hc hcount
    refine ⟨t, ht, ?_⟩
    rw [entity, ← hraw, readOptional, hcount]
    rfl

/-! ### Bodies with a bulk operation -/

namespace Envelope

/-- The entries of the bulk operation in the payload of a root field. -/
inductive BulkPayload : RootField → Datum → List (Datum × Datum) → Prop
  /-- The operation stands in the payload of a run. -/
  | run {outer es : List (Datum × Datum)}
      (h : fieldValue? "bulkOperation" "bulk_operation" outer = some (.dict es)) :
      BulkPayload .bulkOperationRunQuery (.dict outer) es
  /-- The operation in progress is the payload. -/
  | current (es : List (Datum × Datum)) : BulkPayload .currentBulkOperation (.dict es) es

/-- The body is an object with nothing under `errors` and a single root field under `data`, whose
payload has a bulk operation with these entries. -/
def HoldsBulk (body : Body) (a : RootField) (es : List (Datum × Datum)) : Prop :=
  ∃ entries payload, Json.read body.bytes = .ok (.dict entries) ∧
    (∀ errors, Datum.field? "errors" entries = some errors → errors.isTruthy = false) ∧
    Datum.field? "data" entries = some (.dict [(.str (Vocabulary.wire a), payload)]) ∧
      BulkPayload a payload es

variable {a : RootField} {payload : Datum} {es : List (Datum × Datum)} {b : BulkOperation}

theorem BulkPayload.ne_null (h : BulkPayload a payload es) : payload ≠ .null := by
  cases h <;> nofun

/-- A payload with a bulk operation is not accepted, or what is built of it is what is built of the
operation. -/
theorem BulkPayload.check_cases (h : BulkPayload a payload es) :
    (∃ issues, Payload.check a payload = .error issues) ∨
      ∃ node p, BulkNode.check (.dict es) = .ok node ∧ Payload.check a payload = .ok p ∧
        p.entry = node.entity.map .bulk := by
  cases h with
  | current es =>
    rw [Payload.check]
    cases hnode : BulkNode.check (.dict es) with
    | error issues => exact .inl ⟨issues, rfl⟩
    | ok node => exact .inr ⟨node, .bulk node, rfl, rfl, rfl⟩
  | @run outer es h =>
    have hleaf : checkWrapped "bulkOperation" "bulk_operation" BulkNode.check (.dict outer) =
        Checked.under (fieldKey "bulkOperation" "bulk_operation" outer)
          ((BulkNode.check (.dict es)).map some) := by
      rw [checkWrapped, checkLeaf, checkOptional_eq, h]
      rfl
    rw [Payload.check, hleaf]
    cases hnode : BulkNode.check (.dict es) with
    | error issues => exact .inl ⟨_, rfl⟩
    | ok node => exact .inr ⟨node, .bulkRun (some node), rfl, rfl, rfl⟩

theorem exists_dict_of_bulkNode_check {d : Datum} {node : BulkNode}
    (h : BulkNode.check d = .ok node) : ∃ es, d = .dict es := by
  cases d with
  | dict es => exact ⟨es, rfl⟩
  | _ => cases h

/-- A bulk operation is built of the payload of one of the two root fields. -/
theorem exists_bulkNode_of_entry {p : Payload} (h : p.entry = .ok (.bulk b)) :
    ∃ node, node.entity = .ok b ∧ (p = .bulk node ∨ p = .bulkRun (some node)) := by
  have hreads := p.reads
  rw [h] at hreads
  cases hreads with
  | done hyields =>
    cases hyields with
    | @bulk node =>
      obtain ⟨_, hentity, heq⟩ := map_eq_ok_iff.1 h
      cases heq
      exact ⟨node, hentity, .inl rfl⟩
    | @bulkRun node =>
      obtain ⟨_, hentity, heq⟩ := map_eq_ok_iff.1 h
      cases heq
      exact ⟨node, hentity, .inr rfl⟩

/-- A payload that passes with a bulk operation holds its entries. -/
theorem exists_bulkPayload_of_check {p : Payload} {node : BulkNode}
    (h : Payload.check a payload = .ok p) (hp : p = .bulk node ∨ p = .bulkRun (some node)) :
    ∃ es, BulkPayload a payload es ∧ BulkNode.check (.dict es) = .ok node := by
  cases a with
  | currentBulkOperation =>
    obtain ⟨_, hnode, rfl⟩ := map_eq_ok_iff.1 h
    rcases hp with heq | heq
    · cases heq
      obtain ⟨es, rfl⟩ := exists_dict_of_bulkNode_check hnode
      exact ⟨es, .current es, hnode⟩
    · cases heq
  | bulkOperationRunQuery =>
    obtain ⟨_, hwrapped, rfl⟩ := map_eq_ok_iff.1 h
    rcases hp with heq | heq
    · cases heq
    · cases heq
      obtain ⟨outer, d, rfl, hd, -, hnode⟩ := checkWrapped_eq_some_iff.1 hwrapped
      obtain ⟨es, rfl⟩ := exists_dict_of_bulkNode_check hnode
      exact ⟨es, .run hd, hnode⟩
  | _ =>
    obtain ⟨_, -, rfl⟩ := map_eq_ok_iff.1 h
    rcases hp with heq | heq <;> cases heq

/-- A payload that was read has passed the check. -/
theorem check_of_readPayload {p : Payload} (h : readPayload a payload = .ok (some p)) :
    Payload.check a payload = .ok p := by
  unfold readPayload at h
  split at h
  · split at h <;> cases h
  · split at h
    · next hcheck =>
      cases h
      exact hcheck
    · cases h

/-- A body with a bulk operation is undecodable, or what is built of it is what is built of the
operation. -/
theorem HoldsBulk.decodeEntry_cases {body : Body} (h : HoldsBulk body a es) :
    (∃ reason, decodeEntry body.bytes a = .error (.undecodable body.bytes reason)) ∨
      ∃ node, BulkNode.check (.dict es) = .ok node ∧
        decodeEntry body.bytes a = node.entity.map .bulk := by
  obtain ⟨entries, payload, hread, hfalsy, hdata, hbulk⟩ := h
  have hclass : classify body.bytes = ofEntries entries := by
    rw [classify, hread]
    rfl
  have hentry := (truthy_entry_iff.2 ⟨hdata, rfl⟩).1
  rw [ofEntries_of_root (falsy_entry_iff.2 hfalsy) hentry] at hclass
  obtain ⟨issues, hcheck⟩ | ⟨node, p, hnode, hcheck, hentry⟩ := hbulk.check_cases
  · -- The payload does not pass, and the whole body is refused for it.
    left
    have hpayload : readPayload a payload = .error (.invalidPayload a issues) := by
      rw [readPayload, hcheck]
      exact hbulk.ne_null
    rw [hpayload] at hclass
    have hdecode :
        decode body.bytes a = .error (.undecodable body.bytes (.invalidPayload a issues)) :=
      decode_of_error hclass a
    refine ⟨.invalidPayload a issues, ?_⟩
    rw [decodeEntry, hdecode]
    rfl
  · right
    have hpayload : readPayload a payload = .ok (some p) := by
      rw [readPayload, hcheck]
      exact hbulk.ne_null
    rw [hpayload] at hclass
    refine ⟨node, hnode, ?_⟩
    rw [decodeEntry, decode_of_success hclass, if_pos rfl]
    exact hentry

/-- A bulk operation is built of a body that holds one. -/
theorem exists_holdsBulk {body : Body} (h : decodeEntry body.bytes a = .ok (.bulk b)) :
    ∃ es node, HoldsBulk body a es ∧ BulkNode.check (.dict es) = .ok node ∧
      node.entity = .ok b := by
  obtain ⟨s, hs, hbuilt⟩ := bind_eq_ok_iff.1 h
  -- Only a success of the operation that was asked for comes to be built.
  cases hclass : classify body.bytes with
  | error reason =>
    rw [decode_of_error hclass] at hs
    cases hs
  | ok e =>
    cases e with
    | errors reported data =>
      rw [decode_of_errors hclass] at hs
      cases hs
    | success s' =>
      rw [decode_of_success hclass] at hs
      split at hs
      · next hoperation =>
        cases hs
        subst hoperation
        obtain ⟨entries, hread, hentries⟩ := classify_eq_iff.1 hclass
        obtain ⟨hfalsy, payload, hdata, hpayload, -⟩ := ofEntries_eq_success_iff.1 hentries
        rw [Success.materialize] at hbuilt
        cases hp : s.payload with
        | none =>
          rw [hp] at hbuilt
          cases hbuilt
        | some p =>
          rw [hp] at hbuilt hpayload
          obtain ⟨node, hentity, hkinds⟩ := exists_bulkNode_of_entry hbuilt
          obtain ⟨es, hbulk, hnode⟩ :=
            exists_bulkPayload_of_check (check_of_readPayload hpayload) hkinds
          have hpresent := (truthy_entry_iff.1 ⟨hdata, rfl⟩).1
          have hholds : HoldsBulk body s.operation es :=
            ⟨entries, payload, hread, falsy_entry_iff.1 hfalsy, hpresent, hbulk⟩
          exact ⟨es, node, hholds, hnode, hentity⟩
      · cases hs

end Envelope

/-! ### Counts in digits of ASCII -/

theorem CodePoint.digitValue?_of_isDigit {p : Nat} (h : Numeral.isDigit p = true) :
    digitValue? p = some (p - 0x30) := by
  have hall : ∀ q < 0x3A, Numeral.isDigit q = true → digitValue? q = some (q - 0x30) := by decide
  simp only [Numeral.isDigit, Bool.and_eq_true, decide_eq_true_eq] at h
  exact hall p (by omega) (by simpa [Numeral.isDigit] using h)

/-- A run of digits of ASCII has the digits as its values. -/
theorem Numeral.isRun_of_isDigit {ps : List Nat} (hne : ps ≠ []) (h : ∀ p ∈ ps, isDigit p = true) :
    IsRun ps (values ps) := by
  induction ps with
  | nil => exact absurd rfl hne
  | cons p ps ih =>
    obtain ⟨hp, hps⟩ := List.forall_mem_cons.1 h
    have hvalue := CodePoint.digitValue?_of_isDigit hp
    by_cases hnil : ps = []
    · subst hnil
      exact .digit hvalue
    · exact .next hvalue (ih hnil hps)

/-- Digits of ASCII count what they denote. -/
theorem Datum.counts_of_isDigit {t : Text} {n : Int} (hne : t.points ≠ [])
    (h : ∀ p ∈ t.points, Numeral.isDigit p = true) (hlength : t.points.length ≤ integerDigitLimit) :
    (Datum.text t).Counts n ↔ n = ofDigitValues (Numeral.values t.points) := by
  let a : IntegerNumeral :=
    { before := []
      sign := .none
      run := t.points
      digits := Numeral.values t.points
      after := []
      isBlank_of_mem_before := by simp
      isBlank_of_mem_after := by simp
      isRun := Numeral.isRun_of_isDigit hne h
      length_le := by simpa [Numeral.values] using hlength }
  have ha : t.points = a.points := by simp [a, IntegerNumeral.points, Sign.points]
  rw [Datum.counts_of_asText? rfl, ha, a.integer?_points, Option.some.injEq, eq_comm, ← ha]
  exact Iff.rfl

/-! ### Public contract -/

/-- **What the count of a bulk operation is.** A bulk operation that is built of a body counts what
the field of the body counts, and nothing if that is absent or null. Where the field counts nothing,
the body is undecodable or the text in it is refused. Digits of ASCII count what they denote, up to
the digit limit. -/
theorem decodeEntry_objectCount (body : Body) (a : RootField) :
    (∀ b, decodeEntry body.bytes a = .ok (.bulk b) → ∃ es, Envelope.HoldsBulk body a es ∧
      CountedAs (fieldValue? "objectCount" "object_count" es) b.objectCount) ∧
    (∀ es d, Envelope.HoldsBulk body a es → fieldValue? "objectCount" "object_count" es = some d →
      d ≠ .null → (∀ n, ¬ d.Counts n) →
      (∃ reason, decodeEntry body.bytes a = .error (.undecodable body.bytes reason)) ∨
        ∃ t, d.asText? = some t ∧
          decodeEntry body.bytes a = .error (.invalidScalar (.text t) "UnsignedInt64")) ∧
    ∀ (t : Text) (n : Int), t.points ≠ [] → (∀ p ∈ t.points, Numeral.isDigit p = true) →
      t.points.length ≤ integerDigitLimit →
      ((Datum.text t).Counts n ↔ n = ofDigitValues (Numeral.values t.points)) := by
  refine ⟨fun b hb ↦ ?_, fun es d hbulk hd hnull hcounts ↦ ?_, fun t n ↦ Datum.counts_of_isDigit⟩
  · obtain ⟨es, node, hbulk, hnode, hentity⟩ := Envelope.exists_holdsBulk hb
    exact ⟨es, hbulk, BulkNode.countedAs_of_entity hnode hentity⟩
  · obtain hundecodable | ⟨node, hnode, hdecode⟩ := hbulk.decodeEntry_cases
    · exact .inl hundecodable
    · obtain ⟨t, ht, hentity⟩ := BulkNode.entity_of_not_counts hnode hd hnull hcounts
      refine .inr ⟨t, ht, ?_⟩
      rw [hdecode, hentity]
      rfl

/-- The count of the bulk operation that was built. -/
def Entry.objectCount? : Entry → Option Int
  | .bulk b => b.objectCount
  | _ => none

/-- A body with a bulk operation whose count is written as given. -/
def Body.counting (count : String) : Body :=
  .text
    ("\x7b\"data\":\x7b\"currentBulkOperation\":\x7b\"id\":\"gid://shopify/BulkOperation/5\"," ++
    "\"status\":\"RUNNING\",\"objectCount\":" ++ count ++ "\x7d\x7d\x7d")

theorem exists_bulk_of_objectCount? {o : Outcome Entry} {n : Int}
    (h : o.toOption.bind Entry.objectCount? = some n) :
    ∃ b, o = .ok (.bulk b) ∧ b.objectCount = some n := by
  cases o with
  | error => cases h
  | ok e =>
    cases e with
    | bulk b => exact ⟨b, rfl, h⟩
    | _ => cases h

/-- The count that the shop writes as the text of forty-two. -/
theorem decodeEntry_objectCount_digits :
    (Datum.text (.str "42")).Counts 42 ∧
      ∃ b es, decodeEntry (Body.counting "\"42\"").bytes .currentBulkOperation = .ok (.bulk b) ∧
        Envelope.HoldsBulk (Body.counting "\"42\"") .currentBulkOperation es ∧
        CountedAs (fieldValue? "objectCount" "object_count" es) (some 42) := by
  obtain ⟨hbuilt, -, hdigits⟩ :=
    decodeEntry_objectCount (Body.counting "\"42\"") .currentBulkOperation
  obtain ⟨b, hb, hcount⟩ := exists_bulk_of_objectCount? (n := 42)
    (o := decodeEntry (Body.counting "\"42\"").bytes .currentBulkOperation) (by decide +kernel)
  obtain ⟨es, hes, hcounted⟩ := hbuilt b hb
  rw [hcount] at hcounted
  exact ⟨(hdigits (.str "42") 42 (by decide) (by decide) (by decide)).2 (by decide), b, es, hb, hes,
    hcounted⟩

/-- A sign, a count beyond the words of 64 bits, and blanks and low lines around the digits all
pass. -/
theorem decodeEntry_count_unbounded :
    ["\"-5\"", "18446744073709551616", "\" 1_0\""].map (fun count ↦
      (decodeEntry (Body.counting count).bytes .currentBulkOperation).toOption.bind
        Entry.objectCount?) =
    [some (-5), some (2 ^ 64), some 10] := by
  decide +kernel

end CatalogQuery
