import CatalogQuery.Proofs.Answer
import CatalogQuery.Proofs.Classification
import Mathlib

/-!
# Unknown keys and the order of keys do not matter

An edit of a reply puts entries in under keys that nothing looks at, and reorders the entries of an
object; it may do so in the reply itself and in every object of the payload, however deep
(`Part.Edit`, `Envelope.Edit`). Edits are built from single steps, so what one step keeps is all
there is to prove: each step keeps how the value is checked, provided that no key occurs twice in
what it ends with (`Part.Edit.same`). For replies that are read from bodies this is so, and an
edited reply is read as the reply itself (`decodeEntry_of_edit`).

Without distinct keys the order would matter, since the first entry of a key is the one that is
found.

## Steps in place of a normal form

An edit could be described by saying what two values have in common, but then keys, orders and
depths would all have to be compared at once. Here an edit is any number of steps, each of which
does one thing at one place. A step below a field or an item is an edit of the part that stands
there, so the table of shapes decides what may be edited: entries can be put in only where an object
is checked against its slots, and only under keys that none of them looks at.

## Which way distinct keys go

A lookup finds the first entry of a key, so reordering keeps it only where keys are distinct.
Putting entries in may introduce a key twice in the middle of an edit, though not in a reply that
was read. Distinct keys are therefore assumed of the **last** value and carried backwards along the
steps: taking an entry away, putting entries in another order and replacing a value keep them
distinct (`HasDistinctKeys.of_cons`, `HasDistinctKeys.of_perm`, `HasDistinctKeys.replace`).
-/

open CatalogQuery.Attempt

namespace CatalogQuery

/-! ### Entries under a key

A lookup compares keys by what is equal, and for a text that is its code points (`keyPoints?`). So
the condition under which the order of entries does not matter is about code points as well.
-/

namespace Datum

variable {es es' : List (Datum × Datum)} {name : String} {key d d' : Datum}

/-- If no key occurs twice, the order of the entries does not matter. -/
theorem field?_eq_of_perm (hkeys : (es.map fun e ↦ e.1.keyPoints?).Nodup) (hperm : es.Perm es') :
    field? name es = field? name es' := by
  have hunique : {e ∈ es | e.1.equal (.str name)}.Subsingleton := by
    rintro e ⟨he, hename⟩ e' ⟨he', hename'⟩
    refine List.inj_on_of_nodup_map hkeys he he' ?_
    rw [equal_str_iff.1 hename, equal_str_iff.1 hename']
  rw [field?, get?, List.find?_eq_find?_of_perm hperm hunique]
  rfl

/-- The keys of a mapping are distinct, at this level and below it. -/
theorem hasDistinctKeys_dict_iff :
    (Datum.dict es).HasDistinctKeys ↔
      (es.map fun e ↦ e.1.keyPoints?).Nodup ∧ ∀ e ∈ es, e.2.HasDistinctKeys := by
  refine ⟨fun h ↦ ?_, fun h ↦ .dict h.1 h.2⟩
  cases h with
  | atom _ hdict => exact absurd rfl (hdict es)
  | dict keys values => exact ⟨keys, values⟩

/-- The keys in a list are distinct if those in each item are. -/
theorem hasDistinctKeys_list_iff {xs : List Datum} :
    (Datum.list xs).HasDistinctKeys ↔ ∀ x ∈ xs, x.HasDistinctKeys := by
  refine ⟨fun h ↦ ?_, .list⟩
  cases h with
  | atom hlist _ => exact absurd rfl (hlist xs)
  | list items => exact items

theorem HasDistinctKeys.of_cons {e : Datum × Datum} (h : (Datum.dict (e :: es)).HasDistinctKeys) :
    (Datum.dict es).HasDistinctKeys := by
  obtain ⟨hkeys, hvalues⟩ := hasDistinctKeys_dict_iff.1 h
  exact .dict (List.nodup_cons.1 hkeys).2 fun e he ↦ hvalues e (List.mem_cons_of_mem _ he)

theorem HasDistinctKeys.of_perm (h : (Datum.dict es').HasDistinctKeys) (hperm : es.Perm es') :
    (Datum.dict es).HasDistinctKeys := by
  obtain ⟨hkeys, hvalues⟩ := hasDistinctKeys_dict_iff.1 h
  exact .dict ((hperm.map _).nodup_iff.2 hkeys) fun e he ↦ hvalues e (hperm.mem_iff.1 he)

/-- Keys stay distinct when a value is replaced by one with distinct keys. -/
theorem HasDistinctKeys.replace (h : (Datum.dict ((key, d') :: es)).HasDistinctKeys)
    (hd : d.HasDistinctKeys) : (Datum.dict ((key, d) :: es)).HasDistinctKeys := by
  obtain ⟨hkeys, hvalues⟩ := hasDistinctKeys_dict_iff.1 h
  exact .dict hkeys
    (List.forall_mem_cons.2 ⟨hd, fun e he ↦ hvalues e (List.mem_cons_of_mem _ he)⟩)

end Datum

/-! ### Values that are checked alike

Being checked alike is not enough where a field is optional: null counts as absent there, whatever
the check would say of it. `Part.Same` therefore has null as a second condition, and
`Slot.check_congr` needs both.
-/

/-- Two values are checked alike, and one is null exactly when the other is. -/
structure Part.Same (p : Part) (d d' : Datum) : Prop where
  /-- Both are null, or neither is. -/
  null : d = .null ↔ d' = .null
  /-- They are checked alike. -/
  check : p.check d = p.check d'

theorem Part.Same.refl (p : Part) (d : Datum) : p.Same d d :=
  ⟨Iff.rfl, rfl⟩

theorem Part.Same.trans {p : Part} {a b c : Datum} (h : p.Same a b) (h' : p.Same b c) :
    p.Same a c :=
  ⟨h.null.trans h'.null, h.check.trans h'.check⟩

/-- Values that are there or absent alike, and checked alike. -/
def Part.SameOption (p : Part) : Option Datum → Option Datum → Prop :=
  Option.Rel p.Same

namespace Part.SameOption

variable {p : Part} {o o' : Option Datum}

theorem refl (p : Part) (o : Option Datum) : p.SameOption o o := by
  cases o with
  | none => exact .none
  | some d => exact .some (Same.refl p d)

theorem isSome_eq (h : p.SameOption o o') : o.isSome = o'.isSome := by
  cases h <;> rfl

/-- Values that are checked alike pass a required check alike. -/
theorem elim_eq (h : p.SameOption o o') (absent : Checked p.Value) :
    o.elim absent p.check = o'.elim absent p.check := by
  cases h with
  | none => rfl
  | some hsame => exact hsame.check

/-- Values that are checked alike pass an optional check alike, null included. -/
theorem checkPresent_eq (h : p.SameOption o o') :
    checkPresent p.check o = checkPresent p.check o' := by
  cases h with
  | none => rfl
  | @some d d' hsame =>
    by_cases hnull : d = .null
    · rw [hnull, hsame.null.1 hnull]
    · rw [checkPresent_some hnull, checkPresent_some (mt hsame.null.2 hnull), hsame.check]

end Part.SameOption

/-- **A field is checked alike in two objects** whose values under its keys are checked alike. -/
theorem Slot.check_congr {f : Slot} {es es' : List (Datum × Datum)}
    (h : ∀ key, f.HasKey key → f.part.SameOption (Datum.field? key es) (Datum.field? key es')) :
    f.check es = f.check es' := by
  obtain ⟨name, plainName, part, isRequired⟩ := f
  have hname := h name (.inl rfl)
  have hplain := h plainName (.inr rfl)
  -- The plain name is looked up only where the name is absent, so both have to agree before the key
  -- does.
  have hkey : fieldKey name plainName es = fieldKey name plainName es' := by
    simp only [fieldKey, ← Option.not_isSome, hname.isSome_eq, hplain.isSome_eq]
  have hvalue :
      part.SameOption (fieldValue? name plainName es) (fieldValue? name plainName es') := by
    rw [fieldValue?, fieldValue?, hkey, fieldKey]
    split
    · exact hplain
    · exact hname
  cases isRequired with
  | true =>
    show checkField name plainName es (fun v _ ↦ part.check v) =
      checkField name plainName es' fun v _ ↦ part.check v
    rw [checkField_eq, checkField_eq, hkey, hvalue.elim_eq]
  | false =>
    show checkOptional name plainName es (fun v _ ↦ part.check v) =
      checkOptional name plainName es' fun v _ ↦ part.check v
    rw [checkOptional_eq, checkOptional_eq, hkey, hvalue.checkPresent_eq]

/-- A list is checked alike when one item is replaced by one that is. -/
theorem checkItems_congr {α : Type} {check : Datum → Checked α} {xs ys : List Datum} {x x' : Datum}
    (h : check x = check x') (index : Nat) :
    checkItems index (xs ++ x :: ys) (fun x _ ↦ check x) =
      checkItems index (xs ++ x' :: ys) fun x _ ↦ check x := by
  induction xs generalizing index with
  | nil => rw [List.nil_append, List.nil_append, checkItems, checkItems, h]
  | cons y xs ih => rw [List.cons_append, List.cons_append, checkItems, checkItems, ih]

/-! ### Edits of payloads

An edit below a field changes the value of the first entry and an edit of the order brings any entry
to the front, so the two together reach every field. The induction follows the steps, with distinct
keys coming in from the right.
-/

/-- One value is an edit of another, where a given part has to stand. -/
inductive Part.Edit : Part → Datum → Datum → Prop
  /-- Nothing is changed. -/
  | refl (p : Part) (d : Datum) : Part.Edit p d d
  /-- One edit after the other. -/
  | trans {p : Part} {a b c : Datum} : Part.Edit p a b → Part.Edit p b c → Part.Edit p a c
  /-- An entry is put into an object, under a key that belongs to no field. -/
  | insert {s : Shape} {es : List (Datum × Datum)} {key d : Datum}
      (unknown : ∀ f ∈ s.slots,
        key.equal (.str f.name) = false ∧ key.equal (.str f.plainName) = false) :
      Part.Edit (.object s) (.dict es) (.dict ((key, d) :: es))
  /-- The entries of an object are put in another order. -/
  | permute {s : Shape} {es es' : List (Datum × Datum)} (perm : es.Perm es') :
      Part.Edit (.object s) (.dict es) (.dict es')
  /-- The value of a field is edited. -/
  | field {s : Shape} {f : Slot} {name : String} {d d' : Datum} {es : List (Datum × Datum)}
      (mem : f ∈ s.slots) (key : f.HasKey name) (value : Part.Edit f.part d d') :
      Part.Edit (.object s) (.dict ((.str name, d) :: es)) (.dict ((.str name, d') :: es))
  /-- An item of a list is edited. -/
  | item {s : Shape} {x x' : Datum} {xs ys : List Datum} (value : Part.Edit (.object s) x x') :
      Part.Edit (.list s) (.list (xs ++ x :: ys)) (.list (xs ++ x' :: ys))

namespace Shape

variable {s : Shape} {es es' : List (Datum × Datum)}

/-- Two objects are checked alike if the values under the keys of their fields are. -/
theorem same_dict (h : ∀ f ∈ s.slots, ∀ name, f.HasKey name →
    f.part.SameOption (Datum.field? name es) (Datum.field? name es')) :
    (Part.object s).Same (.dict es) (.dict es') :=
  ⟨⟨nofun, nofun⟩, check_dict_congr fun f hf ↦ Slot.check_congr (h f hf)⟩

/-- A key belongs to one field at most, so the other fields do not see its value change. -/
theorem same_dict_of_field {f : Slot} {name : String} {d d' : Datum} (hf : f ∈ s.slots)
    (hkey : f.HasKey name) (h : f.part.Same d d') :
    (Part.object s).Same (.dict ((.str name, d) :: es)) (.dict ((.str name, d') :: es)) := by
  refine same_dict fun g hg key hgkey ↦ ?_
  rw [Datum.field?_cons, Datum.field?_cons, Datum.equal_str]
  split
  · next heq =>
    obtain rfl : f = g := eq_of_hasKey hf hg (eq_of_beq heq ▸ hkey) hgkey
    exact .some h
  · exact .refl _ _

end Shape

/-- **An edit does not show in the check.** No key occurs twice in what was edited, either. -/
theorem Part.Edit.same {p : Part} {d d' : Datum} (h : p.Edit d d') (hd' : d'.HasDistinctKeys) :
    p.Same d d' ∧ d.HasDistinctKeys := by
  induction h with
  | refl p d => exact ⟨.refl p d, hd'⟩
  | trans _ _ ih ih' =>
    -- Distinct keys are known of the last value only, and are carried back step by step.
    obtain ⟨hbc, hb⟩ := ih' hd'
    obtain ⟨hab, ha⟩ := ih hb
    exact ⟨hab.trans hbc, ha⟩
  | insert unknown =>
    refine ⟨Shape.same_dict fun f hf name hname ↦ ?_, hd'.of_cons⟩
    have hother : _ = false := hname.elim (· ▸ (unknown f hf).1) (· ▸ (unknown f hf).2)
    rw [Datum.field?_cons, hother]
    exact .refl _ _
  | permute perm =>
    have hd := hd'.of_perm perm
    refine ⟨Shape.same_dict fun f hf name hname ↦ ?_, hd⟩
    rw [Datum.field?_eq_of_perm (Datum.hasDistinctKeys_dict_iff.1 hd).1 perm]
    exact .refl _ _
  | field mem key value ih =>
    obtain ⟨hsame, hvalue⟩ := ih ((Datum.hasDistinctKeys_dict_iff.1 hd').2 _ List.mem_cons_self)
    exact ⟨Shape.same_dict_of_field mem key hsame, hd'.replace hvalue⟩
  | @item s x x' xs ys _ ih =>
    have hitems := Datum.hasDistinctKeys_list_iff.1 hd'
    obtain ⟨hsame, hx⟩ := ih (hitems x' (by simp))
    refine ⟨⟨⟨nofun, nofun⟩, checkItems_congr hsame.check 0⟩, .list fun y hy ↦ ?_⟩
    rcases List.mem_append.1 hy with hy | hy
    · exact hitems y (by simp [hy])
    · rcases List.mem_cons.1 hy with rfl | hy
      · exact hx
      · exact hitems y (by simp [hy])

/-! ### Edits of replies

At the top there are three entries that are looked at, and the payload is found under the data and
then under the root field. Data that stand beside errors have no effect on what a caller gets, so
they are taken out of the comparison (`withoutData`).
-/

/-- Payloads that their shape checks alike are checked alike. -/
theorem Payload.check_congr {a : RootField} {d d' : Datum}
    (h : a.shape.check d = a.shape.check d') :
    Payload.check a d = Payload.check a d' := by
  cases a <;> exact congrArg (Except.map _) h

namespace Envelope

/-- The entries of one reply are an edit of those of another. -/
inductive Edit : List (Datum × Datum) → List (Datum × Datum) → Prop
  /-- Nothing is changed. -/
  | refl (es : List (Datum × Datum)) : Edit es es
  /-- One edit after the other. -/
  | trans {es es' es'' : List (Datum × Datum)} : Edit es es' → Edit es' es'' → Edit es es''
  /-- An entry is put in, under a key that is not looked at. -/
  | insert {es : List (Datum × Datum)} {key d : Datum}
      (unknown : ∀ name ∈ ["errors", "data", "extensions"], key.equal (.str name) = false) :
      Edit es ((key, d) :: es)
  /-- The entries are put in another order. -/
  | permute {es es' : List (Datum × Datum)} (perm : es.Perm es') : Edit es es'
  /-- The payload is edited. -/
  | payload {a : RootField} {d d' : Datum} {es : List (Datum × Datum)}
      (value : Part.Edit (.object a.shape) d d') :
      Edit ((.str "data", .dict [(.str (Vocabulary.wire a), d)]) :: es)
        ((.str "data", .dict [(.str (Vocabulary.wire a), d')]) :: es)

/-- An envelope without the data that may stand beside reported errors. -/
def withoutData : Envelope → Envelope
  | .errors reported _ => .errors reported .null
  | .success s => .success s

/-- Two replies are read alike, but for the data beside errors. -/
def SameReading (es es' : List (Datum × Datum)) : Prop :=
  (ofEntries es).map withoutData = (ofEntries es').map withoutData

/-- An entry under another key is not seen. -/
theorem entry_cons_of_not_equal {key d : Datum} {name : String} {es : List (Datum × Datum)}
    (h : key.equal (.str name) = false) : entry name ((key, d) :: es) = entry name es := by
  rw [entry, Datum.field?_cons, h]
  rfl

/-- Only three entries are looked at. -/
theorem sameReading_of_entry_eq {es es' : List (Datum × Datum)}
    (h : ∀ name ∈ ["errors", "data", "extensions"], entry name es = entry name es') :
    SameReading es es' := by
  rw [SameReading, ofEntries, ofEntries, h "errors" (by simp), h "data" (by simp),
    h "extensions" (by simp)]

/-- Payloads that are checked alike are read alike, null included. -/
theorem readPayload_congr {a : RootField} {d d' : Datum} (h : (Part.object a.shape).Same d d') :
    readPayload a d = readPayload a d' := by
  by_cases hnull : d = .null
  · rw [hnull, h.null.1 hnull]
  · have hnull' : d' ≠ .null := mt h.null.2 hnull
    rw [readPayload.eq_2 _ _ hnull, readPayload.eq_2 _ _ hnull', Payload.check_congr h.check]

/-- Replies that differ in the payload only are read alike if their payloads are checked alike. -/
theorem sameReading_of_payload {a : RootField} {d d' : Datum} {es : List (Datum × Datum)}
    (h : (Part.object a.shape).Same d d') :
    SameReading ((.str "data", .dict [(.str (Vocabulary.wire a), d)]) :: es)
      ((.str "data", .dict [(.str (Vocabulary.wire a), d')]) :: es) := by
  have hother (v : Datum) (name : String) (hname : "data" ≠ name) :
      entry name ((.str "data", v) :: es) = entry name es :=
    entry_cons_of_not_equal (by rw [Datum.equal_str]; exact beq_false_of_ne hname)
  have hdata (v : Datum) : entry "data" ((.str "data", v) :: es) = v := by
    rw [entry, Datum.field?_cons, Datum.equal_str]
    rfl
  have hroot (v : Datum) : root? (.dict [(.str (Vocabulary.wire a), v)]) =
      some (.str (Vocabulary.wire a), v) := rfl
  have ha := rootField_eq_some_iff.2 (Eq.refl (Text.str (Vocabulary.wire a)))
  simp only [SameReading, ofEntries, hother _ "errors" (by decide),
    hother _ "extensions" (by decide), hdata, hroot, ha, readPayload_congr h]
  split <;> rfl

/-- **An edit does not show in the reading of a reply.** -/
theorem Edit.sameReading {es es' : List (Datum × Datum)} (h : Edit es es')
    (hes' : (Datum.dict es').HasDistinctKeys) :
    SameReading es es' ∧ (Datum.dict es).HasDistinctKeys := by
  induction h with
  | refl es => exact ⟨rfl, hes'⟩
  | trans _ _ ih ih' =>
    obtain ⟨hbc, hb⟩ := ih' hes'
    obtain ⟨hab, ha⟩ := ih hb
    exact ⟨hab.trans hbc, ha⟩
  | insert unknown =>
    exact ⟨sameReading_of_entry_eq fun name hname ↦
      (entry_cons_of_not_equal (unknown name hname)).symm, hes'.of_cons⟩
  | permute perm =>
    have hes := hes'.of_perm perm
    refine ⟨sameReading_of_entry_eq fun name _ ↦ ?_, hes⟩
    rw [entry, entry, Datum.field?_eq_of_perm (Datum.hasDistinctKeys_dict_iff.1 hes).1 perm]
  | @payload a d d' es value =>
    have hdata := (Datum.hasDistinctKeys_dict_iff.1 hes').2 _ List.mem_cons_self
    have hd' := (Datum.hasDistinctKeys_dict_iff.1 hdata).2 _ List.mem_cons_self
    obtain ⟨hsame, hd⟩ := value.same hd'
    exact ⟨sameReading_of_payload hsame, hes'.replace (hdata.replace hd)⟩

end Envelope

/-! ### Outcomes

A failure to understand a body carries the octets of the body, and two bodies that hold the same
reply differ in these. Everything else in an outcome has to agree.
-/

/-- Failures of one cause with the same data, but for the octets of the body. -/
def Failure.SameButBody : Failure → Failure → Prop
  | .undecodable _ reason, .undecodable _ reason' => reason = reason'
  | f, f' => f = f'

/-- The same entity, or failures that differ in the octets of the body at most. -/
def Outcome.SameButBody : Outcome Entry → Outcome Entry → Prop
  | .ok e, .ok e' => e = e'
  | .error f, .error f' => f.SameButBody f'
  | _, _ => False

theorem Failure.SameButBody.refl (f : Failure) : f.SameButBody f := by
  cases f <;> rfl

theorem Outcome.SameButBody.refl (o : Outcome Entry) : o.SameButBody o := by
  cases o with
  | ok e => rfl
  | error f => exact Failure.SameButBody.refl f

/-- The data beside errors are not looked at. -/
theorem decodeEntry_eq (body : List UInt8) (expected : RootField) :
    decodeEntry body expected =
      match (Envelope.classify body).map Envelope.withoutData with
      | .error reason => .error (.undecodable body reason)
      | .ok e => e.answering expected >>= Success.materialize := by
  rw [decodeEntry, Envelope.decode, Envelope.parse]
  rcases Envelope.classify body with reason | e
  · rfl
  · cases e <;> rfl

/-- Bodies whose values are classed alike, but for the data beside errors, are decoded alike. -/
theorem decodeEntry_congr {body body' : List UInt8} (expected : RootField)
    (h : (Envelope.classify body).map Envelope.withoutData =
      (Envelope.classify body').map Envelope.withoutData) :
    Outcome.SameButBody (decodeEntry body expected) (decodeEntry body' expected) := by
  rw [decodeEntry_eq, decodeEntry_eq, h]
  rcases (Envelope.classify body').map Envelope.withoutData with reason | e
  · exact Eq.refl reason
  · exact .refl _

/-- **Unknown keys and the order of keys do not matter.** A body that holds an edit of a reply is
decoded as a body that holds the reply: into the same entity, or with a failure of the same cause,
with the same issues at the same places. -/
theorem decodeEntry_of_edit {body body' : Body} {es es' : List (Datum × Datum)}
    (hread : Json.read body.bytes = .ok (.dict es))
    (hread' : Json.read body'.bytes = .ok (.dict es'))
    (hedit : Envelope.Edit es es') (expected : RootField) :
    Outcome.SameButBody (decodeEntry body.bytes expected) (decodeEntry body'.bytes expected) := by
  obtain ⟨hsame, -⟩ := hedit.sameReading (Json.hasDistinctKeys_of_read hread')
  refine decodeEntry_congr expected ?_
  rw [Envelope.classify, Envelope.classify, hread, hread']
  exact hsame

set_option maxRecDepth 20000 in
/-- The reply has a field that is not looked at, and so do the product, which is also reordered, and
the node of its variant. -/
theorem decodeEntry_of_edit_product :
    Outcome.SameButBody
      (decodeEntry (Body.text ("\x7b\"data\":\x7b\"product\":\x7b" ++
        "\"id\":\"gid://shopify/Product/7\"," ++
        "\"variants\":\x7b\"edges\":[\x7b\"node\":\x7b\"id\":\"gid://shopify/ProductVariant/8\"" ++
        "\x7d\x7d]\x7d\x7d\x7d\x7d")).bytes .product)
      (decodeEntry (Body.text ("\x7b\"took\":3,\"data\":\x7b\"product\":\x7b\"color\":null," ++
        "\"variants\":\x7b\"edges\":[\x7b\"node\":\x7b\"rank\":1," ++
        "\"id\":\"gid://shopify/ProductVariant/8\"\x7d\x7d]\x7d," ++
        "\"id\":\"gid://shopify/Product/7\"\x7d\x7d\x7d")).bytes .product) := by
  let variant : List (Datum × Datum) := [(.str "id", .str "gid://shopify/ProductVariant/8")]
  let edges (node : List (Datum × Datum)) : Datum :=
    .dict [(.str "edges", .list [.dict [(.str "node", .dict node)]])]
  let product (node : List (Datum × Datum)) : List (Datum × Datum) :=
    [(.str "variants", edges node), (.str "id", .str "gid://shopify/Product/7")]
  let node := (.str "rank", .int 1) :: variant
  have hnode : Part.Edit (.object .variant) (.dict variant) (.dict node) :=
    .insert (by decide)
  have hedges : Part.Edit (.object .variantEdges) (edges variant) (edges node) :=
    .field (f := .required "edges" (.list .variantEdge)) (by decide) (.inl rfl)
      (@Part.Edit.item _ _ _ [] []
        (.field (f := .required "node" (.object .variant)) (by decide) (.inl rfl) hnode))
  have hproduct : Part.Edit (.object .product)
      (.dict [(.str "id", .str "gid://shopify/Product/7"), (.str "variants", edges variant)])
      (.dict ((.str "color", .null) :: product node)) :=
    .trans (.permute (.swap _ _ _))
      (.trans (.field (f := .optional "variants" "variants" (.object .variantEdges))
        (by decide) (.inl rfl) hedges) (.insert (by decide)))
  let reply : List (Datum × Datum) := [(.str "data", .dict [(.str "product", .dict
    [(.str "id", .str "gid://shopify/Product/7"), (.str "variants", edges variant)])])]
  let edited : List (Datum × Datum) :=
    (.str "took", .int 3) :: [(.str "data", .dict [(.str "product",
    .dict ((.str "color", .null) :: product node))])]
  have hedit : Envelope.Edit reply edited :=
    .trans (.payload (a := .product) hproduct) (.insert (by decide))
  refine decodeEntry_of_edit (?_ : Json.read _ = .ok (.dict reply))
    (?_ : Json.read _ = .ok (.dict edited)) hedit .product
  · cbv
  · cbv

end CatalogQuery
