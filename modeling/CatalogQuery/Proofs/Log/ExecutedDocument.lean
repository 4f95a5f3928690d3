import CatalogQuery.Client
import CatalogQuery.Proofs.Bulk
import CatalogQuery.Proofs.Identifier
import CatalogQuery.Proofs.JsonToken
import CatalogQuery.Proofs.Log.Record
import CatalogQuery.Proofs.Log.Telltale
import CatalogQuery.Proofs.Template

/-!
# Masking leaves the documents of clients alone

A client reports each document that it sends (`Document.executing`). The document of a request that
calls reach is put together from the names of fields, the digits of bounds and identifiers, and what
the grammar puts between them. No name holds a telltale of credentials, and between any two names
stands an inert character, so the document is quiet, and so is what is reported of it
(`Request.Reached.isQuiet_executing`). The one thing that could bring in anything else is the input
of an update.

The list of a bulk run stands in a block string. Escaping puts backslashes between quotation marks,
which are in no telltale (`infix_of_infix_escapeBlock`).

## The parts of a document

There are few kinds of names in a document: fields, which are listed by entity, root fields, and the
words of the grammar. That no name holds a telltale is decided for each of them. A namespace of an
identifier is the only other text of a document that is not fixed, and it may be `api_x` or have a
hyphen; so the theorem is about identifiers of the shop. The number of an identifier is digits, and
bounds are numerals, so both are inert.

Being quiet is one of the properties that the renderer of selections composes
(`FieldToken.composes_isQuiet`), so no induction over selections is needed here.

## From the document to the record

The record that a client's report makes has a template and two values, and filling it is a
computation on the pieces of the template (`Template.fill_executing`). What the filter then makes of
the text is what the rules make of it.
-/

open CatalogQuery.Attempt

namespace CatalogQuery

open Grammar Masking

/-! ### Selections

A selection is written by composing the texts of its fields, and quietness goes through every way of
composing them. What is left is to look at the names, of which there are finitely many.
-/

section

variable {s t : String}

theorem Masking.IsQuiet.braced (hs : IsQuiet s) : IsQuiet (braced s) :=
  (by decide : IsGlue " \x7d").append_left ((by decide : IsGlue "\x7b ").append_right hs)

theorem beginsInert_braced (s : String) : BeginsInert (braced s) :=
  beginsInert_append (beginsInert_append (by decide) s) _

/-- A text before a text in braces. -/
theorem Masking.IsQuiet.append_braced (hs : IsQuiet s) (ht : IsQuiet t) :
    IsQuiet (s ++ CatalogQuery.braced t) :=
  hs.append ht.braced (.inr (beginsInert_braced t))

theorem Masking.IsQuiet.edgesOf (hs : IsQuiet s) : IsQuiet (edgesOf s) :=
  ((by decide : IsQuiet "edges ").append_braced
    ((by decide : IsQuiet "node ").append_braced hs)).braced

/-- The bound of a list is quiet. -/
theorem Connection.isQuiet_render (c : Connection) : IsQuiet c.render := by
  have hargument : IsQuiet c.side.argument := by
    cases c.side <;> decide
  have hcount : IsQuiet (Nat.repr c.count) :=
    isQuiet_of_forall_isInert fun d hd ↦
      isInert_of_isDigit (isDigit_of_mem_toDigits (by simpa using hd))
  exact hargument.between (by decide : IsGlue ": ") hcount

end

namespace FieldToken

/-- A field is quiet if its names are. -/
theorem composes_isQuiet : Composes IsQuiet where
  plain hname hbody := hname.between (by decide : IsGlue " ") hbody.braced
  bounded c hname hbody :=
    (hname.between (by decide : IsGlue "(") c.isQuiet_render).between (by decide : IsGlue ") ")
      hbody.edgesOf
  joined h := .joinWith (by decide : IsGlue ",") h

/-- The names of fields in a row are those of each of them. -/
theorem mem_allNamesOfList {n : String} {ts : List FieldToken} :
    n ∈ allNamesOfList ts ↔ ∃ t ∈ ts, n ∈ t.allNames := by
  induction ts with
  | nil => simp [allNamesOfList]
  | cons t ts ih => simp [allNamesOfList, ih]

end FieldToken

namespace Entity

variable {e : Entity} {Bound : Connection → Prop} {t : FieldToken} {ts : List FieldToken}
    {n : String}

/-- The name of a leaf field holds no telltale. -/
theorem IsLeaf.isQuiet (h : e.IsLeaf t) (hn : n ∈ t.allNames) : IsQuiet n := by
  obtain rfl | ⟨f, rfl⟩ := h
  · obtain rfl := List.mem_singleton.1 hn
    decide
  · obtain rfl := List.mem_singleton.1 hn
    cases e <;> cases f <;> decide

/-- No name among leaf fields holds a telltale. -/
theorem SelectsFlat.isQuiet (h : e.SelectsFlat ts) (hn : n ∈ FieldToken.allNamesOfList ts) :
    IsQuiet n := by
  obtain ⟨t, ht, hn⟩ := FieldToken.mem_allNamesOfList.1 hn
  exact ((h.mem t ht).resolve_right id).isQuiet hn

/-- No name in a nested field holds a telltale. -/
theorem IsNested.isQuiet (h : e.IsNested Bound t) (hn : n ∈ t.allNames) : IsQuiet n := by
  cases h with
  | variants hflat _ | product hflat =>
    rcases List.mem_cons.1 hn with rfl | hn
    · decide
    · exact SelectsFlat.isQuiet hflat hn

/-- **No name in a selection that calls reach holds a telltale.** -/
theorem Selects.isQuiet (h : e.Selects (e.IsNested Bound) ts)
    (hn : n ∈ FieldToken.allNamesOfList ts) : IsQuiet n := by
  obtain ⟨t, ht, hn⟩ := FieldToken.mem_allNamesOfList.1 hn
  exact (h.mem t ht).elim (IsLeaf.isQuiet · hn) (IsNested.isQuiet · hn)

end Entity

theorem isQuiet_wire (root : RootField) : IsQuiet (Vocabulary.wire root) := by
  cases root <;> decide

/-! ### Block strings

A telltale could arise where escaping brings characters together or puts new ones in. It only puts
backslashes in front of quotation marks, and neither is in a telltale, so whatever occurs in the
escaped text as a telltale occurs in the text.
-/

section

variable {f : Char → Char} {w : List Char}

/-- What is no escape and begins an escaped text begins the text. -/
theorem starts_of_starts_escapeBlock (hescape : f '\\' ∉ w) {cs : List Char}
    (h : w <+: (escapeBlock cs).map f) : w <+: cs.map f := by
  fun_induction escapeBlock cs generalizing w with
  | case1 cs _ =>
    rcases List.prefix_cons_iff.1 h with rfl | ⟨w, rfl, -⟩
    · exact List.nil_prefix
    · -- Escaped marks begin with a backslash, which is not in the word.
      exact absurd List.mem_cons_self hescape
  | case2 c cs _ ih =>
    rcases List.prefix_cons_iff.1 h with rfl | ⟨w, rfl, hw⟩
    · exact List.nil_prefix
    · exact List.cons_prefix_cons.2 ⟨rfl, ih (fun hmem ↦ hescape (List.mem_cons_of_mem _ hmem)) hw⟩
  | case3 => exact h

/-- A word that lacks the first character of a text stands behind it. -/
theorem infix_of_infix_cons {α : Type} {a : α} {w xs : List α} (ha : a ∉ w) (h : w <:+: a :: xs) :
    w <:+: xs := by
  have happend : w <:+: [] ++ a :: xs := h
  rcases infix_or_infix_of_not_mem ha happend with hnil | hxs
  · exact hnil.trans List.nil_infix
  · exact hxs

/-- **Escaping brings in nothing but quotation marks and backslashes.** -/
theorem infix_of_infix_escapeBlock (hescape : f '\\' ∉ w) (hmark : f '"' ∉ w) {cs : List Char}
    (h : w <:+: (escapeBlock cs).map f) : w <:+: cs.map f := by
  fun_induction escapeBlock cs with
  | case1 cs ih =>
    simp only [List.map_cons] at h ⊢
    -- None of the four characters of escaped marks is in the word, so it lies behind them.
    have hrest := infix_of_infix_cons hmark (infix_of_infix_cons hmark
      (infix_of_infix_cons hmark (infix_of_infix_cons hescape h)))
    exact (ih hrest).trans (List.suffix_append [f '"', f '"', f '"'] _).isInfix
  | case2 c cs hrun ih =>
    rcases List.infix_cons_iff.1 h with hbegin | hrest
    · have hescaped : w <+: (escapeBlock (c :: cs)).map f := by
        rwa [escapeBlock_cons fun ds heq ↦ hrun ds (List.cons.inj heq).1 (List.cons.inj heq).2]
      exact (starts_of_starts_escapeBlock hescape hescaped).isInfix
    · exact (ih hrest).trans (List.suffix_cons _ _).isInfix
  | case3 => exact h

/-- A quiet text in a block string is quiet. -/
theorem Masking.IsQuiet.blockString {s : String} (hs : IsQuiet s) : IsQuiet (blockString s) := by
  have hescaped : IsQuiet (String.ofList (escapeBlock s.toList)) := by
    intro w hw hoccurs
    rw [String.toList_ofList] at hoccurs
    exact hs w hw (infix_of_infix_escapeBlock (not_mem_of_isInert (by decide) hw)
      (not_mem_of_isInert (by decide) hw) hoccurs)
  have hmarks : IsGlue "\"\"\"" := by decide
  exact hmarks.append_left (hmarks.append_right hescaped)

end

/-! ### Identifiers -/

/-- A text without characters that literals escape stands in its literal as it is. -/
theorem asciiLiteral_eq {s : String} (h : ∀ c ∈ s.toList, Json.escapeAscii c.toNat = [c]) :
    Json.asciiLiteral (codePoints s.toList) = "\"" ++ s ++ "\"" := by
  have hpoints : (codePoints s.toList).flatMap Json.escapeAscii = s.toList := by
    rw [codePoints, List.flatMap_map]
    calc s.toList.flatMap (fun c ↦ Json.escapeAscii c.toNat) = s.toList.flatMap fun c ↦ [c] := by
          rw [List.flatMap_def, List.flatMap_def, List.map_congr_left h]
      _ = s.toList := by simp
  rw [Json.asciiLiteral, hpoints]
  refine String.toList_inj.1 ?_
  simp

/-- The literal of an identifier of the shop is quiet. -/
theorem Id.isQuiet_textLiteral {i : Id} (hi : i.IsWellFormed) (hspace : i.space = defaultSpace) :
    IsQuiet (Datum.textLiteral (.str i.gid)) := by
  obtain ⟨-, -, -, hnumber⟩ := isWellFormed_iff.1 hi
  have htype : IsQuiet (Vocabulary.wire i.entityType) := by cases i.entityType <;> decide
  have hdigit (c : Char) (hc : c.isDigit = true) : Json.escapeAscii c.toNat = [c] :=
    of_isDigit (P := fun c ↦ Json.escapeAscii c.toNat = [c]) (by decide) hc
  have hgid : i.gid = "gid://shopify/" ++ Vocabulary.wire i.entityType ++ "/" ++ i.number := by
    rw [gid, hspace]
    rfl
  have hquiet : IsQuiet i.gid := by
    have hplace := (by decide : IsQuiet "gid://shopify/").append htype (.inl (by decide))
    rw [hgid]
    exact hplace.between (by decide : IsGlue "/")
      (isQuiet_of_forall_isInert fun c hc ↦ isInert_of_isDigit (hnumber c hc))
  have hplain : ∀ c ∈ i.gid.toList, Json.escapeAscii c.toNat = [c] := by
    have hstart : ∀ c ∈ "gid://shopify/".toList, Json.escapeAscii c.toNat = [c] :=
      forall_mem_of_all (by decide)
    have hslash : ∀ c ∈ "/".toList, Json.escapeAscii c.toNat = [c] := forall_mem_of_all (by decide)
    have hname : ∀ c ∈ (Vocabulary.wire i.entityType).toList, Json.escapeAscii c.toNat = [c] := by
      cases i.entityType <;> exact forall_mem_of_all (by decide)
    rw [hgid]
    simp only [String.toList_append, List.forall_mem_append]
    exact ⟨⟨⟨hstart, hname⟩, hslash⟩, fun c hc ↦ hdigit c (hnumber c hc)⟩
  show IsQuiet (Json.asciiLiteral (codePoints i.gid.toList))
  rw [asciiLiteral_eq hplain]
  have hmark : IsGlue "\"" := by decide
  exact hmark.append_left (hmark.append_right hquiet)

/-! ### Documents

Each kind of document puts a fixed frame around its parts. The frame is glue, with braces and
parentheses next to the parts.
-/

section

variable {s list body literal bound : String} (root : RootField)

/-- The document that reads one entity is quiet if its parts are. -/
theorem isQuiet_readOperation (hliteral : IsQuiet literal) (hbody : IsQuiet body) :
    IsQuiet (readOperation (Vocabulary.wire root) literal body) :=
  (by decide : IsQuiet "query ").append_braced
    (((isQuiet_wire root).between (by decide : IsGlue "(id: ") hliteral).between
      (by decide : IsGlue ") ") hbody.braced)

theorem isQuiet_listField (hbody : IsQuiet body) :
    IsQuiet (listField (Vocabulary.wire root) body) :=
  (isQuiet_wire root).between (by decide : IsGlue " ") hbody.edgesOf

theorem isQuiet_boundedList (hbound : IsQuiet bound) (hbody : IsQuiet body) :
    IsQuiet (listOperation (listField (boundedField (Vocabulary.wire root) bound) body)) := by
  have hfield := (isQuiet_wire root).between (by decide : IsGlue "(") hbound
  exact (by decide : IsQuiet "query ").append_braced
    (((by decide : IsGlue ")").append_left hfield).between (by decide : IsGlue " ") hbody.edgesOf)

theorem isQuiet_bulkRunOperation (hlist : IsQuiet list) (hbody : IsQuiet body) :
    IsQuiet (bulkRunOperation (Vocabulary.wire root) list body) :=
  (by decide : IsQuiet "mutation ").append_braced
    (((isQuiet_wire root).between (by decide : IsGlue "(query: ") hlist.braced.blockString).between
      (by decide : IsGlue ") ") ((by decide : IsQuiet "bulkOperation ").append_braced hbody).braced)

theorem isQuiet_currentBulkOperation (hbody : IsQuiet body) :
    IsQuiet (currentBulkOperation (Vocabulary.wire root) body) :=
  (by decide : IsQuiet "query ").append_braced
    ((isQuiet_wire root).between (by decide : IsGlue " ") hbody.braced)

end

/-! ### Documents of requests

A document that is there was written from the query, and its parts are known from how it was
written. Updates are left out here.
-/

/-- A selection that is written is its rendering. -/
theorem FieldSet.text_eq_ok {s : FieldSet} {text : String} (h : s.text = .ok text) :
    text = s.render := by
  rw [FieldSet.text] at h
  split at h
  · cases h
    rfl
  · cases h

/-- A bound that is written is its rendering. -/
theorem Connection.text_eq_ok {c : Connection} {text : String} (h : c.text = .ok text) :
    text = c.render := by
  rw [Connection.text] at h
  split at h
  · cases h
    rfl
  · cases h

namespace Query

variable {e : Entity} {q : Query e} {text : String}

/-- The document of a read or of a list is quiet if the names in its selection are. -/
theorem isQuiet_text (hkind : q.kind ≠ .update) (hfields : IsQuiet q.fields.render)
    (hid : ∀ i, q.identifier = some i → i.IsWellFormed ∧ i.space = Id.defaultSpace)
    (h : q.text = .ok text) : IsQuiet text := by
  rw [Query.text] at h
  split at h
  · rw [readText] at h
    split at h
    · cases h
    · rename_i i hi
      obtain ⟨body, hbody, rfl⟩ := map_eq_ok_iff.1 h
      obtain rfl := FieldSet.text_eq_ok hbody
      obtain ⟨hformed, hspace⟩ := hid i hi
      exact isQuiet_readOperation _ (Id.isQuiet_textLiteral hformed hspace) hfields
  · obtain ⟨list, hlist, rfl⟩ := map_eq_ok_iff.1 h
    rw [boundedSelection] at hlist
    split at hlist
    · cases hlist
    · rename_i c _
      obtain ⟨bound, hbound, hlist⟩ := bind_eq_ok_iff.1 hlist
      obtain ⟨body, hbody, hlist⟩ := bind_eq_ok_iff.1 hlist
      cases hlist
      obtain rfl := Connection.text_eq_ok hbound
      obtain rfl := FieldSet.text_eq_ok hbody
      exact isQuiet_boundedList _ c.isQuiet_render hfields
  · exact absurd ‹_› hkind

end Query

namespace BulkQuery

theorem isQuiet_fields : IsQuiet (FieldSet.ofNames bulkFields).render := by
  decide

/-- The document that runs a list in bulk is quiet if the names in its selection are. -/
theorem isQuiet_text {e : Entity} {q : Query e} {b : BulkQuery} {text : String}
    (hrun : run ⟨e, q⟩ = .ok b) (hfields : IsQuiet q.fields.render) (h : b.text = .ok text) :
    IsQuiet text := by
  obtain ⟨hkind, rfl⟩ := run_eq_ok hrun
  rw [BulkQuery.text, runText] at h
  simp only [hkind, if_true] at h
  obtain ⟨-, -, h⟩ := bind_eq_ok_iff.1 h
  obtain ⟨list, hlist, h⟩ := bind_eq_ok_iff.1 h
  obtain ⟨body, hbody, h⟩ := bind_eq_ok_iff.1 h
  cases h
  obtain ⟨listed, hlisted, rfl⟩ := map_eq_ok_iff.1 hlist
  obtain rfl := FieldSet.text_eq_ok hlisted
  obtain rfl := FieldSet.text_eq_ok hbody
  exact isQuiet_bulkRunOperation _ (isQuiet_listField _ hfields) isQuiet_fields

end BulkQuery

/-! ### What clients report

The report is what the template of a log line is filled with, and a document that is quiet stays so
behind a fixed beginning.
-/

/-- What a client reports of a document that it sends. -/
def Document.executing (d : Document) : String :=
  "Executing " ++ Vocabulary.wire d.operation ++ ": " ++ d.text

/-- The report is a template that is filled with the root field and the document. -/
theorem Template.fill_executing (operation text : String) :
    fill (.str "Executing %s: %s") (.tuple [.str operation, .str text]) =
      .ok (.str ("Executing " ++ operation ++ ": " ++ text)) := by
  have hpieces : pieces (.str "Executing %s: %s") =
      (codePoints "Executing ".toList).map .point ++ .conversion asText ::
        ((codePoints ": ".toList).map .point ++ [.conversion asText]) := by
    decide
  rw [fill, hpieces, Supply.ofDatum, fillPieces_points, fillPieces_asText, fillPieces_points,
    fillPieces_asText]
  have hpoints : codePoints "Executing ".toList ++ (codePoints operation.toList ++
      (codePoints ": ".toList ++ (codePoints text.toList ++ []))) =
      codePoints ("Executing " ++ operation ++ ": " ++ text).toList := by
    simp only [codePoints_append, String.toList_append, List.append_assoc, List.append_nil]
  refine (congrArg (fun ps ↦ Except.ok (Text.ofPoints ps)) hpoints).trans ?_
  rw [Text.ofPoints_codePoints, String.ofList_toList]

namespace Client

variable {σ : Type}

/-- The report stands behind that of the compiler. -/
theorem log_perform (t : Transport σ) (d : Document) (state : σ) :
    ∃ later, (perform t d state).1.log =
      d.compileLog ++ ⟨LogLine.client, .debug, d.executing⟩ :: later := by
  simp only [perform]
  cases (t.send state d.text).1.outcome with
  | ok body => exact ⟨_, by simp [Document.executing]; rfl⟩
  | error failure => exact ⟨_, by simp [Document.executing]; rfl⟩

end Client

namespace Request

variable {r : Request} {u : Usage} {d : Document}

/-- The document of a request that calls reach is quiet, unless it is an update. -/
theorem Reached.isQuiet_text (h : r.Reached u) (hkind : ∀ q, r = .query q → q.2.kind ≠ .update)
    (hid : ∀ i, r.identifier = some i → i.Made ∧ i.space = Id.defaultSpace)
    (hbuild : r.build = .ok d) :
    IsQuiet d.text := by
  obtain ⟨text, htext, rfl⟩ := map_eq_ok_iff.1 hbuild
  obtain ⟨-, -, htext⟩ := bind_eq_ok_iff.1 htext
  cases h with
  | @query e o q hq =>
    exact q.isQuiet_text (hkind _ rfl)
      (FieldToken.composes_isQuiet.fields fun n ↦ hq.invariant.selects.isQuiet)
      (fun i hi ↦ (hid i hi).imp_left Id.Made.isWellFormed) htext
  | run hq hrun =>
    exact BulkQuery.isQuiet_text hrun
      (FieldToken.composes_isQuiet.fields fun n ↦ hq.invariant.selects.isQuiet) htext
  | current =>
    cases htext
    exact isQuiet_currentBulkOperation _ BulkQuery.isQuiet_fields

/-- What is reported of such a document is quiet as well. -/
theorem Reached.isQuiet_executing (h : r.Reached u) (hkind : ∀ q, r = .query q → q.2.kind ≠ .update)
    (hid : ∀ i, r.identifier = some i → i.Made ∧ i.space = Id.defaultSpace)
    (hbuild : r.build = .ok d) :
    IsQuiet d.executing :=
  ((by decide : IsQuiet "Executing ").append (isQuiet_wire d.operation) (.inl (by decide))).between
    (by decide : IsGlue ": ") (h.isQuiet_text hkind hid hbuild)

/-! ### Public contract -/

/-- **Masking leaves the documents of clients alone.** Let a request be made by the factories and
calls, as a read, a list, a bulk run or the question for the bulk operation in progress, with an
identifier of the shop if it has one. If it has a document, then every rule leaves what a client
reports of the document as it is, and so do all of them together. That is the line that a client
logs before it sends the document, and the message of the record of it that comes out of the
filter. -/
theorem reached_executing_unmasked (h : r.Reached u)
    (hkind : ∀ q, r = .query q → q.2.kind ≠ .update)
    (hid : ∀ i, r.identifier = some i → i.Made ∧ i.space = Id.defaultSpace)
    (hbuild : r.build = .ok d) :
    (∀ rule ∈ rules, rule.apply d.executing.toList = d.executing.toList) ∧
      Masking.apply d.executing = d.executing ∧
      (∀ (σ : Type) (t : Transport σ) (state : σ), ∃ later,
        (Client.execute t r state).1.log =
          d.compileLog ++ ⟨LogLine.client, .debug, d.executing⟩ :: later) ∧
      ∀ record : LogRecord, record.get "msg" = .str "Executing %s: %s" →
        record.get "args" = .tuple [.str (Vocabulary.wire d.operation), .str d.text] →
        record.filter = .ok (record.withMessage d.executing) := by
  have hquiet := h.isQuiet_executing hkind hid hbuild
  refine ⟨fun rule hrule ↦ MaskRule.apply_eq_self_of_isQuiet hrule hquiet, apply_eq_self hquiet,
    fun σ t state ↦ ?_, fun record hmessage harguments ↦ ?_⟩
  · rw [Client.execute, hbuild]
    exact Client.log_perform t d state
  · have htext : record.text = .ok d.executing := by
      rw [LogRecord.text, hmessage, harguments]
      exact congrArg (Except.map Text.toString) (Template.fill_executing _ d.text)
    rw [LogRecord.filter, htext]
    show Except.ok (record.withMessage (Masking.apply d.executing)) = _
    rw [apply_eq_self hquiet]

/-- A product that is read with two of its variants. -/
theorem reached_executing_unmasked_variants :
    ∃ (q : Query .product) (d : Document), (Request.query ⟨.product, q⟩).Reached .any ∧
      (Request.query ⟨.product, q⟩).build = .ok d ∧
      d.executing =
        "Executing product: query \x7b product(id: \"gid://shopify/Product/0042\") \x7b " ++
        "id,variants(first: 2) \x7b edges \x7b node \x7b id,sku \x7d \x7d \x7d,title \x7d \x7d" ∧
      Masking.apply d.executing = d.executing := by
  let q : Query .product :=
    { kind := .read
      identifier := some ⟨.product, "0042", "shopify"⟩
      fields :=
        ⟨[.leaf "id",
          .node "variants" .productVariant [.leaf "id", .leaf "sku"] (some ⟨.first, 2, by decide⟩),
          .leaf "title"]⟩ }
  have hvariants : Query.Reached .any (.connection none (.int 2) .null) (e := .variant) _ :=
    .select (e := .variant) VariantField.sku (.make rfl fun _ _ ↦ trivial)
  have hselected :
      Query.Reached .any (.read (.id ⟨.product, "0042", "shopify"⟩)) (e := .product) _ :=
    .select (e := .product) ProductField.title
      (.variantsOf (.make rfl fun _ _ ↦ trivial) hvariants rfl)
  have hproduct : Query.Reached .any (.read (.id ⟨.product, "0042", "shopify"⟩)) q := hselected
  have hread : Id.parse (.str "gid://shopify/Product/0042") = .ok ⟨.product, "0042", "shopify"⟩ :=
    rfl
  have hmade : Id.Made ⟨.product, "0042", "shopify"⟩ := .parse hread
  have hexecuting : (Request.query ⟨.product, q⟩).build.toOption.map Document.executing = some
      ("Executing product: query \x7b product(id: \"gid://shopify/Product/0042\") \x7b " ++
        "id,variants(first: 2) \x7b edges \x7b node \x7b id,sku \x7d \x7d \x7d,title " ++
        "\x7d \x7d") := by
    decide +kernel
  obtain ⟨d, hbuild, htext⟩ := Option.map_eq_some_iff.1 hexecuting
  rw [toOption_eq_some_iff] at hbuild
  refine ⟨q, d, .query hproduct, hbuild, htext,
    (reached_executing_unmasked (.query hproduct) ?_ ?_ hbuild).2.1⟩
  · rintro _ ⟨⟩
    decide
  · rintro _ ⟨⟩
    exact ⟨hmade, rfl⟩

end Request

end CatalogQuery
