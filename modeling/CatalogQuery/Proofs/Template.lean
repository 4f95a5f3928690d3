import CatalogQuery.Proofs.Attempt
import CatalogQuery.Proofs.NumberChange
import CatalogQuery.Template

/-!
# Filling a template

The code points of a template stand for themselves (`fillPieces_points`), and so does a text in a
conversion without flags and sizes (`fillPieces_asText`).

Filling stops at the first conversion that cannot be made. Most of what can be wrong there is that
the values do not fit the template: a value is missing, left over or of another class, or the
template is cut off. Two faults are of other kinds. A key may not be in the mapping
(`Supply.LacksKey`), and a number may be beyond what its place can hold (`Supply.Overflows`): a size
that is taken from the values, an infinity that is shown as an integer, an integer that is shown as
a decimal number or as a character, or the places of an integer.

`FaultsBy` says of a step when each of these two faults comes up, and that all other faults are
misfits; it goes along the steps of a chain (`FaultsBy.bind`). `faultsBy_fill` has it for the whole,
where `ComesTo` says that the filling comes to a conversion at which something is so.

## Steps with known faults

`FaultsBy x lacks exceeds` says three things of a step: it fails for a missing key exactly under the
first condition, for an overflow exactly under the second, and every other failure is a misfit.
Since both conditions are exact, they can be put together: two steps in a row fail by the condition
of the first, or by that of the second where the first was made. What `FaultsBy.bind` gives is a
condition of existential form, and `FaultsBy.congr` restates it in the words of the definition it is
for. So the proof for each step of the formatter follows the step, and the conditions are compared
apart from it.

The kinds of conversions are five families with a function each. Which of them can overflow, and by
what, is `OutOfRange`; that the families do not overlap is a matter of the fixed lists of their
letters.

## Conditions along a template

A template is filled from left to right, and each conversion takes its values out of the supply.
Whether a later conversion fails depends on what those before it have left there, so no condition on
a single conversion can be stated beforehand. `ComesTo P` follows the filling: it leads over code
points and over conversions that were made, to a conversion with `P` at the supply that is left by
then. The induction of `faultsBy_fillPieces` is on the pieces, with the supply general.

## Plain values

Where no value is a number and there is no mapping, neither fault can come up. This is an invariant
of the filling (`Supply.IsPlain.convert`), and `Supply.IsPlain.not_comesTo` carries it to all
conversions that are reached. It is what makes the messages of the library itself safe: they are
filled with texts only.
-/

open CatalogQuery.Attempt

namespace CatalogQuery.Template

/-! ### Texts that are shown as they are -/

/-- A conversion that shows a text as it is. -/
def asText : Conversion where
  key := .absent
  flags := {}
  width := .absent
  precision := .absent
  kind := some 's'

/-- Code points stand for themselves. -/
theorem fillPieces_points (pieces : List Piece) (s : Supply) : ∀ ps : List Nat,
    fillPieces (ps.map .point ++ pieces) s = (fillPieces pieces s).map (ps ++ ·)
  | [] => by
    cases h : fillPieces pieces s <;> simp [h, Except.map]
  | p :: ps => by
    rw [List.map_cons, List.cons_append, fillPieces, fillPieces_points pieces s ps]
    cases fillPieces pieces s <;> rfl

/-- A text in a conversion without flags and sizes stands for itself. -/
theorem fillPieces_asText (s : String) (ds : List Datum) (ps : List Piece) :
    fillPieces (.conversion asText :: ps) { values := .str s :: ds, mapping := none } =
      (fillPieces ps { values := ds, mapping := none }).map (codePoints s.toList ++ ·) := by
  have hfield : Shown.field { body := codePoints s.toList } {} 0 = codePoints s.toList := by
    simp [Shown.field, codePoints]
  have hconvert : Supply.convert { values := .str s :: ds, mapping := none } asText =
      .ok (codePoints s.toList, { values := ds, mapping := none }) := by
    rw [← hfield]
    rfl
  rw [fillPieces, hconvert]
  show (fillPieces ps { values := ds, mapping := none } >>= fun rest ↦
    pure (codePoints s.toList ++ rest)) = _
  cases fillPieces ps { values := ds, mapping := none } <;> rfl

/-! ### Faults of a step -/

section FaultsBy

variable {α β : Type} {x : Except Fault α} {lacks exceeds lacks' exceeds' : Prop}

/-- A step has the fault of a missing key if it `lacks` one and that of a number out of range if it
`exceeds` a range; all other faults of it are those of values that do not fit. -/
structure FaultsBy (x : Except Fault α) (lacks exceeds : Prop) : Prop where
  /-- When a key is missing. -/
  missing_iff : x = .error .missingKey ↔ lacks
  /-- When a number is out of range. -/
  overflow_iff : x = .error .overflow ↔ exceeds
  /-- All other faults. -/
  misfit : ∀ f, x = .error f → f = .wrongClass ∨ f = .badValue ∨ f = .missingKey ∨ f = .overflow

namespace FaultsBy

theorem congr (h : FaultsBy x lacks exceeds) (hlacks : lacks ↔ lacks')
    (hexceeds : exceeds ↔ exceeds') : FaultsBy x lacks' exceeds' :=
  ⟨h.missing_iff.trans hlacks, h.overflow_iff.trans hexceeds, h.misfit⟩

theorem ok (a : α) : FaultsBy (.ok a : Except Fault α) False False := by
  constructor <;> simp

theorem wrongClass : FaultsBy (.error .wrongClass : Except Fault α) False False := by
  constructor <;> simp

theorem badValue : FaultsBy (.error .badValue : Except Fault α) False False := by
  constructor <;> simp

theorem missingKey : FaultsBy (.error .missingKey : Except Fault α) True False := by
  constructor <;> simp

theorem overflow : FaultsBy (.error .overflow : Except Fault α) False True := by
  constructor <;> simp

theorem map (h : FaultsBy x lacks exceeds) (f : α → β) : FaultsBy (x.map f) lacks exceeds where
  missing_iff := map_eq_error_iff.trans h.missing_iff
  overflow_iff := map_eq_error_iff.trans h.overflow_iff
  misfit fault hfault := h.misfit fault (map_eq_error_iff.1 hfault)

/-- **The faults of two steps**: those of the first, or those of the second where the first is
made. -/
theorem bind {f : α → Except Fault β} {lacks' exceeds' : α → Prop} (h : FaultsBy x lacks exceeds)
    (hf : ∀ a, x = .ok a → FaultsBy (f a) (lacks' a) (exceeds' a)) :
    FaultsBy (x >>= f) (lacks ∨ ∃ a, x = .ok a ∧ lacks' a)
      (exceeds ∨ ∃ a, x = .ok a ∧ exceeds' a) where
  missing_iff := bind_eq_error_iff.trans
    (or_congr h.missing_iff (exists_congr fun a ↦ and_congr_right fun ha ↦ (hf a ha).missing_iff))
  overflow_iff := bind_eq_error_iff.trans
    (or_congr h.overflow_iff (exists_congr fun a ↦ and_congr_right fun ha ↦ (hf a ha).overflow_iff))
  misfit fault hfault := by
    rcases bind_eq_error_iff.1 hfault with hx | ⟨a, ha, hfa⟩
    · exact h.misfit fault hx
    · exact (hf a ha).misfit fault hfa

end FaultsBy

end FaultsBy

/-! ### Values -/

/-- A number is beyond what a conversion of a kind can show. -/
inductive OutOfRange (kind : Char) (precision : Option Nat) : Datum → Prop
  /-- An infinity has no integer part. -/
  | infinite {negative : Bool}
      (hkind : kind ∈ ['d', 'i', 'u']) : OutOfRange kind precision (.float (.inf negative))
  /-- An integer is to have more digits than fit. -/
  | digits {d : Datum} {n : Int} (hkind : kind ∈ ['d', 'i', 'u', 'o', 'x', 'X'])
      (hn : integerOf (kind ∈ ['d', 'i', 'u']) d = .ok n)
      (hprecision : integerPrecisionLimit < precision.getD 0) : OutOfRange kind precision d
  /-- An integer has no nearest decimal number. -/
  | decimal {d : Datum} {n : Int} (hkind : kind ∈ ['e', 'E', 'f', 'F', 'g', 'G'])
      (hn : d.asInt? = some n) (hlarge : Binary64.overflowThreshold ≤ n.natAbs) :
      OutOfRange kind precision d
  /-- An integer is no code point. -/
  | character {d : Datum} {n : Int} (hkind : kind = 'c') (hn : d.asInt? = some n)
      (hrange : n < 0 ∨ 0x10FFFF < n) : OutOfRange kind precision d

section Values

variable {kind : Char} {f : Flags} {precision : Option Nat} {d : Datum}

/-- A text is shown, or there is none. -/
theorem faultsBy_showText : FaultsBy (showText kind precision d) False False := by
  rw [showText.eq_def]
  split
  · exact .badValue
  · exact .ok _

/-- An infinity has no integer part; any other value is an integer, has one, or does not fit. -/
theorem faultsBy_integerOf (cuts : Bool) :
    FaultsBy (integerOf cuts d) False (cuts = true ∧ ∃ negative, d = .float (.inf negative)) := by
  -- Only an infinity has a fault that is no misfit, and only where numbers are cut off.
  cases d with
  | float x =>
    cases cuts with
    | false => exact FaultsBy.wrongClass.congr Iff.rfl (by simp)
    | true =>
      cases x with
      | nan => exact FaultsBy.badValue.congr Iff.rfl (by simp)
      | inf negative => exact FaultsBy.overflow.congr Iff.rfl (by simp)
      | finite negative m e => exact (FaultsBy.ok _).congr Iff.rfl (by simp)
  | bool b | int n => exact (FaultsBy.ok _).congr Iff.rfl (by simp)
  | _ => exact FaultsBy.wrongClass.congr Iff.rfl (by simp)

theorem not_mem_integerKinds (hkind : kind ∈ ['e', 'E', 'f', 'F', 'g', 'G']) :
    kind ∉ ['d', 'i', 'u', 'o', 'x', 'X'] := by
  have hnone : ∀ kind ∈ ['e', 'E', 'f', 'F', 'g', 'G'], kind ∉ ['d', 'i', 'u', 'o', 'x', 'X'] :=
    Grammar.forall_mem_of_all (by decide)
  exact hnone kind hkind

/-- What can be out of range where an integer is shown. -/
theorem outOfRange_integer_iff (hkind : kind ∈ ['d', 'i', 'u', 'o', 'x', 'X']) :
    OutOfRange kind precision d ↔
      (decide (kind ∈ ['d', 'i', 'u']) = true ∧ ∃ negative, d = .float (.inf negative)) ∨
      ∃ n, integerOf (kind ∈ ['d', 'i', 'u']) d = .ok n ∧
        integerPrecisionLimit < precision.getD 0 := by
  constructor
  · intro h
    cases h with
    | infinite hinteger => exact .inl ⟨decide_eq_true hinteger, _, rfl⟩
    | digits _ hn hprecision => exact .inr ⟨_, hn, hprecision⟩
    | decimal hdecimal => exact absurd hkind (not_mem_integerKinds hdecimal)
    | character hcharacter => exact absurd hkind (hcharacter ▸ by decide)
  · rintro (⟨hinteger, negative, rfl⟩ | ⟨n, hn, hprecision⟩)
    · exact .infinite (of_decide_eq_true hinteger)
    · exact .digits hkind hn hprecision

theorem faultsBy_guarded {α : Type} {p q : Prop} [Decidable p] [Decidable q] (a : α) :
    FaultsBy (if p then .error .overflow else if q then .error .badValue else .ok a) False p := by
  split
  · rename_i hp
    exact FaultsBy.overflow.congr Iff.rfl (iff_of_true trivial hp)
  · rename_i hp
    split
    · exact FaultsBy.badValue.congr Iff.rfl (iff_of_false id hp)
    · exact (FaultsBy.ok a).congr Iff.rfl (iff_of_false id hp)

/-- A value is shown as an integer, does not fit, or is out of range. -/
theorem faultsBy_showInteger (hkind : kind ∈ ['d', 'i', 'u', 'o', 'x', 'X']) :
    FaultsBy (showInteger kind f precision d) False (OutOfRange kind precision d) := by
  -- Numbers are cut off for the kinds of base ten, and only for these.
  have hbase : ∀ kind ∈ ['d', 'i', 'u', 'o', 'x', 'X'],
      decide ((if kind = 'o' then 8 else if kind = 'x' || kind = 'X' then 16 else 10) = 10) =
        decide (kind ∈ ['d', 'i', 'u']) := Grammar.forall_mem_of_all (by decide)
  rw [showInteger, hbase kind hkind]
  exact ((faultsBy_integerOf _).bind fun n _ ↦ faultsBy_guarded _).congr (by simp)
    (outOfRange_integer_iff hkind).symm

/-- An integer is shown as a decimal number if it has a nearest one. -/
theorem faultsBy_floatOf :
    FaultsBy (floatOf d) False
      (∃ n, d.asInt? = some n ∧ Binary64.overflowThreshold ≤ n.natAbs) := by
  -- A truth value counts as an integer, so both are told by the same fact.
  have hinteger (n : Int) :
      FaultsBy ((Binary64.ofInt? n).elim (.error .overflow) .ok : Except Fault Binary64) False
        (Binary64.overflowThreshold ≤ n.natAbs) := by
    rcases Binary64.ofInt_cases n with ⟨hlarge, hn⟩ | ⟨hsmall, x, -, hn⟩
    · rw [Binary64.ofInt] at hn
      cases hfound : Binary64.ofInt? n with
      | none => exact FaultsBy.overflow.congr Iff.rfl (iff_of_true trivial hlarge)
      | some x =>
        rw [hfound] at hn
        cases hn
    · rw [Binary64.ofInt] at hn
      cases hfound : Binary64.ofInt? n with
      | none =>
        rw [hfound] at hn
        cases hn
      | some x => exact (FaultsBy.ok x).congr Iff.rfl (iff_of_false id (Nat.not_le_of_lt hsmall))
  cases d with
  | float x => exact (FaultsBy.ok _).congr Iff.rfl (by simp [Datum.asInt?])
  | bool b | int n => exact (hinteger _).congr Iff.rfl (by simp [Datum.asInt?])
  | _ => exact FaultsBy.wrongClass.congr Iff.rfl (by simp [Datum.asInt?])

/-- Once a value is a decimal number, every form of it can be shown. -/
theorem faultsBy_showFloat :
    FaultsBy (showFloat kind f precision d) False
      (∃ n, d.asInt? = some n ∧ Binary64.overflowThreshold ≤ n.natAbs) := by
  rw [showFloat]
  exact (faultsBy_floatOf.bind fun x _ ↦ FaultsBy.ok _).congr (by simp) (by simp)

/-- A value is shown as a character if it is one, or the code point of one. -/
theorem faultsBy_showChar :
    FaultsBy (showChar d) False (∃ n, d.asInt? = some n ∧ (n < 0 ∨ 0x10FFFF < n)) := by
  rw [showChar.eq_def]
  split
  · rename_i t ht
    have hnone := Datum.asInt?_of_asText? ht
    split
    · exact (FaultsBy.ok _).congr Iff.rfl (by simp [hnone])
    · exact FaultsBy.wrongClass.congr Iff.rfl (by simp [hnone])
  · rename_i n _ hn
    split
    · exact FaultsBy.overflow.congr Iff.rfl (by simp_all)
    · exact (FaultsBy.ok _).congr Iff.rfl (by simp_all)
  · rename_i hn
    exact FaultsBy.wrongClass.congr Iff.rfl (by simp [hn])

/-- A kind that is none of those of numbers and characters puts no bound on what it shows. -/
theorem not_outOfRange
    (hkind : kind ∉ ['d', 'i', 'u', 'o', 'x', 'X', 'e', 'E', 'f', 'F', 'g', 'G', 'c']) :
    ¬ OutOfRange kind precision d := by
  intro h
  refine hkind ?_
  cases h with
  | infinite hinteger =>
    exact List.mem_append_left ['o', 'x', 'X', 'e', 'E', 'f', 'F', 'g', 'G', 'c'] hinteger
  | digits hinteger => exact List.mem_append_left ['e', 'E', 'f', 'F', 'g', 'G', 'c'] hinteger
  | decimal hdecimal =>
    exact List.mem_append_right ['d', 'i', 'u', 'o', 'x', 'X'] (List.mem_append_left ['c'] hdecimal)
  | character hcharacter =>
    subst hcharacter
    decide

/-- What can be out of range where a decimal number is shown. -/
theorem outOfRange_decimal_iff (hkind : kind ∈ ['e', 'E', 'f', 'F', 'g', 'G']) :
    OutOfRange kind precision d ↔
      ∃ n, d.asInt? = some n ∧ Binary64.overflowThreshold ≤ n.natAbs := by
  have hinteger := not_mem_integerKinds hkind
  constructor
  · intro h
    cases h with
    | infinite h => exact absurd (List.mem_append_left ['o', 'x', 'X'] h) hinteger
    | digits h => exact absurd h hinteger
    | decimal _ hn hlarge => exact ⟨_, hn, hlarge⟩
    | character h => exact absurd hkind (h ▸ by decide)
  · rintro ⟨n, hn, hlarge⟩
    exact .decimal hkind hn hlarge

/-- What can be out of range where a character is shown. -/
theorem outOfRange_character_iff :
    OutOfRange 'c' precision d ↔ ∃ n, d.asInt? = some n ∧ (n < 0 ∨ 0x10FFFF < n) := by
  constructor
  · intro h
    cases h with
    | infinite h | digits h | decimal h => exact absurd h (by decide)
    | character _ hn hrange => exact ⟨_, hn, hrange⟩
  · rintro ⟨n, hn, hrange⟩
    exact .character rfl hn hrange

/-- **A value is shown, does not fit, or is a number out of range.** -/
theorem faultsBy_showValue :
    FaultsBy (showValue kind f precision d) False (OutOfRange kind precision d) := by
  -- The families in the order in which the formatter asks for them.
  rw [showValue]
  split
  · rename_i hkind
    have hnone : ∀ kind ∈ ['s', 'r', 'a'],
        kind ∉ ['d', 'i', 'u', 'o', 'x', 'X', 'e', 'E', 'f', 'F', 'g', 'G', 'c'] :=
      Grammar.forall_mem_of_all (by decide)
    exact faultsBy_showText.congr Iff.rfl
      (iff_of_false id (not_outOfRange (hnone kind (List.contains_iff_mem.1 hkind))))
  · split
    · rename_i hkind
      exact faultsBy_showInteger (List.contains_iff_mem.1 hkind)
    · split
      · rename_i hkind
        exact faultsBy_showFloat.congr Iff.rfl
          (outOfRange_decimal_iff (List.contains_iff_mem.1 hkind)).symm
      · split
        · rename_i hkind
          subst hkind
          exact faultsBy_showChar.congr Iff.rfl outOfRange_character_iff.symm
        · rename_i hinteger hdecimal hcharacter
          refine FaultsBy.badValue.congr Iff.rfl (iff_of_false id (not_outOfRange fun hkind ↦ ?_))
          have hsplit : kind ∈ ['d', 'i', 'u', 'o', 'x', 'X'] ++
              (['e', 'E', 'f', 'F', 'g', 'G'] ++ ['c']) := hkind
          rcases List.mem_append.1 hsplit with h | h
          · exact hinteger (List.contains_iff_mem.2 h)
          · rcases List.mem_append.1 h with h | h
            · exact hdecimal (List.contains_iff_mem.2 h)
            · exact hcharacter (List.mem_singleton.1 h)

end Values

/-! ### Conversions -/

/-- The key of a conversion is not in the mapping. -/
def Supply.LacksKey (s : Supply) (c : Conversion) : Prop :=
  ∃ name es, c.key = .named name ∧ s.mapping = some (.dict es) ∧ Datum.get? (.text name) es = none

/-- A size is the next value, and that is an integer beyond a signed word. -/
def Supply.SizeOverflows (s : Supply) (limit : Nat) (size : Size) : Prop :=
  size = .argument ∧ ∃ d ds n, s.values = d :: ds ∧ d.asInt? = some n ∧
    (n < -(limit : Int) - 1 ∨ limit < n)

/-- A number is out of range for its place in a conversion: for the width, for the precision, or for
the kind. -/
inductive Supply.Overflows (s : Supply) (c : Conversion) : Prop
  /-- The width is beyond a signed word. -/
  | width {s₁ : Supply} (hs : s.select c.key = .ok s₁) (h : s₁.SizeOverflows widthLimit c.width)
  /-- The precision is beyond a signed word. -/
  | precision {s₁ s₂ : Supply} {width : Option Int} (hs : s.select c.key = .ok s₁)
      (hwidth : s₁.size widthLimit c.width = .ok (width, s₂))
      (h : s₂.SizeOverflows precisionLimit c.precision)
  /-- The value is beyond what its kind can show. -/
  | value {s₁ s₂ s₃ s₄ : Supply} {width precision : Option Int} {kind : Char} {d : Datum}
      (hs : s.select c.key = .ok s₁) (hwidth : s₁.size widthLimit c.width = .ok (width, s₂))
      (hprecision : s₂.size precisionLimit c.precision = .ok (precision, s₃))
      (hkind : c.kind = some kind) (hd : s₃.next = .ok (d, s₄))
      (h : OutOfRange kind (precision.map Int.toNat) d)

section Conversions

variable {s : Supply} {c : Conversion}

/-- A key is looked up in a mapping, and only there it can be missing. -/
theorem faultsBy_select : FaultsBy (s.select c.key) (s.LacksKey c) False := by
  rw [Supply.select.eq_def, Supply.LacksKey]
  split
  · rename_i hkey
    exact (FaultsBy.ok _).congr (by simp [hkey]) Iff.rfl
  · rename_i hmapping _
    exact FaultsBy.wrongClass.congr (by simp [hmapping]) Iff.rfl
  · rename_i hkey _
    exact FaultsBy.badValue.congr (by simp [hkey]) Iff.rfl
  · rename_i name es hkey hmapping
    split
    · rename_i d hd
      exact (FaultsBy.ok _).congr (by simp [hkey, hmapping, hd]) Iff.rfl
    · rename_i hd
      exact FaultsBy.missingKey.congr (by simp [hkey, hmapping, hd]) Iff.rfl
  · rename_i d hdict hkey hmapping
    refine FaultsBy.wrongClass.congr (iff_of_false id ?_) Iff.rfl
    rintro ⟨name, es, -, hes, -⟩
    exact hdict es (Option.some.inj (hmapping.symm.trans hes))

theorem faultsBy_next : FaultsBy s.next False False := by
  rw [Supply.next.eq_def]
  split
  · exact .ok _
  · exact .wrongClass

/-- A size that is written in the template was checked when that was read; one that is the next
value may be too large. -/
theorem faultsBy_size {limit : Nat} {size : Size} :
    FaultsBy (s.size limit size) False (s.SizeOverflows limit size) := by
  cases size with
  | absent | fixed n => exact (FaultsBy.ok _).congr Iff.rfl (by simp [Supply.SizeOverflows])
  | tooLarge => exact FaultsBy.badValue.congr Iff.rfl (by simp [Supply.SizeOverflows])
  | argument =>
    obtain ⟨values, mapping⟩ := s
    cases values with
    | nil => exact FaultsBy.wrongClass.congr Iff.rfl (by simp [Supply.SizeOverflows])
    | cons d ds =>
      have hsize :
          Supply.size ⟨d :: ds, mapping⟩ limit .argument =
            d.asInt?.elim (.error .wrongClass) fun n ↦
              if n < -(limit : Int) - 1 || limit < n then .error .overflow
              else .ok (some n, ⟨ds, mapping⟩) := by
        rw [Supply.size.eq_def, Supply.next.eq_def]
        cases hn : d.asInt? <;> simp only [bind, Except.bind, hn] <;> rfl
      rw [hsize]
      cases hn : d.asInt? with
      | none => exact FaultsBy.wrongClass.congr Iff.rfl (by simp [Supply.SizeOverflows, hn])
      | some n =>
        show FaultsBy (if n < -(limit : Int) - 1 || limit < n then .error .overflow else .ok _) _ _
        split
        · exact FaultsBy.overflow.congr Iff.rfl (by simp_all [Supply.SizeOverflows])
        · exact (FaultsBy.ok _).congr Iff.rfl (by simp_all [Supply.SizeOverflows])

/-- A value is beyond what its kind can show, after the sizes are read. -/
def Conversion.Exceeds (c : Conversion) (precision : Option Int) (s : Supply) : Prop :=
  ∃ kind, c.kind = some kind ∧ ∃ next, s.next = .ok next ∧
    OutOfRange kind (precision.map Int.toNat) next.1

/-- The steps of a conversion one after another, each with what it may exceed. -/
theorem overflows_iff : s.Overflows c ↔
    ∃ s₁, s.select c.key = .ok s₁ ∧ (s₁.SizeOverflows widthLimit c.width ∨
      ∃ width, s₁.size widthLimit c.width = .ok width ∧
        (width.2.SizeOverflows precisionLimit c.precision ∨
        ∃ precision, width.2.size precisionLimit c.precision = .ok precision ∧
          c.Exceeds precision.1 precision.2)) := by
  constructor
  · intro h
    cases h with
    | width hs h => exact ⟨_, hs, .inl h⟩
    | precision hs hwidth h => exact ⟨_, hs, .inr ⟨_, hwidth, .inl h⟩⟩
    | value hs hwidth hprecision hkind hd h =>
      exact ⟨_, hs, .inr ⟨_, hwidth, .inr ⟨_, hprecision, _, hkind, _, hd, h⟩⟩⟩
  · rintro ⟨s₁, hs, h | ⟨width, hwidth, h | ⟨precision, hprecision, kind, hkind, next, hd, h⟩⟩⟩
    · exact .width hs h
    · exact .precision hs hwidth h
    · exact .value hs hwidth hprecision hkind hd h

/-- **A conversion is made, its value does not fit, its key is missing, or a number is out of
range.** -/
theorem faultsBy_convert : FaultsBy (s.convert c) (s.LacksKey c) (s.Overflows c) := by
  -- First the key, then the two sizes; what is left is the value, if a kind is given at all.
  rw [Supply.convert]
  refine (faultsBy_select.bind fun s₁ _ ↦ faultsBy_size.bind fun width _ ↦
    faultsBy_size.bind fun precision _ ↦
      (?_ : FaultsBy _ False (c.Exceeds precision.1 precision.2))).congr (by simp)
        (by simp [overflows_iff])
  cases hkind : c.kind with
  | none => exact FaultsBy.badValue.congr Iff.rfl (by simp [Conversion.Exceeds, hkind])
  | some kind =>
    exact (faultsBy_next.bind fun next _ ↦ faultsBy_showValue.bind fun shown _ ↦ .ok _).congr
      (by simp) (by simp [Conversion.Exceeds, hkind])

end Conversions

/-! ### Templates -/

/-- The filling of pieces comes to a conversion at which something is so. -/
inductive ComesTo (P : Supply → Conversion → Prop) : List Piece → Supply → Prop
  /-- At the first conversion. -/
  | here {c : Conversion} {ps : List Piece} {s : Supply} : P s c → ComesTo P (.conversion c :: ps) s
  /-- Behind a code point. -/
  | point {p : Nat} {ps : List Piece} {s : Supply} : ComesTo P ps s → ComesTo P (.point p :: ps) s
  /-- Behind a conversion that is made, with what it leaves of the values. -/
  | after {c : Conversion} {ps : List Piece} {s s' : Supply} {made : List Nat} :
      s.convert c = .ok (made, s') → ComesTo P ps s' → ComesTo P (.conversion c :: ps) s

/-- The filling is at a conversion, or comes to a later one after it has made this. -/
theorem comesTo_cons_iff {P : Supply → Conversion → Prop} {c : Conversion} {ps : List Piece}
    {s : Supply} :
    ComesTo P (.conversion c :: ps) s ↔
      P s c ∨ ∃ made, s.convert c = .ok made ∧ ComesTo P ps made.2 := by
  constructor
  · intro h
    cases h with
    | here h => exact .inl h
    | after hmade h => exact .inr ⟨_, hmade, h⟩
  · rintro (h | ⟨made, hmade, h⟩)
    · exact .here h
    · exact .after hmade h

theorem comesTo_point_iff {P : Supply → Conversion → Prop} {p : Nat} {ps : List Piece}
    {s : Supply} : ComesTo P (.point p :: ps) s ↔ ComesTo P ps s := by
  constructor
  · intro h
    cases h with
    | point h => exact h
  · exact .point

theorem not_comesTo_nil {P : Supply → Conversion → Prop} {s : Supply} : ¬ ComesTo P [] s := by
  rintro ⟨⟩

/-- **The faults of pieces are those of the conversions that the filling comes to.** -/
theorem faultsBy_fillPieces : ∀ (ps : List Piece) (s : Supply),
    FaultsBy (fillPieces ps s) (ComesTo Supply.LacksKey ps s) (ComesTo Supply.Overflows ps s)
  | [], s => by
    -- At the end values may be left over, which is a misfit.
    rw [fillPieces]
    split
    · exact FaultsBy.wrongClass.congr (iff_of_false id not_comesTo_nil)
        (iff_of_false id not_comesTo_nil)
    · exact (FaultsBy.ok _).congr (iff_of_false id not_comesTo_nil)
        (iff_of_false id not_comesTo_nil)
  | .point p :: ps, s => by
    rw [fillPieces]
    exact ((faultsBy_fillPieces ps s).map _).congr comesTo_point_iff.symm comesTo_point_iff.symm
  | .conversion c :: ps, s => by
    rw [fillPieces]
    refine (faultsBy_convert.bind fun made _ ↦ ?_).congr comesTo_cons_iff.symm comesTo_cons_iff.symm
    exact ((faultsBy_fillPieces ps made.2).bind fun _ _ ↦ .ok _).congr (by simp) (by simp)

/-- **What can go wrong where a template is filled.** -/
theorem faultsBy_fill (template : Text) (values : Datum) :
    FaultsBy (fill template values) (ComesTo Supply.LacksKey (pieces template) (.ofDatum values))
      (ComesTo Supply.Overflows (pieces template) (.ofDatum values)) :=
  (faultsBy_fillPieces _ _).map _

/-- A key is compared by its code points: one with half of a surrogate pair is found. -/
example : fill (.ofPoints [0x25, 0x28, 0xD800, 0x29, 0x73])
    (.dict [(.text (.ofPoints [0xD800]), .str "a")]) = .ok (.str "a") := by
  decide

/-! ### Values that are no numbers -/

/-- A value is no number, nor a truth value, which counts as one. -/
def IsNoNumber (d : Datum) : Prop :=
  d.asInt? = none ∧ ∀ x, d ≠ .float x

/-- There is no mapping and no number among the values. -/
structure Supply.IsPlain (s : Supply) : Prop where
  /-- No keys are looked up. -/
  mapping : s.mapping = none
  /-- The values are no numbers. -/
  values : ∀ d ∈ s.values, IsNoNumber d

section Plain

variable {s s' : Supply} {c : Conversion}

/-- Only numbers can be out of range. -/
theorem not_outOfRange_of_isNoNumber {kind : Char} {precision : Option Nat} {d : Datum}
    (hd : IsNoNumber d) : ¬ OutOfRange kind precision d := by
  intro h
  cases h with
  | infinite => exact hd.2 _ rfl
  | digits _ hn _ =>
    rw [integerOf.eq_def, hd.1] at hn
    cases d with
    | float x => exact hd.2 x rfl
    | _ => cases hn
  | decimal _ hn _ | character _ hn _ =>
    rw [hd.1] at hn
    cases hn

theorem Supply.IsPlain.not_lacksKey (h : s.IsPlain) : ¬ s.LacksKey c := by
  rintro ⟨name, es, -, hes, -⟩
  rw [h.mapping] at hes
  cases hes

theorem Supply.IsPlain.not_sizeOverflows (h : s.IsPlain) {limit : Nat} {size : Size} :
    ¬ s.SizeOverflows limit size := by
  rintro ⟨-, d, ds, n, hvalues, hn, -⟩
  have hd := (h.values d (by simp [hvalues])).1
  rw [hn] at hd
  cases hd

theorem Supply.IsPlain.select (h : s.IsPlain) (hs : s.select c.key = .ok s') : s'.IsPlain := by
  rw [Supply.select.eq_def] at hs
  split at hs
  · cases hs
    exact h
  · cases hs
  · cases hs
  · rename_i hes
    rw [h.mapping] at hes
    cases hes
  · cases hs

theorem Supply.IsPlain.next (h : s.IsPlain) {d : Datum} (hs : s.next = .ok (d, s')) :
    IsNoNumber d ∧ s'.IsPlain := by
  rw [Supply.next.eq_def] at hs
  split at hs
  · rename_i d ds hvalues
    cases hs
    have hall := h.values
    rw [hvalues, List.forall_mem_cons] at hall
    exact ⟨hall.1, h.mapping, hall.2⟩
  · cases hs

theorem Supply.IsPlain.size (h : s.IsPlain) {limit : Nat} {size : Size} {n : Option Int}
    (hs : s.size limit size = .ok (n, s')) : s'.IsPlain := by
  cases size with
  | absent | fixed n =>
    cases hs
    exact h
  | tooLarge => cases hs
  | argument =>
    -- The value is no integer, so that no size is read from it.
    obtain ⟨⟨d, rest⟩, hnext, hs⟩ := bind_eq_ok_iff.1 hs
    have hd := (h.next hnext).1.1
    simp only [hd] at hs
    cases hs

/-- **No conversion of plain values has a fault other than a misfit**, and what it leaves is
plain. -/
theorem Supply.IsPlain.not_overflows (h : s.IsPlain) : ¬ s.Overflows c := by
  intro hover
  cases hover with
  | width hs hsize => exact (h.select hs).not_sizeOverflows hsize
  | precision hs hwidth hsize => exact ((h.select hs).size hwidth).not_sizeOverflows hsize
  | value hs hwidth hprecision _ hd hrange =>
    exact not_outOfRange_of_isNoNumber ((((h.select hs).size hwidth).size hprecision).next hd).1
      hrange

/-- Plain values stay plain while conversions are made. -/
theorem Supply.IsPlain.convert (h : s.IsPlain) {made : List Nat}
    (hs : s.convert c = .ok (made, s')) : s'.IsPlain := by
  obtain ⟨s₁, hselect, hs⟩ := bind_eq_ok_iff.1 hs
  obtain ⟨⟨width, s₂⟩, hwidth, hs⟩ := bind_eq_ok_iff.1 hs
  obtain ⟨⟨precision, s₃⟩, hprecision, hs⟩ := bind_eq_ok_iff.1 hs
  have h₃ := ((h.select hselect).size hwidth).size hprecision
  dsimp only at hs
  cases hkind : c.kind with
  | none =>
    rw [hkind] at hs
    cases hs
  | some kind =>
    rw [hkind] at hs
    obtain ⟨⟨d, s₄⟩, hnext, hs⟩ := bind_eq_ok_iff.1 hs
    obtain ⟨shown, -, hs⟩ := bind_eq_ok_iff.1 hs
    cases hs
    exact (h₃.next hnext).2

/-- The filling of a template with plain values comes to no conversion at which something is so that
is not so of plain values. -/
theorem Supply.IsPlain.not_comesTo {P : Supply → Conversion → Prop}
    (hP : ∀ s c, s.IsPlain → ¬ P s c) {ps : List Piece} (h : s.IsPlain) : ¬ ComesTo P ps s := by
  intro hcomes
  induction hcomes with
  | here hp => exact hP _ _ h hp
  | point _ ih => exact ih h
  | after hmade _ ih => exact ih (h.convert hmade)

end Plain

end CatalogQuery.Template
