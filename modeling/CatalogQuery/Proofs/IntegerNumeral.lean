import CatalogQuery.Proofs.Amount

/-!
# The texts that are read as integers

A text that is read as an integer is an optional sign and a run of digits, with blanks around them.
The digits may be of any script, single low lines may stand between them, and there are no more of
them than the digit limit allows (`IntegerNumeral`). `Numeral.integer?_eq_some_iff` says that
exactly these texts are read, each as the integer that its digits denote.

The reader goes in three steps: the blanks around are dropped, then the low lines, then the sign.
Each step is met by a lemma in both directions: `Numeral.prepare_surrounded` and
`Numeral.exists_surrounded` for the blanks, `Numeral.IsRun.dropUnderscores_map` and
`Numeral.isRun_of_dropUnderscores` for the low lines, `DecimalNumeral.sign_append` and
`Numeral.exists_sign_points` for the sign.

## The digit limit

The limit counts digits and not code points: blanks, the sign and low lines are not counted, and
zeros in front are. So it is a field of `IntegerNumeral` about the digits. A text that is of the
form except for the limit is not read.

## Low lines in two states

The reader of low lines remembers whether a digit came before. A low line is dropped only after a
digit and before one. The converse direction (`Numeral.isRun_of_dropUnderscores`) is an induction on
the text in both states at once: after a digit, the rest may begin with a low line, and otherwise it
may not.
-/

namespace CatalogQuery

namespace Numeral

/-! ### Runs of digits with low lines

`IsRun` has the digits and their values side by side, since a digit of any script is known by its
value. What is left when the low lines are dropped are the ASCII digits of these values.
-/

/-- A run of digits of any script, with at most one low line between neighbours, and the values of
the digits. -/
inductive IsRun : (points values : List Nat) → Prop
  /-- A single digit. -/
  | digit {p d : Nat} (hp : CodePoint.digitValue? p = some d) : IsRun [p] [d]
  /-- A digit right before a run. -/
  | next {p d : Nat} {ps ds : List Nat} (hp : CodePoint.digitValue? p = some d) (h : IsRun ps ds) :
      IsRun (p :: ps) (d :: ds)
  /-- A digit before a run, with a low line between. -/
  | line {p d : Nat} {ps ds : List Nat} (hp : CodePoint.digitValue? p = some d) (h : IsRun ps ds) :
      IsRun (p :: 0x5F :: ps) (d :: ds)

/-- The ASCII digits with given values. -/
def ofValues (ds : List Nat) : List Nat :=
  ds.map (0x30 + ·)

theorem values_ofValues (ds : List Nat) : values (ofValues ds) = ds := by
  rw [values, ofValues, List.map_map]
  exact (List.map_congr_left fun d _ ↦ Nat.add_sub_cancel_left ..).trans (List.map_id _)

/-- A digit of any script is replaced by the ASCII digit of its value. -/
theorem toAscii_of_digitValue? {p d : Nat} (h : CodePoint.digitValue? p = some d) :
    toAscii p = 0x30 + d := by
  rw [toAscii, h]

/-- What has a value is a digit. -/
theorem isDigit_of_digitValue? {p d : Nat} (h : CodePoint.digitValue? p = some d) :
    CodePoint.isDigit p = true := by
  rw [CodePoint.isDigit, h]
  rfl

theorem isDigit_add {d : Nat} (h : d < 10) : isDigit (0x30 + d) = true := by
  simp only [isDigit, Bool.and_eq_true, decide_eq_true_eq]
  omega

/-- No other code point is replaced by a low line. -/
theorem toAscii_underscore_iff {p : Nat} : toAscii p = 0x5F ↔ p = 0x5F :=
  toAscii_eq_iff (by decide)

theorem dropUnderscores_cons_of_ne {p : Nat} (hp : p ≠ 0x5F) (afterDigit : Bool) (ps : List Nat) :
    dropUnderscores afterDigit (p :: ps) = (dropUnderscores (isDigit p) ps).map (p :: ·) := by
  conv_lhs => unfold dropUnderscores
  exact if_neg hp

theorem dropUnderscores_line (afterDigit : Bool) (q : Nat) (ps : List Nat) :
    dropUnderscores afterDigit (0x5F :: q :: ps) =
      if afterDigit && isDigit q then dropUnderscores false (q :: ps) else none := by
  conv_lhs => unfold dropUnderscores
  rfl

namespace IsRun

variable {ps ds : List Nat}

theorem ne_nil (h : IsRun ps ds) : ds ≠ [] := by
  cases h <;> exact List.cons_ne_nil _ _

/-- The first code point of a run is its first digit. -/
theorem exists_cons (h : IsRun ps ds) :
    ∃ p ps' d, ps = p :: ps' ∧ CodePoint.digitValue? p = some d := by
  cases h with
  | digit hp => exact ⟨_, _, _, rfl, hp⟩
  | next hp _ => exact ⟨_, _, _, rfl, hp⟩
  | line hp _ => exact ⟨_, _, _, rfl, hp⟩

theorem lt_ten (h : IsRun ps ds) : ∀ d ∈ ds, d < 10 := by
  induction h with
  | digit hp => simpa using lt_ten_of_digitValue? hp
  | next hp _ ih => exact List.forall_mem_cons.2 ⟨lt_ten_of_digitValue? hp, ih⟩
  | line hp _ ih => exact List.forall_mem_cons.2 ⟨lt_ten_of_digitValue? hp, ih⟩

/-- A run consists of digits and low lines. -/
theorem isDigit_or_eq (h : IsRun ps ds) : ∀ p ∈ ps, CodePoint.isDigit p = true ∨ p = 0x5F := by
  induction h with
  | digit hp => simpa using .inl (isDigit_of_digitValue? hp)
  | next hp _ ih => exact List.forall_mem_cons.2 ⟨.inl (isDigit_of_digitValue? hp), ih⟩
  | line hp _ ih =>
    have hrest := List.forall_mem_cons.2 ⟨.inr rfl, ih⟩
    exact List.forall_mem_cons.2 ⟨.inl (isDigit_of_digitValue? hp), hrest⟩

/-- What is left of a run are ASCII digits. -/
theorem isDigit_of_mem_ofValues (h : IsRun ps ds) : ∀ p ∈ ofValues ds, isDigit p = true := by
  intro p hp
  obtain ⟨d, hd, rfl⟩ := List.mem_map.1 hp
  exact isDigit_add (h.lt_ten d hd)

/-- What is left of a run without its low lines are its digits. -/
theorem dropUnderscores_map (h : IsRun ps ds) (afterDigit : Bool) :
    dropUnderscores afterDigit (ps.map toAscii) = some (ofValues ds) := by
  have hne {p d : Nat} (hp : CodePoint.digitValue? p = some d) : 0x30 + d ≠ 0x5F := by
    have := lt_ten_of_digitValue? hp
    omega
  induction h generalizing afterDigit with
  | @digit p d hp =>
    rw [List.map_singleton, toAscii_of_digitValue? hp, dropUnderscores_cons_of_ne (hne hp)]
    rfl
  | @next p d ps ds hp _ ih =>
    rw [List.map_cons, toAscii_of_digitValue? hp, dropUnderscores_cons_of_ne (hne hp), ih]
    rfl
  | @line p d ps ds hp h ih =>
    -- The low line may be dropped because a digit stands before it and the run after it starts with
    -- one.
    obtain ⟨q, qs, e, rfl, hq⟩ := h.exists_cons
    have hdigit : isDigit (toAscii q) = true :=
      (isDigit_toAscii q).trans (isDigit_of_digitValue? hq)
    have hrest := ih false
    rw [List.map_cons] at hrest
    rw [List.map_cons, List.map_cons, List.map_cons, toAscii_of_digitValue? hp,
      toAscii_underscore_iff.2 rfl, dropUnderscores_cons_of_ne (hne hp), dropUnderscores_line,
      isDigit_add (lt_ten_of_digitValue? hp), hdigit, Bool.and_self, if_pos rfl, hrest]
    rfl

end IsRun

/-- Nothing is left of an empty text only. -/
theorem eq_nil_of_dropUnderscores {afterDigit : Bool} {ps : List Nat}
    (h : dropUnderscores afterDigit ps = some []) : ps = [] := by
  induction ps generalizing afterDigit with
  | nil => rfl
  | cons p ps ih =>
    by_cases hp : p = 0x5F
    · subst hp
      cases ps with
      | nil => cases h
      | cons q qs =>
        rw [dropUnderscores_line] at h
        split at h
        · cases ih h
        · cases h
    · rw [dropUnderscores_cons_of_ne hp] at h
      simp at h

/-- Digits that are left once the low lines are dropped are a run, with a low line in front only
after a digit. -/
theorem isRun_of_dropUnderscores {afterDigit : Bool} {ps qs : List Nat}
    (h : dropUnderscores afterDigit (ps.map toAscii) = some qs) (hne : qs ≠ [])
    (hdigits : ∀ q ∈ qs, isDigit q = true) :
    ∃ run ds, (ps = run ∨ afterDigit = true ∧ ps = 0x5F :: run) ∧ IsRun run ds ∧
      qs = ofValues ds := by
  induction ps generalizing afterDigit qs with
  | nil =>
    cases h
    exact absurd rfl hne
  | cons p ps ih =>
    rw [List.map_cons] at h
    by_cases hline : toAscii p = 0x5F
    · obtain rfl := toAscii_underscore_iff.1 hline
      cases ps with
      | nil => cases h
      | cons q ps =>
        rw [hline, List.map_cons, dropUnderscores_line] at h
        split at h
        · next hafter =>
          -- After a low line no other may follow, so the rest is a run with none in front.
          obtain ⟨run, ds, hrun | ⟨hfalse, -⟩, hisRun, hqs⟩ := ih h hne hdigits
          · rw [Bool.and_eq_true] at hafter
            exact ⟨run, ds, .inr ⟨hafter.1, by rw [hrun]⟩, hisRun, hqs⟩
          · cases hfalse
        · cases h
    · rw [dropUnderscores_cons_of_ne hline] at h
      obtain ⟨rest, hrest, rfl⟩ := Option.map_eq_some_iff.1 h
      have hp : CodePoint.isDigit p = true := (isDigit_toAscii p).symm.trans (hdigits _ (by simp))
      obtain ⟨d, hd⟩ := Option.isSome_iff_exists.1 hp
      -- The digit is the last one, or more of the run follows, perhaps behind a low line.
      rcases rest with - | ⟨q, rest⟩
      · have hnil := eq_nil_of_dropUnderscores hrest
        rw [List.map_eq_nil_iff] at hnil
        exact ⟨[p], [d], .inl (by rw [hnil]), .digit hd, by rw [toAscii_of_digitValue? hd]; rfl⟩
      · obtain ⟨run, ds, hrun, hisRun, hqs⟩ :=
          ih hrest (List.cons_ne_nil q rest) fun x hx ↦ hdigits x (List.mem_cons_of_mem _ hx)
        rcases hrun with rfl | ⟨-, rfl⟩
        · exact ⟨_, d :: ds, .inl rfl, .next hd hisRun, by rw [hqs, toAscii_of_digitValue? hd]; rfl⟩
        · exact ⟨_, d :: ds, .inl rfl, .line hd hisRun, by rw [hqs, toAscii_of_digitValue? hd]; rfl⟩

/-! ### Signs before runs

A sign is no digit and no low line, so it stays in front when the low lines are dropped, and a low
line may not follow it.
-/

/-- What is left of a run after a sign are the sign and the digits. -/
theorem IsRun.dropUnderscores_sign {run ds : List Nat} (h : IsRun run ds) (s : Sign) :
    dropUnderscores false ((s.points ++ run).map toAscii) = some (s.points ++ ofValues ds) := by
  cases s with
  | none => exact h.dropUnderscores_map false
  | plus =>
    show dropUnderscores false (0x2B :: run.map toAscii) = some (0x2B :: ofValues ds)
    rw [dropUnderscores_cons_of_ne (by decide), h.dropUnderscores_map]
    rfl
  | minus =>
    show dropUnderscores false (0x2D :: run.map toAscii) = some (0x2D :: ofValues ds)
    rw [dropUnderscores_cons_of_ne (by decide), h.dropUnderscores_map]
    rfl

/-- A code point that is no digit and is left in front was in front. -/
theorem exists_cons_of_dropUnderscores {c : Nat} (hc : CodePoint.isDigit c = false)
    {ps qs : List Nat} (h : dropUnderscores false (ps.map toAscii) = some (c :: qs)) :
    ∃ ps', ps = c :: ps' ∧ dropUnderscores (isDigit c) (ps'.map toAscii) = some qs := by
  cases ps with
  | nil => cases h
  | cons p ps =>
    rw [List.map_cons] at h
    by_cases hline : toAscii p = 0x5F
    · rw [hline] at h
      cases ps <;> cases h
    · rw [dropUnderscores_cons_of_ne hline] at h
      obtain ⟨rest, hrest, hcons⟩ := Option.map_eq_some_iff.1 h
      obtain ⟨hp, rfl⟩ := List.cons.inj hcons
      obtain rfl := (toAscii_eq_iff hc).1 hp
      rw [hp] at hrest
      exact ⟨ps, rfl, hrest⟩

/-- Digits that are left after a sign are a run after that sign. -/
theorem isRun_of_dropUnderscores_sign {s : Sign} {ps qs : List Nat}
    (h : dropUnderscores false (ps.map toAscii) = some (s.points ++ qs)) (hne : qs ≠ [])
    (hdigits : ∀ q ∈ qs, isDigit q = true) :
    ∃ run ds, ps = s.points ++ run ∧ IsRun run ds ∧ qs = ofValues ds := by
  have hrun {ps' : List Nat} (h' : dropUnderscores false (ps'.map toAscii) = some qs) :
      ∃ ds, IsRun ps' ds ∧ qs = ofValues ds := by
    obtain ⟨run, ds, rfl | ⟨hfalse, -⟩, hisRun, hqs⟩ := isRun_of_dropUnderscores h' hne hdigits
    · exact ⟨ds, hisRun, hqs⟩
    · cases hfalse
  cases s with
  | none =>
    obtain ⟨ds, hisRun, hqs⟩ := hrun h
    exact ⟨ps, ds, rfl, hisRun, hqs⟩
  | plus =>
    obtain ⟨ps', rfl, h'⟩ := exists_cons_of_dropUnderscores (c := 0x2B) (by decide) h
    obtain ⟨ds, hisRun, hqs⟩ := hrun h'
    exact ⟨ps', ds, rfl, hisRun, hqs⟩
  | minus =>
    obtain ⟨ps', rfl, h'⟩ := exists_cons_of_dropUnderscores (c := 0x2D) (by decide) h
    obtain ⟨ds, hisRun, hqs⟩ := hrun h'
    exact ⟨ps', ds, rfl, hisRun, hqs⟩

end Numeral

/-! ### Integers as they are typed

The parts of the text come with what is asked of them, so a value of this type is a text that is
read.
-/

/-- A text of an integer: blanks, an optional sign, a run of digits of any script within the digit
limit, and blanks. -/
structure IntegerNumeral where
  /-- The blanks before. -/
  before : List Nat
  /-- The sign. -/
  sign : Sign
  /-- The digits, with low lines between them. -/
  run : List Nat
  /-- The values of the digits. -/
  digits : List Nat
  /-- The blanks after. -/
  after : List Nat
  /-- In front there are blanks only. -/
  isBlank_of_mem_before : ∀ p ∈ before, CodePoint.isNumeralBlank p = true
  /-- Behind there are blanks only. -/
  isBlank_of_mem_after : ∀ p ∈ after, CodePoint.isNumeralBlank p = true
  /-- The digits and their values. -/
  isRun : Numeral.IsRun run digits
  /-- The digits are within the limit, low lines not counted. -/
  length_le : digits.length ≤ integerDigitLimit

namespace IntegerNumeral

variable (a : IntegerNumeral)

/-- The text. -/
def points : List Nat :=
  a.before ++ (a.sign.points ++ a.run) ++ a.after

/-- The integer that the text denotes. -/
def value : Int :=
  if a.sign.isMinus then -((ofDigitValues a.digits : Nat) : Int)
    else ((ofDigitValues a.digits : Nat) : Int)

/-- Neither signs nor runs hold blanks. -/
theorem isBlank_eq_false_of_mem :
    ∀ p ∈ a.sign.points ++ a.run, CodePoint.isNumeralBlank p = false := by
  refine List.forall_mem_append.2 ⟨?_, fun p hp ↦ ?_⟩
  · cases a.sign <;> decide
  · rcases a.isRun.isDigit_or_eq p hp with hdigit | rfl
    · exact Numeral.IsPart.not_isNumeralBlank (.inl hdigit)
    · decide

/-- The sign before digits is read as a sign. -/
theorem sign_ofValues :
    Numeral.sign (a.sign.points ++ Numeral.ofValues a.digits) =
      (a.sign.isMinus, Numeral.ofValues a.digits) := by
  refine DecimalNumeral.sign_append a.sign fun p hp ↦ ?_
  exact DecimalNumeral.ne_sign_of_isDigit
    (a.isRun.isDigit_of_mem_ofValues p (List.mem_of_mem_head? hp))

/-- The text is read as the integer that it denotes. -/
theorem integer?_points : Numeral.integer? a.points = some a.value := by
  have hprepare : Numeral.prepare a.points = (a.sign.points ++ a.run).map Numeral.toAscii :=
    Numeral.prepare_surrounded a.isBlank_of_mem_before a.isBlank_of_mem_after
      a.isBlank_eq_false_of_mem
  have hne : (Numeral.ofValues a.digits).isEmpty = false := by
    simpa [Numeral.ofValues] using a.isRun.ne_nil
  have hall : (Numeral.ofValues a.digits).all Numeral.isDigit = true :=
    List.all_eq_true.2 a.isRun.isDigit_of_mem_ofValues
  have hlength : ¬ integerDigitLimit < (Numeral.ofValues a.digits).length := by
    rw [Numeral.ofValues, List.length_map]
    exact Nat.not_lt.2 a.length_le
  simp only [Numeral.integer?, hprepare, a.isRun.dropUnderscores_sign, Option.bind_eq_bind,
    Option.bind_some, a.sign_ofValues, hne, hall, hlength, Numeral.values_ofValues]
  rfl

end IntegerNumeral

namespace Numeral

/-- **The texts that are read as integers are the integers as they are typed**, each read as what it
denotes. -/
theorem integer?_eq_some_iff {ps : List Nat} {n : Int} :
    integer? ps = some n ↔ ∃ a : IntegerNumeral, ps = a.points ∧ n = a.value := by
  constructor
  · intro h
    obtain ⟨before, core, after, rfl, hbefore, hafter, hprepare⟩ := exists_surrounded ps
    simp only [integer?, hprepare, Option.bind_eq_bind, Option.bind_eq_some_iff] at h
    obtain ⟨bare, hbare, h⟩ := h
    obtain ⟨s, hs, hminus⟩ := exists_sign_points bare
    split at h
    · cases h
    · next hform =>
      simp only [Bool.or_eq_true, not_or, decide_eq_true_eq, Bool.not_eq_true', Bool.not_eq_false,
        List.isEmpty_iff, Nat.not_lt] at hform
      obtain ⟨⟨hne, hdigits⟩, hlength⟩ := hform
      rw [hs] at hbare
      have hdigits := List.all_eq_true.1 hdigits
      obtain ⟨run, ds, rfl, hisRun, hds⟩ := isRun_of_dropUnderscores_sign hbare hne hdigits
      rw [hds] at h hlength
      let a : IntegerNumeral :=
        { before, sign := s, run, digits := ds, after
          isBlank_of_mem_before := hbefore
          isBlank_of_mem_after := hafter
          isRun := hisRun
          length_le := by simpa [ofValues] using hlength }
      refine ⟨a, rfl, ?_⟩
      rw [values_ofValues, hminus] at h
      exact (Option.some.inj h).symm
  · rintro ⟨a, rfl, rfl⟩
    exact a.integer?_points

end Numeral

end CatalogQuery
