import CatalogQuery.Proofs.Log.Record
import CatalogQuery.Proofs.Template

/-!
# How the filter of log records ends

The filter fills the message of a record before it masks it. Where the values do not fit the message
it leaves the record to the handlers, which report it; but it knows only two of the four faults that
filling can have, and the others reach whoever logs. `LogRecord.filter_ends` says when: where the
filling comes to a conversion with a key that is not in the mapping, or to one with a number out of
range.

## Four faults

Filling a message can fail because there are too few or too many values, because a value has no text
or is of the wrong kind, because a key is missing, or because a number is out of range. The first
two are the faults that the filter waits for. For the other two the analysis of templates says at
which conversion of the message they come up (`LogRecord.ComesTo`), in terms of the values that are
left by then; here this is only carried over to records.
-/

namespace CatalogQuery

open Template

namespace LogRecord

variable {r : LogRecord}

/-- Filling the message of a record comes to a conversion at which something is so. -/
structure ComesTo (P : Supply → Conversion → Prop) (r : LogRecord) : Prop where
  /-- The message is a template with a text. -/
  hasText : (r.get "msg").hasText = true
  /-- There are values to fill it with. -/
  isTruthy : (r.get "args").isTruthy = true
  /-- The filling comes to the conversion. -/
  comesTo : Template.ComesTo P (pieces (r.get "msg").plain) (.ofDatum (r.get "args"))

/-- How the text of a record can fail to be made. -/
theorem faultsBy_text (r : LogRecord) :
    FaultsBy r.text (r.ComesTo Supply.LacksKey) (r.ComesTo Supply.Overflows) := by
  have hcomes (P : Supply → Conversion → Prop) : r.ComesTo P ↔ (r.get "msg").hasText = true ∧
      (r.get "args").isTruthy = true ∧
        Template.ComesTo P (pieces (r.get "msg").plain) (.ofDatum (r.get "args")) :=
    ⟨fun ⟨htext, htruthy, h⟩ ↦ ⟨htext, htruthy, h⟩, fun ⟨htext, htruthy, h⟩ ↦ ⟨htext, htruthy, h⟩⟩
  rw [text]
  split
  · rename_i htext
    exact FaultsBy.badValue.congr (by simp_all) (by simp_all)
  · split
    · exact ((faultsBy_fill _ _).map _).congr (by simp_all) (by simp_all)
    · exact (FaultsBy.ok _).congr (by simp_all) (by simp_all)

/-- The filter lets two faults of filling pass, and no fault comes of masking. -/
theorem filter_eq_error_iff {fault : Fault} :
    r.filter = .error fault ↔ r.text = .error fault ∧ fault ≠ .wrongClass ∧ fault ≠ .badValue := by
  rw [filter]
  cases htext : r.text with
  | ok message => simp
  | error f => cases f <;> simp <;> rintro rfl <;> decide

/-- A fault of the filter comes of a missing key or of a number out of range. -/
theorem fault_cases {fault : Fault} (h : r.filter = .error fault) :
    fault = .missingKey ∧ r.ComesTo Supply.LacksKey ∨
      fault = .overflow ∧ r.ComesTo Supply.Overflows := by
  have hfaults := r.faultsBy_text
  obtain ⟨htext, hclass, hvalue⟩ := filter_eq_error_iff.1 h
  rcases hfaults.misfit fault htext with rfl | rfl | rfl | rfl
  · exact absurd rfl hclass
  · exact absurd rfl hvalue
  · exact .inl ⟨rfl, hfaults.missing_iff.1 htext⟩
  · exact .inr ⟨rfl, hfaults.overflow_iff.1 htext⟩

/-- A record without a text is left as it is where neither of the two faults comes up. -/
theorem filter_eq_self (hlacks : ¬ r.ComesTo Supply.LacksKey)
    (hexceeds : ¬ r.ComesTo Supply.Overflows)
    (hnone : ∀ message, r.text ≠ .ok message) : r.filter = .ok r := by
  have hfaults := r.faultsBy_text
  rw [filter]
  cases htext : r.text with
  | ok message => exact absurd htext (hnone message)
  | error fault =>
    rcases hfaults.misfit fault htext with rfl | rfl | rfl | rfl
    · rfl
    · rfl
    · exact absurd (hfaults.missing_iff.1 htext) hlacks
    · exact absurd (hfaults.overflow_iff.1 htext) hexceeds

/-! ### Public contract -/

/-- **How the filter ends.** It raises the fault of a missing key exactly if the filling of the
message comes to a key that is not in the mapping, the fault of overflow exactly if it comes to a
number out of range, and no other. If the message can be filled, it is masked in the record. If it
cannot, and neither of the two is so, the record stays as it is. -/
theorem filter_ends (r : LogRecord) :
    (r.filter = .error .missingKey ↔ r.ComesTo Supply.LacksKey) ∧
      (r.filter = .error .overflow ↔ r.ComesTo Supply.Overflows) ∧
      (∀ fault, r.filter = .error fault → fault = .missingKey ∨ fault = .overflow) ∧
      (∀ message, r.text = .ok message → r.filter = .ok (r.withMessage (Masking.apply message))) ∧
      (¬ r.ComesTo Supply.LacksKey → ¬ r.ComesTo Supply.Overflows →
        (∀ message, r.text ≠ .ok message) → r.filter = .ok r) := by
  have hfaults := r.faultsBy_text
  refine ⟨?_, ?_, fun fault hfault ↦ (fault_cases hfault).imp And.left And.left,
    fun message hmessage ↦ ?_, filter_eq_self⟩
  · exact (filter_eq_error_iff.trans (and_iff_left (by decide))).trans hfaults.missing_iff
  · exact (filter_eq_error_iff.trans (and_iff_left (by decide))).trans hfaults.overflow_iff
  · rw [filter, hmessage]

/-- **Two records that the filter lets nobody log**: an infinite number is to be shown as an
integer, and a key is not in the mapping. -/
theorem filter_breaks_logging :
    ({ name := "shop", level := 20, path := "/shop.py", line := 1, message := .str "%d",
       arguments := argumentsOf [.float (.inf false)], created :=
         .finite false 0 0 } : LogRecord).filter =
      .error .overflow ∧
    ({ name := "shop", level := 20, path := "/shop.py", line := 1, message := .str "%(x)s",
       arguments := argumentsOf [.dict [(.str "y", .int 1)]], created :=
         .finite false 0 0 } : LogRecord).filter =
      .error .missingKey := by
  exact ⟨rfl, rfl⟩

/-- Values of a tuple that are no numbers break no call, whatever the message is. -/
theorem filter_isOk_of_isNoNumber {ds : List Datum} (hargs : r.get "args" = .tuple ds)
    (h : ∀ d ∈ ds, IsNoNumber d) : r.filter.isOk = true := by
  have hplain : (Supply.ofDatum (r.get "args")).IsPlain := by
    rw [hargs]
    exact ⟨rfl, h⟩
  cases hfilter : r.filter with
  | ok kept => rfl
  | error fault =>
    rcases fault_cases hfilter with ⟨-, hlacks⟩ | ⟨-, hexceeds⟩
    · exact absurd hlacks.comesTo (hplain.not_comesTo fun _ _ hs ↦ hs.not_lacksKey)
    · exact absurd hexceeds.comesTo (hplain.not_comesTo fun _ _ hs ↦ hs.not_overflows)

end LogRecord

end CatalogQuery
