import CatalogQuery.Log.Record
import CatalogQuery.Proofs.Keys

/-!
# Attributes of log records

An attribute of a record is the last that was given under its name (`LogRecord.get_eq`). A record
that was given another message has that message and no values (`LogRecord.text_withMessage`), and
every other attribute is what it was (`LogRecord.get_withMessage`).

## One way to look at a record

A record has the attributes that every record has and those that were given to it, and one that was
given under the name of a standard one replaces it. All of this is in the order of one list
(`LogRecord.get_eq`), in which the last entry of a name counts. A message that is put in is given at
the end, and it is given together with values that are empty, so that nothing in it is taken for a
place to be filled.
-/

namespace CatalogQuery

/-- What was put under a name last is found there. -/
theorem Datum.field?_foldl_put (name : String) (as : List (String × Datum))
    (es : List (Datum × Datum)) :
    field? name (as.foldl (fun es a ↦ put (.str a.1) a.2 es) es) =
      (as.reverse.lookup name).or (field? name es) := by
  induction as generalizing es with
  | nil => rfl
  | cons a as ih =>
    obtain ⟨key, d⟩ := a
    rw [List.foldl_cons, ih, field?_put, List.reverse_cons, List.lookup_append, Option.or_assoc]
    by_cases hname : key = name
    · simp [hname]
    · have hne : (name == key) = false := beq_false_of_ne (Ne.symm hname)
      simp [List.lookup_cons, hname, hne]

namespace LogRecord

variable {r : LogRecord} {name message : String}

/-- An attribute is the last that was given under its name, null if none was. -/
theorem get_eq (r : LogRecord) (name : String) :
    r.get name = ((r.standard ++ r.extras).reverse.lookup name).getD .null := by
  rw [get, attributes, Datum.field?_foldl_put, show Datum.field? name [] = none from rfl,
    Option.or_none]

/-- Entries under other names do not matter for what is found. -/
theorem lookup_filter {p : String → Bool} (hname : p name = true) (as : List (String × Datum)) :
    (as.filter fun a ↦ p a.1).lookup name = as.lookup name := by
  induction as with
  | nil => rfl
  | cons a as ih =>
    obtain ⟨key, d⟩ := a
    rw [List.filter_cons]
    split
    · rw [List.lookup_cons, List.lookup_cons, ih]
    · rename_i hkey
      have hne : (name == key) = false := beq_false_of_ne fun h ↦ hkey (h ▸ hname)
      rw [ih, List.lookup_cons, hne]

/-- A name that stands neither for the message nor for its values. -/
def isBeside (name : String) : Bool :=
  name != "msg" && name != "args"

/-- **Another message changes no other attribute.** -/
theorem get_withMessage (hname : isBeside name = true) (message : String) :
    (r.withMessage message).get name = r.get name := by
  have hbeside :
      ((r.withMessage message).standard ++ (r.withMessage message).extras).filter
          (fun a ↦ isBeside a.1) =
        (r.standard ++ r.extras).filter fun a ↦ isBeside a.1 := by
    have hstandard : (r.withMessage message).standard.filter (fun a ↦ isBeside a.1) =
        r.standard.filter fun a ↦ isBeside a.1 := rfl
    rw [List.filter_append, List.filter_append, hstandard]
    show _ ++ (r.extras.filter fun a ↦ isBeside a.1).filter (fun a ↦ isBeside a.1) = _
    rw [List.filter_filter]
    simp
  rw [get_eq, get_eq, ← lookup_filter hname, List.filter_reverse, hbeside, ← List.filter_reverse,
    lookup_filter hname]

/-- The attributes that were given say nothing of the message once there is another one. -/
theorem lookup_extras_withMessage (hname : isBeside name = false) (message : String) :
    (r.withMessage message).extras.reverse.lookup name = none := by
  refine List.lookup_eq_none_iff.2 fun a ha ↦ bne_iff_ne.2 ?_
  rintro rfl
  have hbeside : isBeside a.1 = true := (List.mem_filter.1 (List.mem_reverse.1 ha)).2
  exact Bool.false_ne_true (hname.symm.trans hbeside)

theorem get_msg_withMessage (message : String) :
    (r.withMessage message).get "msg" = .str message := by
  rw [get_eq, List.reverse_append, List.lookup_append, lookup_extras_withMessage (by decide)]
  rfl

theorem get_args_withMessage (message : String) :
    (r.withMessage message).get "args" = .tuple [] := by
  rw [get_eq, List.reverse_append, List.lookup_append, lookup_extras_withMessage (by decide)]
  rfl

/-- A message without values stands for itself. -/
theorem text_withMessage (message : String) : (r.withMessage message).text = .ok message := by
  rw [text, get_msg_withMessage, get_args_withMessage]
  rfl

end LogRecord

end CatalogQuery
