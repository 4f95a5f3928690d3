import CatalogQuery.Failure.Notice
import CatalogQuery.Proofs.Keys
import Mathlib.Data.List.Forall2

/-!
# The messages of reported errors

A shop reports errors as any value, mostly as a list of objects with messages. A notice of them
tells the messages one by one and all of them in one text. The two come from two passes over the
value: the text is made of the texts of the messages, and the messages themselves are given as the
shop sent them (`Errors.Reports`).

So the passes agree on the text (`Notice.remote_agrees`), but a message need not be a text: it is
whatever stands under its name in an object of the list (`Notice.remote_keeps_number`).

## The two passes

`Failure.remoteMessages` makes the list of messages and `Failure.remoteSummary` the text, each with
its own cases for a list, for an object and for anything else. `Errors.Reports` states what the
messages are without naming either function. An object with a message, an object without one and any
other value are told by one text, so for these there is nothing to compare. For a list the two walk
over the same errors, and `Errors.remoteSummary_eq_join` shows that the second only adds the
semicolons.

An empty list is left out of the agreement. Its text is that of the list itself while there are no
messages to join. No body is classified as an error for it, since an empty list does not count as
errors: this is the hypothesis of `Notice.remote_agrees`.

## Messages that are no texts

Within a list the message of an object is handed on as it is, and made a text only for the summary;
a single object is made a text in both. So a message that is no text can come from one source only
(`Errors.HasOtherMessage`), and the equivalence in `Notice.remote_agrees` leaves no other.
-/

namespace CatalogQuery

/-! ### Which messages are told -/

namespace Errors

/-- The message of one error of a list: what an object has under that name, or else the text of the
error. -/
inductive IsMessage : (error message : Datum) → Prop
  /-- The object has a message, of whatever class. -/
  | given {es : List (Datum × Datum)} {m : Datum}
      (h : Datum.field? "message" es = some m) : IsMessage (.dict es) m
  /-- The object has none. -/
  | unknown {es : List (Datum × Datum)} (h : Datum.field? "message" es = none) :
      IsMessage (.dict es) (.str "Unknown error")
  /-- An error that is no object is its own message. -/
  | text {d : Datum} (h : ∀ es, d ≠ .dict es) : IsMessage d (.text d.plain)

/-- The messages of reported errors: one for each error of a list, in order, and one for any other
value. -/
inductive Reports : (errors : Datum) → (messages : List Datum) → Prop
  /-- One message for each error of a list. -/
  | list {xs ms : List Datum} (h : List.Forall₂ IsMessage xs ms) : Reports (.list xs) ms
  /-- The text of the message of a single object. -/
  | given {es : List (Datum × Datum)} {m : Datum} (h : Datum.field? "message" es = some m) :
      Reports (.dict es) [.text m.plain]
  /-- The text of a single object without a message. -/
  | object {es : List (Datum × Datum)} (h : Datum.field? "message" es = none) :
      Reports (.dict es) [.text (Datum.dict es).plain]
  /-- The text of any other value. -/
  | value {d : Datum} (hlist : ∀ xs, d ≠ .list xs)
      (hobject : ∀ es, d ≠ .dict es) : Reports d [.text d.plain]

/-- An error of a list is an object that has something else than a text for its message. -/
def HasOtherMessage (errors : Datum) : Prop :=
  ∃ xs es m, errors = .list xs ∧ .dict es ∈ xs ∧ Datum.field? "message" es = some m ∧
    ∀ t, m ≠ .text t

variable {errors d m : Datum} {messages xs ms : List Datum}

/-- What is told of one error of a list. -/
theorem isMessage_entryMessage (d : Datum) : IsMessage d (Failure.entryMessage d) := by
  cases d with
  | dict es =>
    rw [Failure.entryMessage]
    cases hm : Datum.field? "message" es with
    | none => exact .unknown hm
    | some m => exact .given hm
  | _ => exact .text nofun

/-- What is told of any value. -/
theorem reports_remoteMessages (errors : Datum) :
    Reports errors (Failure.remoteMessages errors) := by
  cases errors with
  | list xs =>
    refine .list ?_
    change List.Forall₂ IsMessage xs (xs.map Failure.entryMessage)
    rw [List.forall₂_map_right_iff, List.forall₂_same]
    exact fun x _ ↦ isMessage_entryMessage x
  | dict es =>
    rw [Failure.remoteMessages, Failure.remoteSummary]
    · cases hm : Datum.field? "message" es with
      | none => exact .object hm
      | some m => exact .given hm
    · nofun
  | _ => exact .value nofun nofun

/-- A message is a text unless an object gives something else. -/
theorem IsMessage.isText_iff (h : IsMessage d m) :
    (∃ t, m = .text t) ↔
      ∀ es n, d = .dict es → Datum.field? "message" es = some n → ∃ t, n = .text t := by
  cases h with
  -- The field is found only once, so its value and the message are the same.
  | given hm =>
    constructor
    · rintro htext _ n ⟨⟩ hn
      rw [hm] at hn
      cases hn
      exact htext
    · exact fun hall ↦ hall _ _ rfl hm
  | unknown hm =>
    refine ⟨?_, fun _ ↦ ⟨_, rfl⟩⟩
    rintro - _ n ⟨⟩ hn
    rw [hm] at hn
    cases hn
  | text hobject => exact ⟨fun _ es _ hes ↦ absurd hes (hobject es), fun _ ↦ ⟨_, rfl⟩⟩

/-- **Every message is a text unless an object of the list has something else for its message.** -/
theorem Reports.areTexts_iff (h : Reports errors messages) :
    (∀ m ∈ messages, ∃ t, m = .text t) ↔ ¬ HasOtherMessage errors := by
  cases h with
  | @list xs _ h =>
    -- For a list, message by message; the other forms have one message, which is a text.
    have hlist : (∀ m ∈ messages, ∃ t, m = .text t) ↔
        ∀ d ∈ xs, ∀ es n, d = .dict es → Datum.field? "message" es = some n → ∃ t, n = .text t := by
      induction h with
      | nil => simp
      | cons hd _ ih => rw [List.forall_mem_cons, List.forall_mem_cons, hd.isText_iff, ih]
    rw [hlist, HasOtherMessage]
    constructor
    · rintro hall ⟨_, es, n, ⟨⟩, hes, hn, hother⟩
      obtain ⟨t, rfl⟩ := hall _ hes es n rfl hn
      exact hother t rfl
    · rintro hnone d hd es n rfl hn
      by_contra hother
      exact hnone ⟨xs, es, n, rfl, hd, hn, fun t ht ↦ hother ⟨t, ht⟩⟩
  | given | object =>
    refine ⟨?_, fun _ ↦ by simp⟩
    rintro - ⟨_, _, _, hxs, -⟩
    cases hxs
  | value hlist =>
    refine ⟨?_, fun _ ↦ by simp⟩
    rintro - ⟨xs, _, _, hxs, -⟩
    exact hlist xs hxs

/-! ### The text of all messages -/

/-- The text of the errors is made of the texts of the messages. -/
theorem remoteSummary_eq_join (h : errors.isTruthy = true) :
    Failure.remoteSummary errors =
      Text.join (.str "; ") ((Failure.remoteMessages errors).map Datum.plain) := by
  -- Only a list with an error in it has a text that is not the only message.
  cases errors with
  | list xs =>
    cases xs with
    | nil => cases h
    | cons x xs =>
      rw [Failure.remoteSummary, Failure.remoteMessages, List.map_map] <;> first | rfl | nofun
  | _ => rfl

end Errors

open Errors

/-! ### Public contract -/

/-- **The message of reported errors is that of their messages**, in order and with semicolons
between them, for every value that counts as errors. The messages are all texts unless an object of
a list has something else than a text for its message; that is then told as it is. -/
theorem Notice.remote_agrees (errors : Datum) (h : errors.isTruthy = true) :
    ∃ messages text, (remote errors).reported = some messages ∧
      (remote errors).message = .text text ∧
      (Failure.remote errors).message? = some text.toString ∧ Reports errors messages ∧
      text = (Text.str "Remote error: ").append (Text.join (.str "; ") (messages.map Datum.plain)) ∧
      ((∀ m ∈ messages, ∃ t, m = .text t) ↔ ¬ HasOtherMessage errors) := by
  have hreports := reports_remoteMessages errors
  refine ⟨_, _, rfl, rfl, rfl, hreports, ?_, hreports.areTexts_iff⟩
  rw [Failure.remoteText, remoteSummary_eq_join h]

/-- An object with a message, one without and a plain text make three messages. -/
theorem Notice.remote_agrees_three :
    (Datum.list [.dict [(.str "message", .str "Throttled")], .dict [],
        .str "Denied"]).isTruthy = true ∧
      ∃ messages,
        (remote (.list [.dict [(.str "message", .str "Throttled")], .dict [],
          .str "Denied"])).reported = some messages ∧
        (remote (.list [.dict [(.str "message", .str "Throttled")], .dict [],
          .str "Denied"])).message = .text ((Text.str "Remote error: ").append
            (Text.join (.str "; ") (messages.map Datum.plain))) := by
  refine ⟨rfl, ?_⟩
  obtain ⟨messages, _, hreported, hmessage, -, -, rfl, -⟩ :=
    remote_agrees (.list [.dict [(.str "message", .str "Throttled")], .dict [], .str "Denied"]) rfl
  exact ⟨messages, hreported, hmessage⟩

/-- **A number under the name of a message is told as a number**, which is no text. -/
theorem Notice.remote_keeps_number :
    (Datum.list [.dict [(.str "message", .int 5)]]).isTruthy = true ∧
      (remote (.list [.dict [(.str "message", .int 5)]])).reported = some [.int 5] ∧
      ¬ ∀ m ∈ [Datum.int 5], ∃ t, m = .text t := by
  refine ⟨rfl, rfl, fun htexts ↦ ?_⟩
  obtain ⟨t, ht⟩ := htexts _ (List.mem_singleton_self _)
  cases ht

end CatalogQuery
