import Mathlib.Data.List.Induction
import Mathlib.Tactic.Common

/-! The history of a list that grows at its end and loses, at each removal, the
first element a test picks. What is live comes from what was ever inserted, in
the same order. -/

namespace ListHistory

variable {α β : Type}

inductive Event (α : Type) where
  | inserted (x : α)
  | removed (test : α → Bool)

def Event.apply : Event α → List α → List α
  | .inserted x, l => l ++ [x]
  | .removed test, l => l.eraseP test

/-- Inserted and not yet removed. -/
def live (history : List (Event α)) : List α := history.foldl (fun l event => event.apply l) []

def inserted (history : List (Event α)) : List α :=
  history.filterMap fun event => match event with
    | .inserted x => some x
    | .removed _ => none

@[simp] theorem live_nil : live ([] : List (Event α)) = [] := rfl

@[simp] theorem inserted_nil : inserted ([] : List (Event α)) = [] := rfl

@[simp] theorem live_concat (history : List (Event α)) (event : Event α) :
    live (history ++ [event]) = event.apply (live history) := by
  simp [live]

@[simp] theorem inserted_concat_inserted (history : List (Event α)) (x : α) :
    inserted (history ++ [.inserted x]) = inserted history ++ [x] := by
  simp [inserted]

@[simp] theorem inserted_concat_removed (history : List (Event α)) (test : α → Bool) :
    inserted (history ++ [.removed test]) = inserted history := by
  simp [inserted]

theorem live_sublist (history : List (Event α)) :
    (live history).Sublist (inserted history) := by
  induction history using List.reverseRecOn with
  | nil => simp
  | append_singleton history event ih =>
    cases event with
    | inserted x => simpa [Event.apply] using ih
    | removed test => simpa [Event.apply] using List.eraseP_sublist.trans ih

end ListHistory
