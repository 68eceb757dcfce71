import SdbDebugger.CommandHazards

/-! The prompt. `main_loop` looks an empty line up in the history of `readline`, but only the
branch of the other lines calls `handle_command`. -/

namespace SdbDebugger
open EffectRules

/-! ### What the prompt is for -/

/-- Each empty line becomes the last line before it that is not empty, if there is one. -/
def recalled : Option Text → List Text → List Text
  | _, [] => []
  | last, line :: lines =>
    if line = [] then last.toList ++ recalled last lines else line :: recalled (some line) lines

/-- No empty line comes after one that is not empty. -/
def NothingToRepeat (lines : List Text) : Prop := [] ∉ lines.dropWhile List.isEmpty

instance decidableNothingToRepeat (lines : List Text) : Decidable (NothingToRepeat lines) :=
  inferInstanceAs (Decidable (_ ∉ _))

def typedText (lines : List Text) : List Text := lines.filter fun line => !line.isEmpty

section Recall

variable {line : Text} {lines : List Text}

theorem typedText_empty : typedText ([] :: lines) = typedText lines := rfl

theorem typedText_cons (text : line ≠ []) : typedText (line :: lines) = line :: typedText lines :=
  List.filter_cons_of_pos (by simpa using text)

theorem length_recalled (last : Text) (lines : List Text) :
    (recalled (some last) lines).length = lines.length := by
  induction lines generalizing last with
  | nil => rfl
  | cons line lines ih =>
    rw [recalled]
    split
    · rw [Option.toList_some, List.singleton_append, List.length_cons, List.length_cons, ih]
    · rw [List.length_cons, List.length_cons, ih]

theorem recalled_of_text (last : Option Text) (text : [] ∉ lines) : recalled last lines = lines := by
  induction lines generalizing last with
  | nil => rfl
  | cons line lines ih =>
    rw [List.mem_cons, not_or] at text
    rw [recalled, if_neg (Ne.symm text.1), ih _ text.2]

/-- From the first text on, each line stands for one command. -/
theorem length_typedText_lt (last : Option Text) (text : line ≠ []) (before : List Text)
    (next : Text) (after : List Text) : (typedText (before ++ [line])).length <
      (recalled last (before ++ line :: next :: after)).length := by
  induction before generalizing last with
  | nil =>
    rw [List.nil_append, List.nil_append, typedText_cons text, recalled, if_neg text,
      List.length_cons, List.length_cons, length_recalled]
    exact Nat.succ_lt_succ (Nat.succ_pos _)
  | cons first before ih =>
    rw [List.cons_append, List.cons_append, recalled]
    split
    · next blank =>
      rw [blank, typedText_empty, List.length_append]
      exact Nat.lt_add_left _ (ih last)
    · next full =>
      rw [typedText_cons full, List.length_cons, List.length_cons]
      exact Nat.succ_lt_succ (ih (some first))

/-- Once there is something to recall, every line is passed on, the empty ones too. -/
theorem typedText_eq_recalled_some (last : Text) :
    typedText lines = recalled (some last) lines ↔ [] ∉ lines := by
  constructor
  · intro same blank
    have length := congrArg List.length same
    rw [length_recalled, typedText, List.length_filter_eq_length_iff] at length
    exact absurd (length [] blank) (by decide)
  · intro text
    rw [recalled_of_text _ text, typedText, List.filter_eq_self]
    intro line member
    cases line with
    | nil => exact absurd member text
    | cons c cs => rfl

theorem typedText_eq_recalled (lines : List Text) :
    typedText lines = recalled none lines ↔ NothingToRepeat lines := by
  unfold NothingToRepeat
  induction lines with
  | nil => simp [typedText, recalled]
  | cons line lines ih =>
    by_cases blank : line = []
    · subst blank
      rw [typedText_empty, recalled, if_pos rfl, List.dropWhile_cons_of_pos rfl]
      exact ih
    · have text : ¬ line.isEmpty = true := by simpa using blank
      rw [typedText_cons blank, recalled, if_neg blank, List.dropWhile_cons_of_neg text,
        List.cons_inj_right, typedText_eq_recalled_some, List.mem_cons, not_or,
        and_iff_right (Ne.symm blank)]

end Recall

/-! ### The loop -/

/-- The history list of `readline`. -/
structure HistoryList (η : Type) where
  addHistory : Text → η → η
  historyLength : η → Nat
  line : η → Nat → Text

/-- The debugger at its prompt. `passed` are the lines that `handle_command` was called with. -/
structure Prompt (κ η : Type) where
  debugger : Debugger κ
  history : η
  passed : List Text

section Loop

variable {κ η : Type} (H : HistoryList η) (handle : Text → Cli κ Unit)

/-- The `try` block around `handle_command`. -/
def tryCommand (line : Text) : EStateM Fault (Prompt κ η) Unit := fun s =>
  let passed := s.passed ++ [line]
  match catchError (handle line) (fun what => print (what ++ "\n")) s.debugger with
  | .ok () d => .ok () { s with debugger := d, passed := passed }
  | .error e d => .error e { s with debugger := d, passed := passed }

/-- The body of the loop. A line that was looked up is not used any more. -/
def promptLine (line : Text) : EStateM Fault (Prompt κ η) Unit := do
  if line = [] then do
    let s ← get
    let length := H.historyLength s.history
    let _lineStr : Text := if 0 < length then H.line s.history (length - 1) else []
    pure ()
  else do
    modify fun s => { s with history := H.addHistory line s.history }
    let lineStr := line
    if lineStr ≠ [] then tryCommand handle lineStr else pure ()

/-- `main_loop` over the lines that are typed. -/
def mainLoop : List Text → EStateM Fault (Prompt κ η) Unit
  | [] => pure ()
  | line :: lines => do
    promptLine H handle line
    mainLoop lines

end Loop

/-- The state in which a program returns or raises. -/
def stateAfter {ε σ α : Type} : EStateM.Result ε σ α → σ
  | .ok _ s => s
  | .error _ s => s

section Prompts

variable {κ η : Type} {H : HistoryList η} {handle : Text → Cli κ Unit} {line : Text}
  {lines : List Text} {s t : Prompt κ η}

theorem tryCommand_passed (line : Text) (s : Prompt κ η) :
    (stateAfter (tryCommand handle line s)).passed = s.passed ++ [line] := by
  unfold tryCommand
  cases catchError (handle line) (fun what => print (what ++ "\n")) s.debugger with
  | ok a d => rfl
  | error e d => rfl

/-- What the `try` block lets through. -/
theorem catchError_print_raises {m : Cli κ Unit} {d d' : Debugger κ} {e : Fault} :
    catchError m (fun what => print (what ++ "\n")) d = .error e d' ↔
      m d = .error e d' ∧ ∀ what, e ≠ .error what := by
  cases run : m d with
  | ok a u =>
    rw [catchError_of_ok run]
    exact iff_of_false nofun fun raised => by cases raised.1
  | error e' u =>
    by_cases caught : ∃ what, e' = .error what
    · obtain ⟨what, rfl⟩ := caught
      rw [catchError_of_error run]
      refine iff_of_false nofun ?_
      rintro ⟨same, other⟩
      cases same
      exact other what rfl
    · rw [catchError_of_other (fun what same => caught ⟨what, same⟩) run]
      refine ⟨fun same => ⟨same, ?_⟩, And.left⟩
      cases same
      exact fun what same => caught ⟨what, same⟩

theorem tryCommand_raises {e : Fault} : (∃ t, tryCommand handle line s = .error e t) ↔
    (∃ d, handle line s.debugger = .error e d) ∧ ∀ what, e ≠ .error what := by
  rw [← exists_and_right]
  simp only [← catchError_print_raises, tryCommand]
  cases catchError (handle line) (fun what => print (what ++ "\n")) s.debugger with
  | ok a d => simp
  | error e' d => simp

theorem promptLine_empty (s : Prompt κ η) : promptLine H handle [] s = .ok () s := rfl

theorem promptLine_text (text : line ≠ []) (s : Prompt κ η) : promptLine H handle line s =
    tryCommand handle line { s with history := H.addHistory line s.history } := by
  rw [promptLine, if_neg text]
  change (if line ≠ [] then _ else _ : EStateM Fault (Prompt κ η) Unit) _ = _
  rw [if_pos text]

/-- What one line adds to the commands, also when the command raises. -/
theorem promptLine_passed (line : Text) (s : Prompt κ η) :
    (stateAfter (promptLine H handle line s)).passed = s.passed ++ typedText [line] := by
  by_cases blank : line = []
  · subst blank
    rw [promptLine_empty]
    exact (List.append_nil s.passed).symm
  · rw [promptLine_text blank, tryCommand_passed, typedText_cons blank]
    rfl

/-- What ends the loop, `handle_command` has raised. -/
theorem promptLine_raises {e : Fault} : (∃ t, promptLine H handle line s = .error e t) ↔
    line ≠ [] ∧ (∃ d, handle line s.debugger = .error e d) ∧ ∀ what, e ≠ .error what := by
  by_cases blank : line = []
  · subst blank
    refine iff_of_false ?_ fun raised => raised.1 rfl
    rintro ⟨t, raised⟩
    cases raised
  · rw [promptLine_text blank, and_iff_right blank]
    exact tryCommand_raises (s := { s with history := H.addHistory line s.history })

/-- An `sdb::error` ends neither its command line nor the loop. -/
theorem mainLoop_error (lines : List Text) (what : String) :
    mainLoop H handle lines s ≠ .error (.error what) t := by
  induction lines generalizing s with
  | nil => nofun
  | cons line lines ih =>
    intro raised
    rcases run : promptLine H handle line s with ⟨⟨⟩, u⟩ | ⟨e, u⟩
    · rw [mainLoop, bind_ok run] at raised
      exact ih raised
    · rw [mainLoop, bind_error run] at raised
      cases raised
      exact (promptLine_raises.1 ⟨_, run⟩).2.2 what rfl

/-- The loop has come back to the prompt before each of these lines. -/
def Prompted (H : HistoryList η) (handle : Text → Cli κ Unit) (lines : List Text)
    (s : Prompt κ η) : Prop := ∃ t, mainLoop H handle lines.dropLast s = .ok () t

theorem Prompted.tail {next : Text} (prompted : Prompted H handle (line :: next :: lines) s) :
    ∃ t, promptLine H handle line s = .ok () t ∧ Prompted H handle (next :: lines) t := by
  obtain ⟨u, run⟩ := prompted
  rw [List.dropLast_cons_cons, mainLoop] at run
  obtain ⟨⟨⟩, t, first, rest⟩ := bind_inv run
  exact ⟨t, first, u, rest⟩

theorem mainLoop_passed (prompted : Prompted H handle lines s) :
    (stateAfter (mainLoop H handle lines s)).passed = s.passed ++ typedText lines := by
  induction lines generalizing s with
  | nil => exact (List.append_nil s.passed).symm
  | cons line lines ih =>
    have first : (stateAfter (promptLine H handle line s)).passed =
        s.passed ++ typedText [line] := promptLine_passed line s
    cases lines with
    | nil =>
      rw [← first, mainLoop]
      rcases run : promptLine H handle line s with ⟨⟨⟩, t⟩ | ⟨e, t⟩
      · rw [bind_ok run]
        rfl
      · rw [bind_error run]
    | cons next rest =>
      obtain ⟨t, run, later⟩ := prompted.tail
      rw [run] at first
      change t.passed = _ at first
      rw [mainLoop, bind_ok run, ih later, first, List.append_assoc]
      congr 1
      exact (List.filter_append [line] (next :: rest)).symm

/-- For none of the lines but the last does `handle_command` raise anything but an `sdb::error`. -/
def RaisesOnlyErrors (H : HistoryList η) (handle : Text → Cli κ Unit) (lines : List Text)
    (s : Prompt κ η) : Prop :=
  ∀ before line next after t, lines = before ++ line :: next :: after → line ≠ [] →
    mainLoop H handle before s = .ok () t →
    ∀ e d, handle line t.debugger = .error e d → ∃ what, e = .error what

theorem RaisesOnlyErrors.tail (only : RaisesOnlyErrors H handle (line :: lines) s)
    (first : promptLine H handle line s = .ok () t) : RaisesOnlyErrors H handle lines t := by
  intro before line' next after u here text reached
  refine only (line :: before) line' next after u (by rw [here]; rfl) text ?_
  rw [mainLoop, bind_ok first, reached]

theorem prompted_of_raisesOnlyErrors (only : RaisesOnlyErrors H handle lines s) :
    Prompted H handle lines s := by
  induction lines generalizing s with
  | nil => exact ⟨s, rfl⟩
  | cons line lines ih =>
    cases lines with
    | nil => exact ⟨s, rfl⟩
    | cons next rest =>
      rcases run : promptLine H handle line s with ⟨⟨⟩, t⟩ | ⟨e, t⟩
      · obtain ⟨u, reached⟩ := ih (only.tail run)
        exact ⟨u, by rw [List.dropLast_cons_cons, mainLoop, bind_ok run, reached]⟩
      · obtain ⟨text, ⟨d, raised⟩, other⟩ := promptLine_raises.1 ⟨t, run⟩
        obtain ⟨what, same⟩ := only [] line next rest s rfl text rfl e d raised
        exact absurd same (other what)

theorem mainLoop_append (before after : List Text) (s : Prompt κ η) :
    mainLoop H handle (before ++ after) s =
      (mainLoop H handle before >>= fun _ => mainLoop H handle after) s := by
  induction before generalizing s with
  | nil => rfl
  | cons line before ih =>
    rw [List.cons_append, mainLoop, mainLoop, bind_assoc]
    rcases run : promptLine H handle line s with ⟨⟨⟩, t⟩ | ⟨e, t⟩
    · rw [bind_ok run, bind_ok run, ih]
    · rw [bind_error run, bind_error run]

/-- The lines behind one that ends the loop are not passed on. -/
theorem passed_of_raised {before after : List Text} {e : Fault} {u : Prompt κ η}
    (reached : mainLoop H handle before s = .ok () t)
    (raised : promptLine H handle line t = .error e u) :
    (stateAfter (mainLoop H handle (before ++ line :: after) s)).passed =
      s.passed ++ typedText (before ++ [line]) := by
  have prompted : Prompted H handle (before ++ [line]) s := ⟨t, by rw [List.dropLast_concat, reached]⟩
  rw [← mainLoop_passed prompted, mainLoop_append, mainLoop_append, bind_ok reached,
    bind_ok reached, mainLoop, mainLoop, bind_error raised, bind_error raised]

end Prompts

/-- The lines are passed on with the empty ones replaced, and no `sdb::error` ends the loop. -/
structure Repeats {κ η : Type} (H : HistoryList η) (handle : Text → Cli κ Unit)
    (lines : List Text) (s : Prompt κ η) : Prop where
  passed : (stateAfter (mainLoop H handle lines s)).passed = s.passed ++ recalled none lines
  goesOn : ∀ what t, mainLoop H handle lines s ≠ .error (.error what) t

/-- Lines are passed on as they should be exactly if there is nothing to repeat in them, and
nothing else than an `sdb::error` is raised before the last one. -/
theorem repeats_iff {κ η : Type} {H : HistoryList η} {handle : Text → Cli κ Unit}
    {lines : List Text} {s : Prompt κ η} :
    Repeats H handle lines s ↔ NothingToRepeat lines ∧ RaisesOnlyErrors H handle lines s := by
  rw [← typedText_eq_recalled]
  constructor
  · intro repeats
    have passed := repeats.passed
    have only : RaisesOnlyErrors H handle lines s := by
      rintro before line next after t rfl text reached e d raised
      by_contra other
      obtain ⟨u, ends⟩ := promptLine_raises.2
        ⟨text, ⟨d, raised⟩, fun what same => other ⟨what, same⟩⟩
      rw [passed_of_raised reached ends] at passed
      have same := List.append_cancel_left passed
      have shorter := length_typedText_lt none text before next after
      rw [same] at shorter
      exact Nat.lt_irrefl _ shorter
    rw [mainLoop_passed (prompted_of_raisesOnlyErrors only)] at passed
    exact ⟨List.append_cancel_left passed, only⟩
  · rintro ⟨same, only⟩
    refine ⟨?_, fun what t => mainLoop_error lines what⟩
    rw [mainLoop_passed (prompted_of_raisesOnlyErrors only), same]

/-- The history as a list, the oldest line first. -/
def listHistory : HistoryList (List Text) where
  addHistory line history := history ++ [line]
  historyLength := List.length
  line history i := history.getD i []

def scriptedPrompt : Prompt Scripted (List Text) := ⟨scriptedDebugger, [], []⟩

/-- A single command and an empty line. -/
theorem not_repeats_help :
    ¬ Repeats listHistory (handleCommand scriptedPlatform noLibraries 1) ["help".toList, []]
      scriptedPrompt := by
  intro repeats
  have once : (stateAfter (mainLoop listHistory (handleCommand scriptedPlatform noLibraries 1)
      ["help".toList, []] scriptedPrompt)).passed = ["help".toList] := rfl
  have twice : recalled none ["help".toList, []] = ["help".toList, "help".toList] := by decide
  have passed := repeats.passed
  rw [once, twice] at passed
  exact absurd passed (by decide)

end SdbDebugger
