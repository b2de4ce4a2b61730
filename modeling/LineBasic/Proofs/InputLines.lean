import LineBasic.Proofs.Answers
import LineBasic.Proofs.OneProgram

/-!
# Lines of input

The lines that a buffer holds are read by INPUT statements only. Each one that comes to its
read takes the next line, and no line is read twice or passed over, whatever loops and jumps
there are. `Machine.Accounts` adds up what has become of the lines between two points of a
run: which have been read, in answer to which question, and which of them are in the warnings.
-/

namespace LineBasic.Machine

open Exec

/-- The questions that a run asks within a number of steps. -/
def questions {σ : Type} [Console σ] (machine : Machine σ) (p : Program) (config : Config)
    (steps : Nat) : List Question :=
  along (fun machine => (machine.state.question? p).toList) p config steps machine

theorem zip_append {α β : Type} (earlier later : List α) (items : List β) :
    (earlier ++ later).zip items =
      earlier.zip items ++ later.zip (items.drop earlier.length) := by
  induction earlier generalizing items with
  | nil => rfl
  | cons first earlier ih =>
    cases items with
    | nil => simp
    | cons item items => simp [ih]

/-- What has become of the lines after some questions: the first ones have been read, each in
answer to one question, and those that write no number are in the warnings. -/
structure Accounts (before after : Machine (Recorded Buffer)) (asked : List Question) : Prop where
  lines : after.lines = before.lines.drop asked.length
  answers : after.answers = before.answers ++
    (List.range asked.length).map fun place => before.lines[place]?.map withoutLineEnd
  warnings : after.state.warnings.reverse = before.state.warnings.reverse ++
    (asked.zip before.lines).filterMap fun (question, line) => question.warning? line

namespace Accounts

variable {before between after : Machine (Recorded Buffer)} {question : Question}
  {asked later : List Question}

theorem of_unread (unread : before.Unread after) : Accounts before after [] where
  lines := by simp [unread.lines]
  answers := by simp [unread.answers]
  warnings := by simp [unread.warnings]

/-- Questions that follow others take the lines that these have left. -/
theorem trans (accounts : Accounts before between asked) (further : Accounts between after later) :
    Accounts before after (asked ++ later) where
  lines := by rw [further.lines, accounts.lines, List.drop_drop, List.length_append]
  answers := by
    rw [further.answers, accounts.answers, accounts.lines, List.length_append, List.range_add]
    simp
  warnings := by
    rw [further.warnings, accounts.warnings, accounts.lines, zip_append, List.filterMap_append,
      List.append_assoc]

theorem ended (empty : before.lines = []) (lines : after.lines = [])
    (answers : after.answers = before.answers ++ [none])
    (warnings : after.state.warnings = before.state.warnings) :
    Accounts before after [question] where
  lines := by simp [lines, empty]
  answers := by simp [answers, empty, List.range_succ]
  warnings := by simp [warnings, empty]

/-- A question takes the first line, which gives a warning or none. -/
theorem answered {line : String} {rest : List String} (next : before.lines = line :: rest)
    (lines : after.lines = rest)
    (answers : after.answers = before.answers ++ [some (withoutLineEnd line)])
    (warnings : after.state.warnings = (question.warning? line).toList ++ before.state.warnings) :
    Accounts before after [question] where
  lines := by simp [lines, next]
  answers := by simp [answers, next, List.range_succ]
  warnings := by
    rw [warnings, next]
    cases warning : question.warning? line <;> simp [warning]

end Accounts

/-- A step without a question leaves the lines alone, and one with a question takes the next. -/
theorem step_accounts (p : Program) (config : Config) (machine : Machine (Recorded Buffer)) :
    Leaves (fun _ after => Accounts machine after (machine.state.question? p).toList)
      (fun _ after => Accounts machine after (machine.state.question? p).toList)
      (step p config machine) := by
  cases asks : machine.state.question? p with
  | none =>
    exact (step_unread config asks).imp (fun _ _ => .of_unread) fun _ _ => .of_unread
  | some question =>
    have found : (machine.state.reading p).found = .ok (.keyword .INPUT) := by
      rw [State.question?] at asks
      split at asks
      next found => exact found
      next => cases asks
    have answers := step_answers config found
    generalize step p config machine = result at answers ⊢
    cases answers with
    | unasked unnamed =>
      rw [asks] at unnamed
      cases unnamed
    | ended _ empty lines answers _ warnings => exact .error (.ended empty lines answers warnings)
    | accepted asked next number lines answers _ warnings =>
      refine .ok (.answered next lines answers ?_)
      rw [warnings, Question.warning?, number]
      rfl
    | rejected asked next noNumber lines answers _ _ warnings =>
      rw [asks] at asked
      cases asked
      refine .ok (.answered next lines answers ?_)
      rw [warnings, Question.warning?, noNumber]
      rfl

/-- Each question of a loop takes one line. -/
theorem loop_accounts (p : Program) (config : Config) (steps : Nat)
    (machine : Machine (Recorded Buffer)) :
    Accounts machine (finalState (loop p config steps machine))
      (machine.questions p config steps) := by
  have addsUp : AddsUp (fun before asked after => Accounts before after asked)
      fun before asked after => Accounts before after asked :=
    ⟨fun _ => .of_unread ⟨rfl, rfl, rfl⟩, .trans, .trans⟩
  exact Leaves.iff_finalState.mp (loop_along addsUp (step_accounts p config) steps machine)

/-- The questions that a run asks within a number of steps. -/
def asked {σ : Type} [Console σ] (p : Program) (config : Config) (steps : Nat)
    (machine : Machine σ) : List Question :=
  match start p config machine.recording with
  | .ok _ first => first.questions p config steps
  | .error _ _ => []

theorem run_recording_accounts (p : Program) (config : Config) (steps : Nat)
    (machine : Machine Buffer) :
    Accounts ⟨{}, { console := machine.console }⟩
      (finalState (run p config steps machine.recording)) (machine.asked p config steps) := by
  -- the account of a loop is the account of its run
  have looped : ∀ {first}, start p config machine.recording = .ok () first →
      Accounts ⟨{}, { console := machine.console }⟩ (finalState (loop p config steps first))
        (machine.asked p config steps) := by
    intro first started
    obtain ⟨cursor, -, fresh⟩ := start_eq_ok started
    have begins : Unread ⟨{}, { console := machine.console }⟩ first := by
      rw [fresh]
      exact ⟨rfl, rfl, rfl⟩
    rw [asked, started]
    exact .trans (.of_unread begins) (loop_accounts p config steps first)
  have runs := run_runsTo p config steps machine.recording
  generalize run p config steps machine.recording = result at runs ⊢
  cases runs with
  | unstarted failed =>
    rw [asked, failed]
    rw [start] at failed
    split at failed
    next => cases failed
    next =>
      cases failed
      exact .of_unread ⟨rfl, rfl, rfl⟩
  | broken started failed =>
    have accounts := looped started
    rw [failed] at accounts
    exact accounts
  | underway started ran =>
    have accounts := looped started
    rw [ran] at accounts
    exact accounts
  | @through _ last _ started ran =>
    have accounts := looped started
    rw [ran] at accounts
    rw [bind_of_ok last.flush_eq]
    have through := accounts.trans (.of_unread last.prepares_flushed.toUnread)
    rw [List.append_nil] at through
    exact through

/-- Each INPUT statement that comes to its read takes one line, in the order of the statements
and of the lines. The lines that have been taken and write no number are those of the warnings.
At whatever point of a run an INPUT is executed, it does one of the things that are listed. -/
theorem run_accounts (p : Program) (config : Config) (steps : Nat) (machine : Machine Buffer) :
    (finalState (run p config steps machine)).console.input =
        machine.console.input.drop (machine.asked p config steps).length ∧
      (machine.calls p config steps).filterMap Call.answer? =
        ((List.range (machine.asked p config steps).length).map fun place =>
          machine.console.input[place]?.map withoutLineEnd) ∧
      (finalState (run p config steps machine)).state.warnings.reverse =
        ((machine.asked p config steps).zip machine.console.input).filterMap
          (fun (question, line) => question.warning? line) ∧
      ∀ reached : Machine (Recorded Buffer),
        (reached.state.reading p).found = .ok (.keyword .INPUT) →
          Answers p config reached (step p config reached) := by
  obtain ⟨state, console⟩ := (run_recording p config steps machine).final
  have accounts := run_recording_accounts p config steps machine
  refine ⟨?_, accounts.answers, ?_, ?_⟩
  · rw [← console]
    exact accounts.lines
  · rw [state]
    exact accounts.warnings
  · intro reached found
    exact step_answers config found

/-- Asks twice, and then again from the start. -/
def askingOn : Program := .ofString "10 INPUT \"N\", A\n20 INPUT B\n30 GOTO 10\n"

/-- Has a line that writes a number and one that does not. -/
def twoLines : Machine Buffer := { console := { input := [" 5 \r\n", "x"] } }

/-- Both lines are read, and for the third question there is none. -/
theorem run_accounts_askingOn :
    (twoLines.asked askingOn {} 20).length = 3 ∧
      (finalState (run askingOn {} 20 twoLines)).console.input = [] ∧
      (twoLines.calls askingOn {} 20).filterMap Call.answer? = [some " 5 ", some "x", none] ∧
      (finalState (run askingOn {} 20 twoLines)).state.warnings.reverse = [⟨2, "x"⟩] := by
  obtain ⟨input, answers, warnings, -⟩ := run_accounts askingOn {} 20 twoLines
  rw [input, answers, warnings]
  exact ⟨by decide +kernel, by decide +kernel, by decide +kernel, by decide +kernel⟩

end LineBasic.Machine
