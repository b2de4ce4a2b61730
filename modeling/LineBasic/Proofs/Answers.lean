import LineBasic.Proofs.Cues
import LineBasic.Proofs.FailureLine

/-!
# Answers to INPUT

On a buffer no call fails, so what INPUT does depends on the lines alone that the buffer still
holds. `State.question?` tells of a state whether an INPUT is at the cursor that will come to
its read. `Machine.Answers` lists what an INPUT can do: fail before its read, fail for want of
a line, or take the next line. A number goes to the variable that the statement names, and any
other line goes to the warnings.

No other statement reads a line: `Machine.step_unread`.
-/

namespace LineBasic

/-! ### Questions -/

/-- An INPUT statement that comes to its read: the variable it names and its line. -/
structure Question where
  letter : Letter
  line : Nat

namespace Statement

/-- The variable of an INPUT whose keyword stops at an offset. A prompt of its own needs a
comma behind it. -/
def inputVariable? (p : Program) (offset : Nat) : Option Letter :=
  let first := p.read offset
  match first.found with
  | .ok (.quoted _) =>
    let separator := p.read first.stop
    if separator.found = .ok (.delimiter .comma) then letterAt? p separator.stop else none
  | _ => letterAt? p offset

end Statement

/-- The question of the statement at the cursor, if it is an INPUT that names a variable. -/
def State.question? (p : Program) (state : State) : Option Question :=
  match (state.reading p).found with
  | .ok (.keyword .INPUT) =>
    (Statement.inputVariable? p (state.reading p).stop).map fun letter =>
      ⟨letter, p.lineAt (state.reading p).start⟩
  | _ => none

/-- The answer to a read. -/
def Call.answer? : Call → Option (Option String)
  | .readLine (.ok answer) => some answer
  | _ => none

namespace Machine

/-- The lines that a buffer still holds. -/
def lines (machine : Machine (Recorded Buffer)) : List String := machine.console.console.input

/-- The answers to the reads that have been made, in their order. -/
def answers (machine : Machine (Recorded Buffer)) : List (Option String) :=
  machine.console.calls.reverse.filterMap Call.answer?

/-- No line has been read, and none has been rejected. -/
structure Unread (before after : Machine (Recorded Buffer)) : Prop where
  lines : after.lines = before.lines
  answers : after.answers = before.answers
  warnings : after.state.warnings = before.state.warnings

theorem Unread.trans {before between after : Machine (Recorded Buffer)}
    (unread : before.Unread between) (further : between.Unread after) : before.Unread after where
  lines := further.lines.trans unread.lines
  answers := further.answers.trans unread.answers
  warnings := further.warnings.trans unread.warnings

theorem Unread.of_silent {before after : Machine (Recorded Buffer)} (silent : before.Silent after) :
    before.Unread after where
  lines := by rw [Machine.lines, silent.console]; rfl
  answers := by rw [Machine.answers, silent.console]; rfl
  warnings := silent.warnings

/-- No line has been read, and of the state only the cursor has moved. -/
structure Prepares (before after : Machine (Recorded Buffer)) : Prop extends
    before.Unread after where
  moved : before.state.Moved after.state

theorem Prepares.trans {before between after : Machine (Recorded Buffer)}
    (prepares : before.Prepares between) (further : between.Prepares after) :
    before.Prepares after where
  toUnread := prepares.toUnread.trans further.toUnread
  moved := prepares.moved.trans further.moved

end Machine

namespace Exec

variable {α β : Type} {p : Program}

/-- However the computation ends, it has read no line. -/
def ReadsNothing (exec : Exec (Recorded Buffer) α) : Prop :=
  ∀ machine, Leaves (fun _ => machine.Unread) (fun _ => machine.Unread) (exec machine)

theorem kept_unread : Kept Machine.Unread :=
  ⟨fun _ _ => ⟨rfl, rfl, rfl⟩, Machine.Unread.trans⟩

end Exec

namespace Machine

variable (machine : Machine (Recorded Buffer))

/-- The machine when a text has been written. A buffer never refuses one. -/
def written (text : String) : Machine (Recorded Buffer) := finalState (Exec.write text machine)

theorem write_eq (text : String) : Exec.write text machine = .ok () (machine.written text) := rfl

theorem prepares_written (text : String) : machine.Prepares (machine.written text) := by
  have noted : (machine.written text).console.calls =
      .write text (.ok ()) :: machine.console.calls := rfl
  have answered : (machine.written text).answers = machine.answers := by
    simp [answers, noted, Call.answer?]
  exact ⟨⟨rfl, answered, rfl⟩, .refl _⟩

/-- The machine when its console has been flushed. -/
def flushed : Machine (Recorded Buffer) := finalState (Exec.flush machine)

theorem flush_eq : Exec.flush machine = .ok () machine.flushed := rfl

theorem prepares_flushed : machine.Prepares machine.flushed := by
  have noted : machine.flushed.console.calls = .flush (.ok ()) :: machine.console.calls := rfl
  have answered : machine.flushed.answers = machine.answers := by
    simp [answers, noted, Call.answer?]
  exact ⟨⟨rfl, answered, rfl⟩, .refl _⟩

/-- The machine when a read has been answered and `rest` is left. -/
def heard (answer : Option String) (rest : List String) : Machine (Recorded Buffer) where
  state := machine.state
  console :=
    { console := { machine.console.console with input := rest }
      calls := .readLine (.ok answer) :: machine.console.calls }

theorem heard_answers (answer : Option String) (rest : List String) :
    (machine.heard answer rest).answers = machine.answers ++ [answer] := by
  simp [answers, heard, Call.answer?]

theorem readLine_of_nil {machine : Machine (Recorded Buffer)} (empty : machine.lines = []) :
    Exec.readLine machine = .ok none (machine.heard none []) := by
  obtain ⟨state, ⟨output, input⟩, calls⟩ := machine
  cases empty
  rfl

theorem readLine_of_cons {machine : Machine (Recorded Buffer)} {line : String}
    {rest : List String} (next : machine.lines = line :: rest) :
    Exec.readLine machine = .ok (some (withoutLineEnd line))
      (machine.heard (some (withoutLineEnd line)) rest) := by
  obtain ⟨state, ⟨output, input⟩, calls⟩ := machine
  cases next
  rfl

theorem prepares_withCursor (cursor : Cursor) : machine.Prepares (machine.withCursor cursor) :=
  ⟨⟨rfl, rfl, rfl⟩, cursor, rfl⟩

end Machine

theorem Exec.readsNothing_write (text : String) : ReadsNothing (write text) :=
  fun machine => .ok (machine.prepares_written text).toUnread

/-! ### Statements on a buffer -/

namespace Statement

open Exec Machine

variable {p : Program} {config : Config} {machine : Machine (Recorded Buffer)} {letter : Letter}
  {token : Token}

/-- The outcomes of a prompt: the cursor is at the variable, or there will be no read. -/
def Prompts (p : Program) (machine : Machine (Recorded Buffer)) :
    EStateM.Result Failure (Machine (Recorded Buffer)) Unit → Prop :=
  Leaves
    (fun _ between => machine.Prepares between ∧
      letterAt? p between.state.cursor.offset = inputVariable? p machine.state.cursor.offset)
    fun _ after => machine.Prepares after ∧ inputVariable? p machine.state.cursor.offset = none

theorem prompt_own {text : String} (config : Config)
    (found : (machine.state.reading p).found = .ok (.quoted text)) :
    Prompts p machine (prompt p config machine) := by
  let reached := machine.withCursor (.behind (machine.state.reading p))
  have prepares : machine.Prepares (reached.written text) :=
    (machine.prepares_withCursor _).trans (reached.prepares_written text)
  rw [Prompts, inputVariable?, ← State.reading, prompt, bind_of_ok (next_ok found)]
  simp only [found]
  rw [bind_of_ok (write_eq reached text)]
  -- the prompt is written before its comma is looked for
  cases separator : (p.read (machine.state.reading p).stop).found with
  | error failure =>
    have unread : next p (reached.written text) = .error failure _ := next_error separator
    rw [bind_of_error unread]
    exact .error ⟨prepares.trans (prepares_withCursor _ _), by simp⟩
  | ok sign =>
    have passed : next p (reached.written text) = .ok sign _ := next_ok separator
    rw [bind_of_ok passed]
    by_cases comma : sign = .delimiter .comma
    · rw [if_pos comma, if_pos (by rw [comma])]
      exact .ok ⟨prepares.trans (prepares_withCursor _ _), rfl⟩
    · rw [if_neg comma, if_neg (by simpa using comma)]
      exact .error ⟨prepares.trans (prepares_withCursor _ _), rfl⟩

/-- Without a prompt of its own, an INPUT starts with its variable. That token has been read
once before it is given back. -/
theorem prompt_default (config : Config)
    (found : (machine.state.reading p).found = .ok token)
    (unquoted : ∀ text, token ≠ .quoted text) :
    Prompts p machine (prompt p config machine) := by
  let back := machine.withCursor (.before (machine.state.reading p))
  have prompted : prompt p config machine = .ok () (back.written config.inputPrompt) := by
    rw [prompt, bind_of_ok (next_ok found)]
    cases token with
    | quoted text => exact absurd rfl (unquoted text)
    | _ => rfl
  have start : inputVariable? p machine.state.cursor.offset =
      letterAt? p machine.state.cursor.offset := by
    rw [inputVariable?, ← State.reading, found]
    cases token with
    | quoted text => exact absurd rfl (unquoted text)
    | _ => rfl
  have again : p.read (machine.state.reading p).start = machine.state.reading p := p.read_start _
  rw [prompted, Prompts, start]
  refine .ok ⟨(machine.prepares_withCursor _).trans (back.prepares_written _), ?_⟩
  change letterAt? p (machine.state.reading p).start = _
  rw [letterAt?, again]
  rfl

theorem prompt_prompts (p : Program) (config : Config) (machine : Machine (Recorded Buffer)) :
    Prompts p machine (prompt p config machine) := by
  cases found : (machine.state.reading p).found with
  | error failure =>
    have unnamed : inputVariable? p machine.state.cursor.offset = none := by
      rw [State.reading] at found
      simp only [inputVariable?, letterAt?, found]
    rw [prompt, bind_of_error (next_error found)]
    exact .error ⟨machine.prepares_withCursor _, unnamed⟩
  | ok token =>
    cases token with
    | quoted text => exact prompt_own config found
    | _ => exact prompt_default config found (by simp)

/-- An INPUT that names no variable fails before it reads. -/
theorem input_unnamed (config : Config)
    (unnamed : inputVariable? p machine.state.cursor.offset = none) :
    ∃ failure after, input p config machine = .error failure after ∧ machine.Prepares after := by
  have prompts := prompt_prompts p config machine
  rw [input_eq]
  cases prompted : prompt p config machine with
  | error failure after =>
    exact ⟨failure, after, bind_of_error prompted, (prompts.of_error prompted).1⟩
  | ok _ between =>
    obtain ⟨prepares, same⟩ := prompts.of_ok prompted
    obtain ⟨failure, cursor, failed⟩ := expectVariable_error (same.trans unnamed)
    rw [bind_of_ok prompted, bind_of_error failed]
    exact ⟨failure, _, rfl, prepares.trans (prepares_withCursor _ _)⟩

/-- An INPUT that names a variable comes to its read. -/
theorem input_named (config : Config)
    (named : inputVariable? p machine.state.cursor.offset = some letter) :
    ∃ between, input p config machine = receive p config letter between ∧
      machine.Prepares between := by
  have prompts := prompt_prompts p config machine
  rw [input_eq]
  cases prompted : prompt p config machine with
  | error failure after =>
    have unnamed := (prompts.of_error prompted).2
    rw [named] at unnamed
    cases unnamed
  | ok _ between =>
    obtain ⟨prepares, same⟩ := prompts.of_ok prompted
    have expected := expectVariable_ok (same.trans named)
    rw [bind_of_ok prompted, bind_of_ok expected, bind_of_ok (flush_eq _)]
    exact ⟨_, rfl, (prepares.trans (prepares_withCursor _ _)).trans (prepares_flushed _)⟩

end Statement

/-! ### Answers -/

/-- The number that a line of input writes, white space around it aside. -/
def inputNumber? (line : String) : Option Float :=
  Number.parse? (Text.trim (withoutLineEnd line).toList)

/-- The warning that comes of a line, unless it writes a number. -/
def Question.warning? (question : Question) (line : String) : Option Warning :=
  match inputNumber? line with
  | some _ => none
  | none => some ⟨question.line, withoutLineEnd line⟩

namespace Machine

open Exec

/-- What an INPUT statement does on a buffer. -/
inductive Answers (p : Program) (config : Config) (machine : Machine (Recorded Buffer)) :
    EStateM.Result Failure (Machine (Recorded Buffer)) Progress → Prop
  /-- It fails before its read. -/
  | unasked {failure : Failure} {after : Machine (Recorded Buffer)}
      (unnamed : machine.state.question? p = none) (unread : machine.Unread after)
      (store : after.state.store = machine.state.store) :
      Answers p config machine (.error failure after)
  /-- There is no line left. -/
  | ended {question : Question} {after : Machine (Recorded Buffer)}
      (asks : machine.state.question? p = some question) (empty : machine.lines = [])
      (lines : after.lines = []) (answers : after.answers = machine.answers ++ [none])
      (store : after.state.store = machine.state.store)
      (warnings : after.state.warnings = machine.state.warnings) :
      Answers p config machine (.error (.inputFailed "end of input") after)
  /-- The next line writes a number, which goes to the variable. -/
  | accepted {question : Question} {line : String} {rest : List String} {value : Float}
      {after : Machine (Recorded Buffer)} (asks : machine.state.question? p = some question)
      (next : machine.lines = line :: rest) (number : inputNumber? line = some value)
      (lines : after.lines = rest)
      (answers : after.answers = machine.answers ++ [some (withoutLineEnd line)])
      (store : ∀ letter, after.state.store.get letter =
        if letter = question.letter then value else machine.state.store.get letter)
      (warnings : after.state.warnings = machine.state.warnings) :
      Answers p config machine (.ok .moved after)
  /-- The next line writes no number. The statement says so, and the run goes on. -/
  | rejected {question : Question} {line : String} {rest : List String}
      {after : Machine (Recorded Buffer)} (asks : machine.state.question? p = some question)
      (next : machine.lines = line :: rest) (noNumber : inputNumber? line = none)
      (lines : after.lines = rest)
      (answers : after.answers = machine.answers ++ [some (withoutLineEnd line)])
      (said : ∃ earlier, after.console.calls =
        .write (config.invalidInputMessage ++ "\n") (.ok ()) ::
          .readLine (.ok (some (withoutLineEnd line))) :: earlier)
      (store : after.state.store = machine.state.store)
      (warnings : after.state.warnings =
        ⟨question.line, withoutLineEnd line⟩ :: machine.state.warnings) :
      Answers p config machine (.ok .moved after)

variable {p : Program} {machine between : Machine (Recorded Buffer)}

/-- The answer to a question, once the statement has come to its read. -/
theorem receive_answers (config : Config) {question : Question}
    (asks : machine.state.question? p = some question)
    (unread : machine.Unread between) (store : between.state.store = machine.state.store)
    (line : p.lineAt between.state.statementStart = question.line) :
    Answers p config machine
      ((do Statement.receive p config question.letter; return Progress.moved) between) := by
  cases left : machine.lines with
  | nil =>
    have ended := readLine_of_nil (unread.lines.trans left)
    rw [Statement.receive, bind_assoc, bind_of_ok ended]
    refine .ended asks left rfl ?_ store unread.warnings
    rw [heard_answers, unread.answers]
  | cons next rest =>
    have read := readLine_of_cons (unread.lines.trans left)
    have answered : (between.heard (some (withoutLineEnd next)) rest).answers =
        machine.answers ++ [some (withoutLineEnd next)] := by
      rw [heard_answers, unread.answers]
    rw [Statement.receive, bind_assoc, bind_of_ok read]
    dsimp only
    cases number : Number.parse? (Text.trim (withoutLineEnd next).toList) with
    | some value =>
      refine .accepted asks left number rfl answered ?_ unread.warnings
      intro letter
      change (between.state.store.set question.letter value).get letter = _
      rw [Store.get_set, store]
    | none =>
      -- the message is written before the line goes to the warnings
      let heard := between.heard (some (withoutLineEnd next)) rest
      refine .rejected asks left number rfl ?_ ⟨between.console.calls, rfl⟩ store ?_
      · exact (heard.prepares_written _).answers.trans answered
      · change ⟨p.lineAt between.state.statementStart, _⟩ :: between.state.warnings = _
        rw [line, unread.warnings]

/-- What an INPUT statement does has been listed. -/
theorem step_answers (config : Config)
    (found : (machine.state.reading p).found = .ok (.keyword .INPUT)) :
    Answers p config machine (step p config machine) := by
  have question : machine.state.question? p =
      (Statement.inputVariable? p (machine.state.reading p).stop).map fun letter =>
        ⟨letter, p.lineAt (machine.state.reading p).start⟩ := by
    simp only [State.question?, found]
  have dispatch : machine.Unread (machine.dispatched p) := ⟨rfl, rfl, rfl⟩
  rw [step_of_input found]
  cases named : Statement.inputVariable? p (machine.state.reading p).stop with
  | none =>
    obtain ⟨failure, after, failed, unread, cursor, moved⟩ := Statement.input_unnamed config
      (show Statement.inputVariable? p (machine.dispatched p).state.cursor.offset = none from named)
    rw [bind_of_error failed]
    refine .unasked (by rw [question, named]; rfl) (dispatch.trans unread) ?_
    rw [moved]
    rfl
  | some letter =>
    obtain ⟨between, came, unread, cursor, moved⟩ := Statement.input_named config
      (show Statement.inputVariable? p (machine.dispatched p).state.cursor.offset = some letter
        from named)
    have asks : machine.state.question? p =
        some ⟨letter, p.lineAt (machine.state.reading p).start⟩ := by
      rw [question, named]
      rfl
    have line : p.lineAt between.state.statementStart =
        p.lineAt (machine.state.reading p).start := by
      -- noted is where the keyword stops, and no keyword goes over a line end
      rw [moved]
      exact Program.lineAt_stop (by rw [← State.reading, found]; simp)
    have answers := receive_answers config asks (dispatch.trans unread) (by rw [moved]; rfl) line
    have same : (do Statement.input p config; return Progress.moved) (machine.dispatched p) =
        (do Statement.receive p config letter; return Progress.moved) between := by
      simp only [bind, EStateM.bind, came]
    rw [same]
    exact answers

/-- A step that asks no question reads no line. -/
theorem step_unread (config : Config) (unasked : machine.state.question? p = none) :
    Leaves (fun _ => machine.Unread) (fun _ => machine.Unread) (step p config machine) := by
  by_cases isPrint : (machine.state.reading p).found = .ok (.keyword .PRINT)
  · have printed : ReadsNothing (do Statement.print p config; return Progress.moved) :=
      kept_unread.bind (kept_unread.printFrom readsNothing_write _ _ _) fun _ => kept_unread.pure _
    have dispatch : machine.Unread (machine.dispatched p) := ⟨rfl, rfl, rfl⟩
    rw [step_of_print isPrint]
    exact (printed (machine.dispatched p)).imp (fun _ _ => dispatch.trans) fun _ _ => dispatch.trans
  · by_cases isInput : (machine.state.reading p).found = .ok (.keyword .INPUT)
    · -- of what an INPUT can do, only to fail before its read is left
      have answers := step_answers config isInput
      generalize step p config machine = result at answers ⊢
      cases answers with
      | unasked _ unread => exact .error unread
      | ended asks | accepted asks | rejected asks =>
        rw [unasked] at asks
        cases asks
    · exact (step_silent config isPrint isInput).imp (fun _ _ => .of_silent) fun _ _ => .of_silent

end Machine

end LineBasic
