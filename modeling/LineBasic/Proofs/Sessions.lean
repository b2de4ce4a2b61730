import LineBasic.CommandLine.Session
import LineBasic.Proofs.StreamLines

/-!
# Sessions and runs

A session of the command line takes a run turn by turn, on a terminal, and notes events on the
way. It does what the run does on a buffer that has the lines of the input: what is written to the
output is the same, the exit code says whether the run succeeds, and behind the log the errors
have one line about a failure or nothing.
-/

namespace LineBasic.CommandLine

open Exec

variable {p : Program} {config : Config}

/-! ### Turns -/

/-- How a turn looks in which a run ended. A run that goes on has no last turn. -/
def lastTurn (log : List Event) :
    EStateM.Result Failure (Machine Terminal) (Option Completion) → Option Turn
  | .ok none _ => none
  | .ok (some completion) after => some ⟨after, log, some (.ok completion)⟩
  | .error failure after => some ⟨after, log, some (.error failure)⟩

theorem last_of_ending {turn : Turn} {ending : Except Failure Completion}
    (ended : turn.ending = some ending) (steps : Nat) :
    Turn.last p config steps turn = some turn := by
  unfold Turn.last
  rw [ended]

theorem last_succ (steps : Nat) (machine : Machine Terminal) (events : List Event) :
    Turn.last p config (steps + 1) ⟨machine, events, none⟩ =
      Turn.last p config steps
        { Turn.next p config machine with
          events := (Turn.next p config machine).events.reverse ++ events } := rfl

/-- Turns go through the steps of a run. -/
theorem exists_last_of_loop (steps : Nat) (machine : Machine Terminal) (events : List Event) :
    ∃ log, Turn.last p config steps ⟨machine, events, none⟩ =
      lastTurn log (Machine.loop p config steps machine) := by
  -- a turn adds events of its own, so the log is not known before the run has ended
  induction steps generalizing machine events with
  | zero => exact ⟨[], rfl⟩
  | succ steps ih =>
    rw [last_succ, Machine.loop]
    cases stepped : Machine.step p config machine with
    | error failure after =>
      simp only [Turn.next, stepped, bind_of_error stepped]
      exact ⟨_, last_of_ending rfl steps⟩
    | ok progress after =>
      rw [bind_of_ok stepped]
      cases progress with
      | finished completion =>
        simp only [Turn.next, stepped]
        exact ⟨_, last_of_ending rfl steps⟩
      | moved | jumped =>
        simp only [Turn.next, stepped]
        exact ih after _

/-- On a terminal, the last flush of a run changes nothing. -/
theorem run_of_started {machine first : Machine Terminal} (steps : Nat)
    (started : Machine.start p config machine = .ok () first) :
    Machine.run p config steps machine = Machine.loop p config steps first := by
  rw [Machine.run, bind_of_ok started]
  cases looped : Machine.loop p config steps first with
  | error failure after => rw [bind_of_error looped]
  | ok completion after =>
    rw [bind_of_ok looped]
    cases completion <;> rfl

/-- Turns go through a whole run, from its first one on. -/
theorem exists_last_of_run (steps : Nat) (machine : Machine Terminal) (earlier : List Event) :
    ∃ log, Turn.last p config steps
        { Turn.first p config machine with
          events := (Turn.first p config machine).events.reverse ++ earlier } =
      lastTurn log (Machine.run p config steps machine) := by
  cases started : Machine.start p config machine with
  | error failure after =>
    rw [Machine.run, bind_of_error started]
    simp only [Turn.first, started]
    exact ⟨_, last_of_ending rfl steps⟩
  | ok _ first =>
    rw [run_of_started steps started]
    simp only [Turn.first, started]
    exact exists_last_of_loop steps first _

/-! ### Reports -/

/-- What a session with a log reports of a run. A run that goes on has no report. -/
def reportOf {σ : Type} (p : Program) (log : String) (output : σ → String) :
    EStateM.Result Failure (Machine σ) (Option Completion) → Option Report
  | .ok none _ => none
  | .ok (some _) after => some ⟨0, output after.console, log⟩
  | .error failure after =>
    some ⟨failureCode, output after.console, log ++ runFailureText failure (after.lineNumber p)⟩

/-- The report does not depend on which of two consoles side by side a run has. -/
theorem reportOf_beside {log : String}
    {result : EStateM.Result Failure (Machine Buffer) (Option Completion)}
    {result' : EStateM.Result Failure (Machine Terminal) (Option Completion)}
    (beside : Machine.Beside Piped result result') :
    reportOf p log Buffer.output result = reportOf p log Terminal.output result' := by
  cases beside with
  | @ok completion after _ after' holds =>
    obtain ⟨rfl, -, piped⟩ := holds
    cases completion with
    | none => rfl
    | some completion => simp only [reportOf, piped.output]
  | error holds =>
    obtain ⟨rfl, state, piped⟩ := holds
    simp only [reportOf, Machine.lineNumber, state, piped.output]

theorem exists_runFile {file source : String} {contents : Except ReadFault (List UInt8)}
    (loaded : loadSource file contents = .ok source) (config : Config) (filter : LogFilter)
    (input : List UInt8) (steps : Nat) :
    ∃ log : List Event, runFile file config filter contents input steps =
      reportOf (.ofString source) (filter.render log) Terminal.output
        (Machine.run (.ofString source) config steps ⟨{}, { input }⟩) := by
  obtain ⟨log, last⟩ := @exists_last_of_run (.ofString source) config steps ⟨{}, { input }⟩
    [.loaded file source.utf8ByteSize]
  refine ⟨log.reverse, ?_⟩
  rw [runFile, loaded]
  dsimp only
  rw [last]
  cases Machine.run (.ofString source) config steps (⟨{}, { input }⟩ : Machine Terminal) with
  | error failure after => rfl
  | ok completion after => cases completion <;> rfl

theorem loadSource_encodeText (file source : String) :
    loadSource file (.ok (encodeText source)) = .ok source := by
  rw [loadSource, decodeText_encodeText]
  rfl

theorem config_of_options (file : Option String) (tabWidth maxLabels : Option Nat) (trace : Bool) :
    Arguments.config { file, tabWidth, maxLabels, trace } =
      { tabWidth := max (tabWidth.getD 8) 1, labelCapacity := maxLabels } := by
  cases tabWidth <;> cases maxLabels <;> rfl

/-- Without a trace and without a setting nothing is reported. -/
theorem render_of_no_setting (events : List Event) :
    (logFilter false none).render events = "" := by
  have admitted : events.filter (logFilter false none).admits = [] :=
    List.filter_eq_nil_iff.mpr fun _ _ => Bool.false_ne_true
  rw [LogFilter.render, admitted]
  rfl

/-- A session runs the program of the file with the settings of the options, and reports what the
run does on a buffer that has the lines of the input. -/
theorem respond_of_request {arguments : List String} {file source : String}
    {tabWidth maxLabels : Option Nat} {trace : Bool}
    {contentsOf : String → Except ReadFault (List UInt8)}
    (asked : request? arguments =
      Arguments.request? { file := some file, tabWidth, maxLabels, trace })
    (loaded : contentsOf file = .ok (encodeText source)) (setting : Option String)
    (input : String) (steps : Nat) :
    ∃ log : List Event,
      respond arguments setting contentsOf (encodeText input) steps =
        (match Machine.run (.ofString source)
            { tabWidth := max (tabWidth.getD 8) 1, labelCapacity := maxLabels } steps
            (⟨{}, { input := piecesOf input }⟩ : Machine Buffer) with
        | .ok none _ => none
        | .ok (some _) after =>
          some ⟨0, after.console.output, (logFilter trace setting).render log⟩
        | .error failure after =>
          some ⟨1, after.console.output, (logFilter trace setting).render log ++
            ("Error: " ++ failure.message ++ " (line " ++
              toString (after.lineNumber (.ofString source)) ++ ")\n")⟩) ∧
      (trace = false → setting = none → (logFilter trace setting).render log = "") := by
  let config : Config := { tabWidth := max (tabWidth.getD 8) 1, labelCapacity := maxLabels }
  have source_eq : loadSource file (contentsOf file) = .ok source := by
    rw [loaded, loadSource_encodeText]
  obtain ⟨log, reported⟩ :=
    exists_runFile source_eq config (logFilter trace setting) (encodeText input) steps
  -- the terminal and the buffer are answered alike, line by line
  have beside : Machine.Beside Piped
      (Machine.run (.ofString source) config steps ⟨{}, { input := piecesOf input }⟩)
      (Machine.run (.ofString source) config steps ⟨{}, { input := encodeText input }⟩) :=
    Machine.run_beside (X := .piped config) (fun _ => rfl) steps {} (piped_initial input)
  refine ⟨log, ?_, ?_⟩
  · rw [respond, asked]
    simp only [Arguments.request?, Option.map_some, config_of_options]
    rw [reported, ← reportOf_beside beside]
    cases Machine.run (.ofString source) config steps
        (⟨{}, { input := piecesOf input }⟩ : Machine Buffer) with
    | error failure after => rfl
    | ok completion after => cases completion <;> rfl
  · rintro rfl rfl
    exact render_of_no_setting log

/-- Asks for three numbers and then goes to a label that does not exist. -/
def threeNumbers : String := "INPUT A\nINPUT B\nPRINT A,B\nINPUT C\nGOTO 9\n"

/-- The first line of the input ends with a carriage return and a line feed, the second is blank,
and the third does not end. -/
theorem respond_of_request_threeNumbers :
    request? ["--tab-width", "4", "--max-labels=2", "sum.bas"] =
        Arguments.request? { file := some "sum.bas", tabWidth := some 4, maxLabels := some 2 } ∧
      respond ["--tab-width", "4", "--max-labels=2", "sum.bas"] none
          (fun _ => .ok (encodeText threeNumbers)) (encodeText "1\r\n\n2") 9 =
        some ⟨1, "? ? Invalid input.\n1   0\n? ", "Error: Undefined label 9 (line 5)\n"⟩ := by
  have asked : request? ["--tab-width", "4", "--max-labels=2", "sum.bas"] =
      Arguments.request? { file := some "sum.bas", tabWidth := some 4, maxLabels := some 2 } := by
    decide +kernel
  obtain ⟨failure, after, failed, checked⟩ := exists_of_failsWith (show
    failsWith (fun failure after => failure = .undefinedLabel "9" ∧
        after.lineNumber (.ofString threeNumbers) = 5 ∧
        after.console.output = "? ? Invalid input.\n1   0\n? ")
      (Machine.run (.ofString threeNumbers) { tabWidth := 4, labelCapacity := some 2 } 9
        (⟨{}, { input := piecesOf "1\r\n\n2" }⟩ : Machine Buffer)) = true
    by decide +kernel)
  obtain ⟨rfl, line, output⟩ := of_decide_eq_true checked
  obtain ⟨log, responds, silent⟩ := @respond_of_request _ "sum.bas" threeNumbers _ _ _
    (fun _ => .ok (encodeText threeNumbers)) asked rfl none "1\r\n\n2" 9
  have width : max ((some 4).getD 8) 1 = 4 := rfl
  rw [width, failed] at responds
  dsimp only at responds
  rw [silent rfl rfl, line, output] at responds
  exact ⟨asked, responds⟩

end LineBasic.CommandLine
