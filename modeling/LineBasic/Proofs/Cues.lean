import LineBasic.Proofs.Silence

/-!
# What statements say

What the calls of a statement are for is told by its cues, `State.cues`, before a call is
made. A cue is a text that the program gives, blanks up to a column, a text of the settings,
or a call that writes nothing. So the settings do not come in with the cues but only with
what is written for them, `Cue.Gives`. To tell the cues of PRINT, its list is gone through
without a console; INPUT has at most four, each of which it needs for the next.

`Machine.step_speaks` says that a step follows its cues one by one, and that a call which
fails is its last.
-/

namespace LineBasic

/-! ### Cues -/

/-- What a statement makes a call for. -/
inductive Cue where
  /-- To write a text that the program gives. -/
  | text (text : String)
  /-- To move to the next column behind a comma. -/
  | tab
  /-- To write the prompt of the settings. -/
  | prompt
  /-- To say that a line is not a number. -/
  | complaint
  | flush
  | read

namespace Cue

/-- The calls that answer a cue. With what outcome a call is made is up to the console. -/
inductive Gives (config : Config) : Cue → Call → Prop
  | text (text : String) (outcome : Except String Unit) :
      Gives config (.text text) (.write text outcome)
  | tab (column : Nat) (outcome : Except String Unit) :
      Gives config .tab
        (.write (String.ofList (List.replicate (config.padding column) ' ')) outcome)
  | prompt (outcome : Except String Unit) : Gives config .prompt (.write config.inputPrompt outcome)
  | complaint (outcome : Except String Unit) :
      Gives config .complaint (.write (config.invalidInputMessage ++ "\n") outcome)
  | flush (outcome : Except String Unit) : Gives config .flush (.flush outcome)
  | read (outcome : Except String (Option String)) : Gives config .read (.readLine outcome)

end Cue

/-- The failure that comes of a call, if the console cannot make it. -/
def Call.failure? : Call → Option Failure
  | .write _ (.error reason) | .flush (.error reason) => some (.outputFailed reason)
  | .readLine (.error reason) => some (.inputFailed reason)
  | _ => none

/-- The calls follow the cues, each of which needs the call before it to succeed. There can
be fewer calls than cues; but where a flush has been made, the read behind it is owed, unless
there is a failure. -/
inductive Spoken (config : Config) : List Cue → List Call → Option Failure → Prop
  | stops {cues : List Cue} {failure : Option Failure}
      (settled : failure = none → cues.head? ≠ some .read) : Spoken config cues [] failure
  | fails {cue : Cue} {cues : List Cue} {call : Call} {failure : Failure}
      (gives : cue.Gives config call) (failed : call.failure? = some failure) :
      Spoken config (cue :: cues) [call] (some failure)
  | goes {cue : Cue} {cues : List Cue} {call : Call} {calls : List Call}
      {failure : Option Failure} (gives : cue.Gives config call) (made : call.failure? = none)
      (further : Spoken config cues calls failure) :
      Spoken config (cue :: cues) (call :: calls) failure

namespace Machine

open Exec

variable {σ α β : Type} {config : Config} {cue : Cue} {cues : List Cue}
  {machine between after : Machine (Recorded σ)}

/-- The calls that a computation has made follow the cues. -/
def Speaks (config : Config) (cues : List Cue) (machine : Machine (Recorded σ))
    (result : EStateM.Result Failure (Machine (Recorded σ)) α) : Prop :=
  ∃ calls, (finalState result).console.calls = calls.reverse ++ machine.console.calls ∧
    Spoken config cues calls (failure? result)

theorem speaks_ok {value : α} (silent : after.console = machine.console)
    (settled : cues.head? ≠ some .read) : Speaks config cues machine (.ok value after) :=
  ⟨[], by rw [finalState, silent]; rfl, .stops fun _ => settled⟩

theorem speaks_error {failure : Failure} (silent : after.console = machine.console) :
    Speaks config cues machine (.error failure after : EStateM.Result _ _ α) :=
  ⟨[], by rw [finalState, silent]; rfl, .stops (by simp [failure?])⟩

/-- A silent computation leaves all cues to what follows it. -/
theorem speaks_after_silence {exec : Exec (Recorded σ) α} {next : α → Exec (Recorded σ) β}
    (silent : between.console = machine.console) (execSilent : SaysNothing exec)
    (goes : ∀ value behind, behind.console = machine.console →
      Speaks config cues machine (next value behind)) :
    Speaks config cues machine ((exec >>= next) between) := by
  have saysNothing := execSilent between
  cases ran : exec between with
  | ok value behind =>
    rw [bind_of_ok ran]
    exact goes value behind ((saysNothing.of_ok ran).console.trans silent)
  | error failure after =>
    rw [bind_of_error ran]
    exact speaks_error ((saysNothing.of_error ran).console.trans silent)

/-- A call is noted with its outcome, and nothing else changes but the console inside. -/
theorem noting_cases (note : Except String α → Call) (call : EStateM String σ α)
    (cause : String → Failure) (machine : Machine (Recorded σ)) :
    (∃ value console, onConsole cause (Recorded.noting note call) machine =
      .ok value ⟨machine.state, console, note (.ok value) :: machine.console.calls⟩) ∨
    ∃ reason console, onConsole cause (Recorded.noting note call) machine =
      .error (cause reason)
        ⟨machine.state, console, note (.error reason) :: machine.console.calls⟩ := by
  simp only [onConsole, Recorded.noting]
  cases call machine.console.console with
  | ok value console => exact .inl ⟨value, console, rfl⟩
  | error reason console => exact .inr ⟨reason, console, rfl⟩

/-- A call for the first cue leaves the others to what follows it. -/
theorem speaks_noting {note : Except String α → Call} {call : EStateM String σ α}
    {cause : String → Failure} {next : α → Exec (Recorded σ) β}
    (silent : between.console = machine.console)
    (gives : ∀ outcome, cue.Gives config (note outcome))
    (made : ∀ value, (note (.ok value)).failure? = none)
    (failed : ∀ reason, (note (.error reason)).failure? = some (cause reason))
    (goes : ∀ value console,
      Speaks config cues ⟨between.state, console⟩ (next value ⟨between.state, console⟩)) :
    Speaks config (cue :: cues) machine
      ((onConsole cause (Recorded.noting note call) >>= next) between) := by
  rcases noting_cases note call cause between with ⟨value, console, ran⟩ | ⟨reason, console, ran⟩
  · obtain ⟨calls, heard, spoken⟩ :=
      goes value ⟨console, note (.ok value) :: between.console.calls⟩
    rw [bind_of_ok ran]
    refine ⟨note (.ok value) :: calls, ?_, .goes (gives _) (made value) spoken⟩
    rw [heard, silent]
    simp
  · rw [bind_of_error ran]
    refine ⟨[note (.error reason)], ?_, .fails (gives _) (failed reason)⟩
    rw [finalState, silent]
    rfl

variable [Console σ]

theorem speaks_write {text : String} {next : Unit → Exec (Recorded σ) β}
    (silent : between.console = machine.console)
    (gives : ∀ outcome, cue.Gives config (.write text outcome))
    (goes : ∀ console,
      Speaks config cues ⟨between.state, console⟩ (next () ⟨between.state, console⟩)) :
    Speaks config (cue :: cues) machine ((write text >>= next) between) :=
  speaks_noting silent gives (fun _ => rfl) (fun _ => rfl) fun _ => goes

theorem speaks_flush {next : Unit → Exec (Recorded σ) β}
    (silent : between.console = machine.console)
    (goes : ∀ console,
      Speaks config cues ⟨between.state, console⟩ (next () ⟨between.state, console⟩)) :
    Speaks config (.flush :: cues) machine ((flush >>= next) between) :=
  speaks_noting silent .flush (fun _ => rfl) (fun _ => rfl) fun _ => goes

theorem speaks_read {next : Option String → Exec (Recorded σ) β}
    (silent : between.console = machine.console)
    (goes : ∀ line console,
      Speaks config cues ⟨between.state, console⟩ (next line ⟨between.state, console⟩)) :
    Speaks config (.read :: cues) machine ((readLine >>= next) between) :=
  speaks_noting silent .read (fun _ => rfl) (fun _ => rfl) goes

/-- A flush or a write is noted, whether it succeeds or fails. -/
theorem flush_cases (machine : Machine (Recorded σ)) :
    (∃ console, flush machine =
      .ok () ⟨machine.state, console, .flush (.ok ()) :: machine.console.calls⟩) ∨
    ∃ reason console, flush machine = .error (.outputFailed reason)
      ⟨machine.state, console, .flush (.error reason) :: machine.console.calls⟩ := by
  rcases noting_cases Call.flush Console.flush .outputFailed machine with
    ⟨_, console, ran⟩ | ⟨reason, console, ran⟩
  · exact .inl ⟨console, ran⟩
  · exact .inr ⟨reason, console, ran⟩

theorem write_cases (text : String) (machine : Machine (Recorded σ)) :
    (∃ console, write text machine =
      .ok () ⟨machine.state, console, .write text (.ok ()) :: machine.console.calls⟩) ∨
    ∃ reason console, write text machine = .error (.outputFailed reason)
      ⟨machine.state, console, .write text (.error reason) :: machine.console.calls⟩ := by
  rcases noting_cases (Call.write text) (Console.write text) .outputFailed machine with
    ⟨_, console, ran⟩ | ⟨reason, console, ran⟩
  · exact .inl ⟨console, ran⟩
  · exact .inr ⟨reason, console, ran⟩

/-- A call for the last cue. -/
theorem speaks_write_last {text : String} (silent : between.console = machine.console)
    (gives : ∀ outcome, cue.Gives config (.write text outcome)) :
    Speaks config [cue] machine (write text between) := by
  rw [← bind_pure (write text)]
  exact speaks_write silent gives fun _ => speaks_ok rfl (by simp)

omit [Console σ] in
theorem Speaks.moved {exec : Exec (Recorded σ) Unit}
    (said : Speaks config cues machine (exec machine)) :
    Speaks config cues machine ((do exec; return Progress.moved) machine) := by
  cases ran : exec machine with
  | ok =>
    rw [bind_of_ok ran]
    rw [ran] at said
    exact said
  | error =>
    rw [bind_of_error ran]
    rw [ran] at said
    exact said

end Machine

/-! ### PRINT and INPUT -/

namespace Statement

open Exec Machine

/-- The text of the PRINT item that starts with a token, and where the item stops. -/
def itemAt? (p : Program) (store : Store) (reading : Reading) : Option (String × Nat) :=
  match reading.found with
  | .ok (.quoted text) => some (text, reading.stop)
  | _ => (Expression.valueAt? p store reading.start).map fun (value, stop) =>
      (Number.display value, stop)

/-- The cues of a PRINT list from an offset on, up to what cannot be read or evaluated. As
in `printFrom`, `separated` says whether a separator stands before. -/
def printCues (p : Program) (store : Store) :
    (items : Nat) → (offset : Nat) → (separated : Bool) → List Cue
  | 0, _, _ => []
  | items + 1, offset, separated =>
    match (p.read offset).found with
    | .error _ => []
    | .ok token =>
      if token.endsLine then if separated then [] else [.text "\n"]
      else
        match itemAt? p store (p.read offset) with
        | none => []
        | some (text, stop) => .text text ::
          match (p.read stop).found with
          | .ok (.delimiter .comma) => .tab :: printCues p store items (p.read stop).stop true
          | .ok (.delimiter .semicolon) =>
            .text " " :: printCues p store items (p.read stop).stop true
          | .ok token => if token.endsLine then [.text "\n"] else []
          | .error _ => []

/-- The cue for the prompt of an INPUT whose keyword stops at an offset. -/
def promptCue (p : Program) (offset : Nat) : Cue :=
  match (p.read offset).found with
  | .ok (.quoted text) => .text text
  | _ => .prompt

variable {σ : Type} {p : Program} {machine : Machine (Recorded σ)} {token : Token}

/-- A token that is not quoted is given back and read again as the first of an expression. -/
theorem printItem_of_unquoted {σ : Type} {machine : Machine σ}
    (unquoted : ∀ text, token ≠ .quoted text) :
    printItem p token (machine.withCursor (.behind (machine.state.reading p))) =
      (do return Number.display (← evaluate p) : Exec σ String)
        (machine.withCursor (.before (machine.state.reading p))) := by
  cases token with
  | quoted text => exact absurd rfl (unquoted text)
  | _ => rfl

/-- Printing an item fails, or gives the text that is told of it. Only the cursor moves. -/
theorem printItem_cases [Console σ] (found : (machine.state.reading p).found = .ok token) :
    (∃ text cursor,
      itemAt? p machine.state.store (machine.state.reading p) = some (text, cursor.offset) ∧
      printItem p token (machine.withCursor (.behind (machine.state.reading p))) =
        .ok text (machine.withCursor cursor)) ∨
    ∃ failure cursor,
      printItem p token (machine.withCursor (.behind (machine.state.reading p))) =
        .error failure (machine.withCursor cursor) := by
  by_cases quoted : ∃ text, token = .quoted text
  · obtain ⟨text, rfl⟩ := quoted
    refine .inl ⟨text, _, ?_, rfl⟩
    simp only [itemAt?, found]
    rfl
  · have evaluated := @printItem_of_unquoted p token _ machine (not_exists.mp quoted)
    have told : itemAt? p machine.state.store (machine.state.reading p) =
        (Expression.valueAt? p machine.state.store (machine.state.reading p).start).map
          fun (value, stop) => (Number.display value, stop) := by
      rw [itemAt?, found]
      cases token with
      | quoted text => exact absurd ⟨text, rfl⟩ quoted
      | _ => rfl
    rw [evaluated, told, Expression.valueAt?]
    have ran := evaluate_eq p (machine.withCursor (.before (machine.state.reading p)))
    have fresh : ({ offset := (machine.state.reading p).start } : Cursor) =
        .before (machine.state.reading p) := rfl
    simp only [Machine.withCursor_store, Machine.withCursor_cursor] at ran
    rw [fresh]
    cases value : Expression.evaluate p machine.state.store (.before (machine.state.reading p)) with
    | ok number cursor =>
      rw [value] at ran
      rw [bind_of_ok ran]
      exact .inl ⟨_, cursor, rfl, rfl⟩
    | error failure cursor =>
      rw [value] at ran
      rw [bind_of_error ran]
      exact .inr ⟨failure, cursor, rfl⟩

/-- The calls of a PRINT list follow the cues told of it, at whatever column it starts. -/
theorem printFrom_speaks [Console σ] (p : Program) (config : Config) (items column : Nat)
    (separated : Bool) (machine : Machine (Recorded σ)) :
    Speaks config (printCues p machine.state.store items machine.state.cursor.offset separated)
      machine (printFrom p config items column separated machine) := by
  induction items generalizing column separated machine with
  | zero => exact speaks_ok rfl (by simp [printCues])
  | succ items ih =>
    rw [printFrom, printCues, ← State.reading]
    cases found : (machine.state.reading p).found with
    | error failure =>
      rw [bind_of_error (next_error found)]
      exact speaks_error rfl
    | ok token =>
      rw [bind_of_ok (next_ok found)]
      dsimp only
      by_cases ends : token.endsLine = true
      · rw [if_pos ends, if_pos ends]
        cases separated with
        | true => exact speaks_ok rfl (by simp)
        | false => exact speaks_write_last rfl (.text "\n")
      · rw [if_neg ends, if_neg ends]
        rcases printItem_cases found with ⟨text, cursor, told, printed⟩ | ⟨failure, cursor, failed⟩
        · rw [bind_of_ok printed, told]
          apply speaks_write rfl (.text text)
          intro console
          -- what has been written is in the console, and the separator is at the cursor
          let written : Machine (Recorded σ) := ⟨(machine.withCursor cursor).state, console⟩
          change Speaks config _ written ((next p >>= _) written)
          cases separator : (p.read cursor.offset).found with
          | error failure =>
            have unread : next p written = .error failure _ := next_error separator
            rw [bind_of_error unread]
            exact speaks_error rfl
          | ok sign =>
            have passed : next p written = .ok sign _ := next_ok separator
            rw [bind_of_ok passed]
            -- the column is nowhere in the cues, only in how many blanks are written
            cases sign with
            | delimiter sign =>
              cases sign with
              | comma => exact speaks_write rfl (.tab _) fun _ => ih _ true _
              | semicolon => exact speaks_write rfl (.text " ") fun _ => ih _ true _
              | _ => exact speaks_error rfl
            | endOfLine | endOfProgram => exact speaks_write_last rfl (.text "\n")
            | _ => exact speaks_error rfl
        · rw [bind_of_error failed]
          exact speaks_error rfl

/-- What INPUT makes of the answer. -/
def receive [Console σ] (p : Program) (config : Config) (letter : Letter) : Exec σ Unit := do
  match ← readLine with
  | none => throw (.inputFailed "end of input")
  | some line =>
    match Number.parse? (Text.trim line.toList) with
    | some value => assign letter value
    | none => reject p config line

theorem input_eq [Console σ] (p : Program) (config : Config) :
    input p config = (do
      prompt p config
      let letter ← expectVariable p
      flush
      receive p config letter : Exec σ Unit) :=
  rfl

theorem receive_speaks [Console σ] (p : Program) (config : Config) (letter : Letter)
    (machine : Machine (Recorded σ)) :
    Speaks config [.read, .complaint] machine (receive p config letter machine) := by
  apply speaks_read rfl
  intro answer console
  cases answer with
  | none => exact speaks_error rfl
  | some line =>
    cases parsed : Number.parse? (Text.trim line.toList) with
    | some value =>
      simp only [parsed]
      exact speaks_ok rfl (by simp)
    | none =>
      simp only [parsed]
      exact speaks_write rfl .complaint fun _ => speaks_ok rfl (by simp)

/-- INPUT asks with a prompt, flushes, reads, and may have to complain. -/
theorem input_speaks [Console σ] (p : Program) (config : Config) (machine : Machine (Recorded σ)) :
    Speaks config [promptCue p machine.state.cursor.offset, .flush, .read, .complaint] machine
      (input p config machine) := by
  -- behind the prompt and its comma, it no longer matters which prompt it was
  have asks : ∀ {between machine : Machine (Recorded σ)}, between.console = machine.console →
      Speaks config [.flush, .read, .complaint] machine ((do
        let letter ← expectVariable p
        flush
        receive p config letter : Exec (Recorded σ) Unit) between) := by
    intro between machine silent
    apply speaks_after_silence silent silent_expectVariable
    intro letter behind silent
    exact speaks_flush silent fun _ => receive_speaks p config letter _
  rw [input_eq, prompt, bind_assoc, promptCue, ← State.reading]
  cases found : (machine.state.reading p).found with
  | error failure =>
    rw [bind_of_error (next_error found)]
    exact speaks_error rfl
  | ok token =>
    rw [bind_of_ok (next_ok found)]
    cases token with
    | quoted text =>
      dsimp only
      rw [bind_assoc]
      apply speaks_write rfl (.text text)
      intro console
      rw [bind_assoc]
      -- a comma has to follow, or the prompt was the only call
      apply speaks_after_silence rfl silent_next
      intro token behind silent
      split
      · exact asks silent
      · exact speaks_error silent
    | _ =>
      dsimp only
      rw [bind_assoc]
      exact speaks_write rfl .prompt fun _ => asks rfl

end Statement

/-- The cues of the statement that starts at the cursor. -/
def State.cues (p : Program) (state : State) : List Cue :=
  match (state.reading p).found with
  | .ok (.keyword .PRINT) =>
    Statement.printCues p state.store (p.length + 1) (state.reading p).stop false
  | .ok (.keyword .INPUT) =>
    [Statement.promptCue p (state.reading p).stop, .flush, .read, .complaint]
  | _ => []

/-- However a step ends, its calls follow the cues of its statement. -/
theorem Machine.step_speaks {σ : Type} [Console σ] (p : Program) (config : Config)
    (machine : Machine (Recorded σ)) :
    Speaks config (machine.state.cues p) machine (step p config machine) := by
  by_cases isPrint : (machine.state.reading p).found = .ok (.keyword .PRINT)
  · have printed :=
      Statement.printFrom_speaks p config (p.length + 1) 0 false (machine.dispatched p)
    rw [step_of_print isPrint]
    simp only [State.cues, isPrint]
    exact printed.moved
  · by_cases isInput : (machine.state.reading p).found = .ok (.keyword .INPUT)
    · have asked := Statement.input_speaks p config (machine.dispatched p)
      rw [step_of_input isInput]
      simp only [State.cues, isInput]
      exact asked.moved
    · -- all other statements are silent, and there are no cues for them
      have uncued : machine.state.cues p = [] := by
        rw [State.cues]
        split
        next found => exact absurd found isPrint
        next found => exact absurd found isInput
        next => rfl
      rw [uncued]
      cases ran : step p config machine with
      | ok progress after =>
        exact speaks_ok ((step_silent config isPrint isInput).of_ok ran).console (by simp)
      | error failure after =>
        exact speaks_error ((step_silent config isPrint isInput).of_error ran).console

end LineBasic
