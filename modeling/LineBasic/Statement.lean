import LineBasic.Config
import LineBasic.Machine
import LineBasic.Number.Display

/-!
# Statements

What each statement does once its keyword has been read. A statement ends in
front of the token that does not belong to it, or says where the run goes on.
-/

namespace LineBasic

/-- Where a run goes on after a statement. -/
inductive Flow where
  /-- At the cursor. -/
  | onward
  | jump (target : Nat)
  | halt
deriving DecidableEq, Repr

namespace Statement

open Exec

variable {μ : Type} [Executes μ]

/-! ### Parts of statements -/

def expectVariable (p : Program) : ExecOn μ Letter := do
  match ← next p with
  | .name text => MonadExcept.ofExcept (Letter.ofName text)
  | other => throw (.notAVariable other.lexeme)

/-- The variable at the cursor, if there is one. -/
def optionalVariable (p : Program) : ExecOn μ (Option Letter) := do
  match ← next p with
  | .name text => some <$> MonadExcept.ofExcept (Letter.ofName text)
  | _ =>
    giveBack
    pure none

def expectEqualSign (p : Program) : ExecOn μ Unit := do
  unless (← next p) = .delimiter .equal do throw .equalSignExpected

/-- The offset of the line that the label at the cursor names. -/
def expectLabel (p : Program) : ExecOn μ Nat := do
  match ← next p with
  | .number label | .name label =>
    match (← getState).labels.find? label with
    | some offset => pure offset
    | none => throw (.undefinedLabel label)
  | _ => throw .malformed

/-! ### Assignment -/

/-- `variable = expression`. -/
def assignment (p : Program) : ExecOn μ Unit := do
  let letter ← expectVariable p
  expectEqualSign p
  assign letter (← evaluate p)

/-! ### PRINT and INPUT -/

section Console

variable [Converses μ]

/-- The text of a PRINT item that starts with a token. -/
def printItem (p : Program) : Token → ExecOn μ String
  | .quoted text => pure text
  | _ => do
    giveBack
    return Number.display (← evaluate p)

/-- Goes on with a PRINT list at a column. `separated` says whether a separator
stands before, which keeps the line open if the list ends here. A comma moves to
the next column that is a multiple of the tab width, a semicolon writes a blank.
Each item takes a token, so the length of the program bounds their number. -/
def printFrom (p : Program) (config : Config) :
    (items : Nat) → (column : Nat) → (separated : Bool) → ExecOn μ Unit
  | 0, _, _ => pure ()
  | items + 1, column, separated => do
    let token ← next p
    if token.endsLine then
      unless separated do write "\n"
    else
      let text ← printItem p token
      write text
      let column := column + text.length
      match ← next p with
      | .delimiter .comma =>
        let blanks := config.padding column
        write (String.ofList (List.replicate blanks ' '))
        printFrom p config items (column + blanks) true
      | .delimiter .semicolon =>
        write " "
        printFrom p config items (column + 1) true
      | token => if token.endsLine then write "\n" else throw .malformed

/-- `PRINT [item {, item | ; item} [, | ;]]`. -/
def print (p : Program) (config : Config) : ExecOn μ Unit :=
  printFrom p config (p.length + 1) 0 false

/-- Writes the prompt of the statement, or else the one of the settings. -/
def prompt (p : Program) (config : Config) : ExecOn μ Unit := do
  match ← next p with
  | .quoted text =>
    write text
    unless (← next p) = .delimiter .comma do throw .malformed
  | _ =>
    giveBack
    write config.inputPrompt

/-- The line that was read does not write a number: says so, and notes it. -/
def reject (p : Program) (config : Config) (line : String) : ExecOn μ Unit := do
  write (config.invalidInputMessage ++ "\n")
  modifyState fun state =>
    { state with warnings := ⟨p.lineAt state.statementStart, line⟩ :: state.warnings }

/-- `INPUT ["prompt",] variable`. The variable keeps its value if the line read
does not write a number, white space around it aside. -/
def input (p : Program) (config : Config) : ExecOn μ Unit := do
  prompt p config
  let letter ← expectVariable p
  flush
  match ← readLine with
  | none => throw (.inputFailed "end of input")
  | some line =>
    match Number.parse? (Text.trim line.toList) with
    | some value => assign letter value
    | none => reject p config line

end Console

/-! ### Jumps -/

/-- `GOTO label`. -/
def goto (p : Program) : ExecOn μ Flow := return .jump (← expectLabel p)

/-- `GOSUB label`. -/
def callSub (p : Program) : ExecOn μ Flow := do
  let target ← expectLabel p
  modifyState fun state => { state with gosubStack := state.cursor.offset :: state.gosubStack }
  return .jump target

/-- `RETURN`. -/
def returnFromSub : ExecOn μ Flow := do
  match (← getState).gosubStack with
  | [] => throw .returnWithoutGosub
  | target :: rest =>
    modifyState fun state => { state with gosubStack := rest }
    return .jump target

/-- `IF condition THEN statement`. The rest of the line is skipped if the
condition is zero; otherwise the run goes on behind THEN. -/
def branch (p : Program) : ExecOn μ Unit := do
  if (← evaluate p) != 0.0 then
    unless (← next p) = .keyword .THEN do throw .thenExpected
  else skipLine p

/-! ### FOR loops -/

/-- Moves behind the first NEXT, its variable included, or to the end of the
program. Each token takes a character, so the length of the program bounds their
number. -/
def skipToNext (p : Program) : (tokens : Nat) → ExecOn μ Unit
  | 0 => pure ()
  | tokens + 1 => do
    match ← next p with
    | .keyword .NEXT => discard (optionalVariable p)
    | .endOfProgram => pure ()
    | _ => skipToNext p tokens

/-- `FOR variable = start TO target`. The body is entered if the start does not
exceed the target. -/
def enterFor (p : Program) : ExecOn μ Unit := do
  let letter ← expectVariable p
  expectEqualSign p
  let start ← evaluate p
  assign letter start
  unless (← next p) = .keyword .TO do throw .toExpected
  let target ← evaluate p
  if start ≤ target then
    modifyState fun state =>
      { state with forStack := ⟨letter, target, state.cursor.offset⟩ :: state.forStack }
  else skipToNext p (p.length + 1)

/-- `NEXT [variable]`. The innermost loop ends when its variable exceeds the
target after counting up. A variable that is not the one of this loop is a
failure, and the loop is gone. -/
def endFor (p : Program) : ExecOn μ Flow := do
  let named ← optionalVariable p
  match (← getState).forStack with
  | [] => throw .nextWithoutFor
  | frame :: outer =>
    modifyState fun state => { state with forStack := outer }
    unless named.all (· = frame.letter) do throw .nextWithoutFor
    let value := (← getState).store.get frame.letter + 1.0
    assign frame.letter value
    if value > frame.target then return .onward
    else
      modifyState fun state => { state with forStack := frame :: outer }
      return .jump frame.resume

/-! ### REPEAT loops -/

/-- `REPEAT`. -/
def enterRepeat : ExecOn μ Unit :=
  modifyState fun state => { state with repeatStack := state.cursor.offset :: state.repeatStack }

/-- `UNTIL condition`. The innermost loop ends unless the condition is zero. It
is closed while the condition is evaluated, and stays so if that fails. -/
def endRepeat (p : Program) : ExecOn μ Flow := do
  match (← getState).repeatStack with
  | [] => throw .untilWithoutRepeat
  | start :: outer =>
    modifyState fun state => { state with repeatStack := outer }
    if (← evaluate p) == 0.0 then
      modifyState fun state => { state with repeatStack := start :: outer }
      return .jump start
    else return .onward

/-! ### All statements -/

/-- Executes the statement of a keyword that has been read. THEN is met behind
the condition of an IF; it does nothing, and neither does TO. -/
def perform [Converses μ] (p : Program) (config : Config) : Keyword → ExecOn μ Flow
  | .PRINT => do print p config; return .onward
  | .INPUT => do input p config; return .onward
  | .IF => do branch p; return .onward
  | .FOR => do enterFor p; return .onward
  | .REPEAT => do enterRepeat; return .onward
  | .THEN | .TO => return .onward
  | .GOTO => goto p
  | .GOSUB => callSub p
  | .RETURN => returnFromSub
  | .NEXT => endFor p
  | .UNTIL => endRepeat p
  | .END => return .halt

end Statement

end LineBasic
