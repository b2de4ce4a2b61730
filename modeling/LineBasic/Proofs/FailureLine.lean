import LineBasic.Proofs.Landing

/-!
# The line of a failure

A run that fails reports the line of the place it has noted last. A statement notes
its place when its first token has been read, and collecting labels does when it fails,
so these failures are reported with their own line. A token that cannot be read where a
statement could start is a failure of no statement: nothing is noted for it, and the run
reports the line of the statement before, whatever line the token is on.
-/

namespace LineBasic

/-- A reading stays on its line, unless it is the end of it. -/
theorem Program.lineAt_stop {p : Program} {offset : Nat}
    (within : (p.read offset).found ≠ .ok .endOfLine) :
    p.lineAt (p.read offset).stop = p.lineAt (p.read offset).start := by
  rw [lineAt, lineAt, lineEnds_start]
  cases found : (p.read offset).found with
  | ok token =>
    by_cases ends : token = .endOfProgram
    · subst ends
      rw [stop_of_endOfProgram found, lineEnds_start]
    · have inside : token ≠ .endOfLine := by
        rintro rfl
        exact within found
      rw [lineEnds_stop found ends, if_neg inside, Nat.add_zero]
  | error failure =>
    have shape := p.read_cases offset
    generalize p.read offset = reading at shape found ⊢
    cases shape with
    | token => cases found
    | ends => cases found
    | @opens blanks body behind text blank quotable =>
      -- what stands behind an open quotation mark is on its line
      have plain : IsPlain (blanks ++ '"' :: body) := by
        intro c member
        rcases List.mem_append.mp member with inBlanks | inBody
        · exact isPlain_of_blank blank c inBlanks
        · rcases List.mem_cons.mp inBody with rfl | inside
          · decide
          · exact (quotable c inside).2
      have counted := lineEnds_plain plain behind 0
      rw [Nat.add_assoc, lineEnds_add, ← Program.rest, text]
      simpa using counted

namespace State

variable {p : Program} {state : State}

/-- Whether the token at the cursor starts a statement: it is a keyword, or the variable of an
assignment. -/
def startsStatement (p : Program) (state : State) : Bool :=
  match (state.reading p).found with
  | .ok (.keyword _) | .ok (.name _) => true
  | _ => false

theorem lineAt_noted (starts : state.startsStatement p = true) :
    p.lineAt (state.noted p) = p.lineAt (state.reading p).start := by
  cases found : (state.reading p).found with
  | error => simp [startsStatement, found] at starts
  | ok token =>
    cases token with
    | keyword word =>
      simp only [noted, found]
      exact Program.lineAt_stop (by rw [← State.reading, found]; simp)
    | name text => simp only [noted, found]
    | _ => simp [startsStatement, found] at starts

theorem noted_of_passed (passed : state.startsStatement p = false) :
    state.noted p = state.statementStart := by
  cases found : (state.reading p).found with
  | error => simp only [noted, found]
  | ok token =>
    cases token with
    | keyword | name => simp [startsStatement, found] at passed
    | _ => simp only [noted, found]

end State

namespace Machine

variable {σ : Type} [Console σ] {p : Program} {config : Config}
  {before first machine after : Machine σ} {failure : Failure} {steps : Nat}

/-- The line of the statement that was started last within a number of steps, or the first
line if none was. -/
inductive LastStatement (p : Program) (config : Config) (first : Machine σ) : Nat → Nat → Prop
  | none : LastStatement p config first 0 1
  | starts {steps : Nat} {machine : Machine σ} (ran : loop p config steps first = .ok none machine)
      (starts : machine.state.startsStatement p = true) :
      LastStatement p config first (steps + 1) (p.lineAt (machine.state.reading p).start)
  | passes {steps line : Nat} {machine : Machine σ} (last : LastStatement p config first steps line)
      (ran : loop p config steps first = .ok none machine)
      (passes : machine.state.startsStatement p = false) :
      LastStatement p config first (steps + 1) line

/-- The line that a failed run reports, by what has failed. -/
inductive Reports (p : Program) (config : Config) (before : Machine σ) (failure : Failure)
    (after : Machine σ) : Prop
  /-- A line cannot be passed when the labels are collected. -/
  | labels {line : Nat} (failed : start p config before = .error failure after)
      (scanned : p.Scanned 0 line) (stopped : after.state.cursor = .behind (p.read line))
      (blocks : Labels.Blocks p config.labelCapacity line failure)
      (reported : after.lineNumber p = p.lineAt (p.read line).start)
  | statement {first machine : Machine σ} {steps : Nat}
      (started : start p config before = .ok () first)
      (ran : loop p config steps first = .ok none machine)
      (starts : machine.state.startsStatement p = true)
      (failed : step p config machine = .error failure after)
      (reported : after.lineNumber p = p.lineAt (machine.state.reading p).start)
  /-- A token cannot be read, and no statement has been started to read it. -/
  | fetch {first machine : Machine σ} {steps : Nat}
      (started : start p config before = .ok () first)
      (ran : loop p config steps first = .ok none machine)
      (found : (machine.state.reading p).found = .error failure)
      (failed : step p config machine = .error failure after)
      (reported : LastStatement p config first steps (after.lineNumber p))
  | flush {first last : Machine σ} {steps : Nat} {completion : Completion}
      (started : start p config before = .ok () first)
      (ran : loop p config steps first = .ok (some completion) last)
      (failed : Exec.flush last = .error failure after)

omit [Console σ] in
theorem start_error (failed : start p config before = .error failure after) :
    ∃ line, p.Scanned 0 line ∧ after.state.cursor = .behind (p.read line) ∧
      Labels.Blocks p config.labelCapacity line failure ∧
      after.lineNumber p = p.lineAt (p.read line).start := by
  rw [start] at failed
  split at failed
  next => cases failed
  next cursor collected =>
    cases failed
    obtain ⟨line, scanned, rfl, blocks⟩ := (Labels.collect_surveys p _ _).of_error collected
    refine ⟨line, scanned, rfl, blocks, Program.lineAt_stop ?_⟩
    rcases blocks with found | ⟨label, found, -⟩ <;> simp [found]

theorem step_error (failed : step p config machine = .error failure after) :
    machine.state.startsStatement p = true ∨
      (machine.state.reading p).found = .error failure := by
  rw [State.startsStatement]
  cases found : (machine.state.reading p).found with
  | error other =>
    rw [step_of_error found] at failed
    cases failed
    exact .inr rfl
  | ok token =>
    cases token with
    | keyword | name => exact .inl rfl
    | endOfProgram | delimiter | endOfLine | number | quoted =>
      rw [step, bind_of_ok (Exec.next_ok found)] at failed
      cases failed

theorem loop_lastStatement (started : start p config before = .ok () first)
    (ran : loop p config steps first = .ok none machine) :
    LastStatement p config first steps (machine.lineNumber p) := by
  induction steps generalizing machine with
  | zero =>
    cases ran
    obtain ⟨cursor, -, made⟩ := start_eq_ok started
    have fresh : first.lineNumber p = 1 := by
      rw [made, lineNumber, Program.lineAt, lineEnds_zero]
    rw [fresh]
    exact .none
  | succ steps ih =>
    -- the last step has noted a place, or has left the one noted before
    obtain ⟨between, progress, reached, stepped⟩ := loop_last ran
    have noted := (step_notes p config between).of_ok stepped
    rw [lineNumber, noted]
    cases starts : between.state.startsStatement p with
    | true =>
      rw [State.lineAt_noted starts]
      exact .starts reached starts
    | false =>
      rw [State.noted_of_passed starts]
      exact .passes (ih reached) reached starts

/-- A failure is reported with the line of what has failed, except for one at the fetch of a
token that starts no statement. -/
theorem run_reports (failed : run p config steps before = .error failure after) :
    Reports p config before failure after := by
  rcases run_error failed with failed | ⟨first, started, failed | ⟨completion, last, ran, failed⟩⟩
  · obtain ⟨line, scanned, stopped, blocks, reported⟩ := start_error failed
    exact .labels failed scanned stopped blocks reported
  · obtain ⟨taken, -, machine, ran, failed⟩ := failed
    have noted := (step_notes p config machine).of_error failed
    cases starts : machine.state.startsStatement p with
    | true =>
      refine .statement started ran starts failed ?_
      rw [lineNumber, noted, State.lineAt_noted starts]
    | false =>
      have found := (step_error failed).resolve_left (by simp [starts])
      refine .fetch started ran found failed ?_
      rw [lineNumber, noted, State.noted_of_passed starts]
      exact loop_lastStatement started ran
  · exact .flush started ran failed

/-- A line that starts with a label and text that is no token. -/
def openQuote : Program := .ofString "PRINT 1\n10 \"x"

/-- The quotation mark is on the second line, but the run reports the first, where the last
statement is. -/
theorem run_reports_openQuote :
    (openQuote.read 10).found = .error .openQuote ∧
      openQuote.lineAt (openQuote.read 10).start = 2 ∧
      ∃ after : Machine Buffer, run openQuote {} 3 ⟨{}, {}⟩ = .error .openQuote after ∧
        after.lineNumber openQuote = 1 ∧
        Reports openQuote {} (⟨{}, {}⟩ : Machine Buffer) .openQuote after := by
  obtain ⟨failure, after, failed, checked⟩ := exists_of_failsWith (show
    failsWith (fun failure after => failure = .openQuote ∧ after.lineNumber openQuote = 1)
      (run openQuote {} 3 (⟨{}, {}⟩ : Machine Buffer)) = true
    by decide +kernel)
  obtain ⟨rfl, line⟩ := of_decide_eq_true checked
  exact ⟨by decide +kernel, by decide +kernel, after, failed, line, run_reports failed⟩

end Machine

end LineBasic
