import LineBasic.Proofs.Simulation
import LineBasic.Proofs.Survey

/-!
# One program on two machines

A program is aligned with itself, with every offset at its own place. Machines side by
side then have the same state, so what holds of aligned programs tells how two runs of one
program compare if only the settings and the consoles differ.

A first use of this is to listen to a run. On a console that notes every call, a run does
what it does on the console itself, and `Machine.calls` is what has been noted.
-/

namespace LineBasic

/-- All but the end of the program takes at least one character. -/
theorem Program.lt_stop {p : Program} {offset : Nat}
    (going : (p.read offset).found ≠ .ok .endOfProgram) : offset < (p.read offset).stop := by
  have shape := p.read_cases offset
  generalize p.read offset = reading at shape going ⊢
  cases shape with
  | token _ _ spells =>
    have positive := spells.length_pos
    simp only
    omega
  | ends => exact absurd rfl going
  | opens =>
    simp only
    omega

namespace Alignment

variable {p : Program} {ahead before : Nat}

/-- A program beside itself. -/
def identity (p : Program) : Alignment p p where
  Alike := Eq
  Place ahead offset offset' := offset = offset' ∧ offset ≤ p.length ∧ p.length - offset ≤ ahead
  alike := by
    rintro token _ rfl
    exact .same token
  origin := ⟨rfl, Nat.zero_le _, Nat.le_min.mpr ⟨Nat.sub_le _ _, Nat.sub_le _ _⟩⟩
  widen := by
    rintro ahead more offset _ ⟨rfl, inside, few⟩ le
    exact ⟨rfl, inside, Nat.le_trans few le⟩
  shorten := by
    rintro ahead offset _ ⟨rfl, inside, -⟩
    simp only [Nat.min_self, Nat.sub_le, inside, and_self]
  inside := by
    rintro ahead offset _ ⟨rfl, inside, -⟩
    exact ⟨inside, inside⟩
  found := by
    rintro ahead offset _ ⟨rfl, -, -⟩
    cases (p.read offset).found with
    | ok token => exact .inl ⟨token, token, rfl, rfl, rfl⟩
    | error failure => exact .inr ⟨failure, rfl, rfl⟩
  start := by
    rintro ahead offset _ ⟨rfl, inside, few⟩
    have forward := p.le_start offset
    have taken := p.start_le_stop offset
    have within := p.stop_le_length offset inside
    exact ⟨rfl, Nat.le_trans taken within, Nat.le_trans (Nat.sub_le_sub_left forward _) few⟩
  passed := by
    rintro ahead offset _ ⟨rfl, inside, few⟩ going
    -- what is passed takes a character, so there are fewer of them ahead
    have forward := Program.lt_stop going
    have within := p.stop_le_length offset inside
    have fewer := Nat.sub_lt_sub_left (Nat.lt_of_lt_of_le forward within) forward
    refine ⟨p.length - (p.read offset).stop, ?_, rfl, within, Nat.le_refl _⟩
    exact Nat.lt_of_lt_of_le fewer few
  nextLine := by
    rintro ahead offset _ ⟨rfl, inside, few⟩
    have within : p.nextLine offset ≤ p.length := Program.nextLine_le inside
    rw [Program.nextLine] at within
    exact ⟨rfl, within, Nat.le_trans (Nat.sub_le_sub_left (Nat.le_add_right _ _) _) few⟩
  line := by
    rintro ahead offset _ ⟨rfl, -, -⟩
    rfl

theorem eq_of_same {offset offset' : Nat} (same : (identity p).Same offset offset') :
    offset = offset' :=
  same.1

/-- In a program beside itself, outcomes agree only if they are the same. -/
theorem eq_of_outcomes {α : Type} {result other : EStateM.Result Failure Reading α}
    (outcomes : (identity p).Outcomes ahead Eq result other) : result = other := by
  cases outcomes with
  | ok holds =>
    obtain ⟨rfl, offset, _, place, rfl, rfl⟩ := holds
    rw [place.1]
  | error holds =>
    obtain ⟨rfl, offset, _, place, rfl, rfl⟩ := holds
    rw [place.1]

theorem Cursors.eq {cursor cursor' : Cursor}
    (cursors : (identity p).Cursors ahead before cursor cursor') : cursor = cursor' := by
  obtain ⟨offset, lastStart⟩ := cursor
  obtain ⟨offset', lastStart'⟩ := cursor'
  obtain ⟨place, last⟩ := cursors
  have here : offset = offset' := place.1
  have back : lastStart = lastStart' := by
    cases last with
    | some there => exact congrArg some there.1
    | none => rfl
  rw [here, back]

theorem Tables.eq {labels labels' : Labels} (tables : (identity p).Tables labels labels') :
    labels = labels' := by
  obtain ⟨entries⟩ := labels
  obtain ⟨entries'⟩ := labels'
  congr 1
  refine List.forall₂_eq_eq_eq ▸ List.Forall₂.imp ?_ tables
  rintro ⟨label, line⟩ ⟨label', line'⟩ ⟨key, place, -⟩
  exact Prod.ext key (eq_of_same place)

theorem Frames.eq {frame frame' : ForFrame} (frames : (identity p).Frames frame frame') :
    frame = frame' := by
  obtain ⟨letter, target, resume⟩ := frame
  obtain ⟨letter', target', resume'⟩ := frame'
  simp only [ForFrame.mk.injEq]
  exact ⟨frames.letter, frames.target, eq_of_same frames.resume⟩

/-- States side by side are the same. -/
theorem States.eq {state state' : State} (states : (identity p).States ahead before state state') :
    state = state' := by
  have offsets : ∀ {stack stack' : List Nat}, List.Forall₂ (identity p).Same stack stack' →
      stack = stack' :=
    fun pairs => List.forall₂_eq_eq_eq ▸ pairs.imp fun _ _ place => eq_of_same place
  have cursor := states.cursor.eq
  have labels := states.labels.eq
  have frames : state.forStack = state'.forStack :=
    List.forall₂_eq_eq_eq ▸ states.forStack.imp fun _ _ frames => frames.eq
  have calls := offsets states.gosubStack
  have loops := offsets states.repeatStack
  have noted := eq_of_same states.statementStart
  obtain ⟨_, _, _, _, _, _, _, _⟩ := state
  obtain ⟨_, _, _, _, _, _, _, _⟩ := state'
  simp only [State.mk.injEq]
  exact ⟨cursor, labels, states.store, frames, calls, loops, states.warnings, noted⟩

theorem Failures.eq {failure failure' : Failure}
    (failures : (identity p).Failures failure failure') : failure = failure' := by
  cases failures with
  | same => rfl
  | renamed alike =>
    have named : Token.name _ = .name _ := alike
    rw [Token.name.inj named]

theorem Advances.eq {progress progress' : Progress}
    (advances : (identity p).Advances progress progress') : progress = progress' := by
  cases advances with
  | moved => rfl
  | jumped left reached => rw [eq_of_same left, eq_of_same reached]
  | finished => rfl

end Alignment

/-! ### Runs that differ in nothing but the consoles -/

namespace Machine

variable {σ σ' α : Type}

/-- Two computations have the same outcome and leave the same state, and consoles that are
related. -/
def Beside (consoles : σ → σ' → Prop) :
    EStateM.Result Failure (Machine σ) α → EStateM.Result Failure (Machine σ') α → Prop :=
  Agree
    (fun value after value' after' => value = value' ∧ after.state = after'.state ∧
      consoles after.console after'.console)
    fun failure after failure' after' => failure = failure' ∧ after.state = after'.state ∧
      consoles after.console after'.console

theorem Beside.ending {consoles : σ → σ' → Prop} {result : EStateM.Result Failure (Machine σ) α}
    {result' : EStateM.Result Failure (Machine σ') α} (beside : Beside consoles result result') :
    ending result = ending result' := by
  cases beside with
  | ok holds => exact congrArg Except.ok holds.1
  | error holds => exact congrArg Except.error holds.1

theorem Beside.final {consoles : σ → σ' → Prop} {result : EStateM.Result Failure (Machine σ) α}
    {result' : EStateM.Result Failure (Machine σ') α} (beside : Beside consoles result result') :
    (finalState result).state = (finalState result').state ∧
      consoles (finalState result).console (finalState result').console := by
  cases beside with
  | ok holds => exact holds.2
  | error holds => exact holds.2

variable [Console σ] [Console σ'] {p : Program} {config config' : Config}
  {X : Exchange config config' σ σ'}

theorem beside_of_settles {result : EStateM.Result Failure (Machine σ) α}
    {result' : EStateM.Result Failure (Machine σ') α}
    (settles : (Alignment.identity p).Settles X Eq result result') :
    Beside X.Consoles result result' := by
  apply settles.imp
  · rintro value after _ after' ⟨rfl, machines⟩
    exact ⟨rfl, machines.state.eq, machines.console⟩
  · rintro failure after failure' after' ⟨failures, machines⟩
    exact ⟨failures.eq, machines.state.eq, machines.console⟩

/-- Runs that collect the same labels start with the same state. -/
theorem start_beside (collects : ∀ cursor, Labels.collect p config.labelCapacity cursor =
      Labels.collect p config'.labelCapacity cursor) (state : State) {console : σ} {console' : σ'}
    (consoles : X.Consoles console console') :
    Agree (fun _ first _ first' => (Alignment.identity p).Machines X first first')
      (fun failure after failure' after' => failure = failure' ∧ after.state = after'.state ∧
        X.Consoles after.console after'.console)
      (start p config ⟨state, console⟩) (start p config' ⟨state, console'⟩) := by
  have collected :=
    (Alignment.identity p).collect_agrees config'.labelCapacity state.cursor state.cursor
  simp only [start, collects]
  generalize Labels.collect p config'.labelCapacity state.cursor = result at collected ⊢
  cases collected with
  | ok holds =>
    exact .ok ⟨⟨holds.2, holds.1, rfl, .nil, .nil, .nil, rfl, (Alignment.identity p).origin⟩,
      consoles⟩
  | error => exact .error ⟨rfl, rfl, consoles⟩

theorem run_beside (collects : ∀ cursor, Labels.collect p config.labelCapacity cursor =
      Labels.collect p config'.labelCapacity cursor) (steps : Nat) (state : State) {console : σ}
    {console' : σ'} (consoles : X.Consoles console console') :
    Beside X.Consoles (run p config steps ⟨state, console⟩)
      (run p config' steps ⟨state, console'⟩) := by
  apply (start_beside collects state consoles).bind
  intro _ first _ first' machines
  apply beside_of_settles (p := p)
  refine Agree.bind (Alignment.matches_loop steps machines) ?_
  rintro completion ended _ ended' ⟨rfl, atEnd⟩
  cases completion with
  | none => exact .ok ⟨rfl, atEnd⟩
  | some completion =>
    exact Alignment.matches_flush.bind (fun _ _ _ => Alignment.matches_pure rfl) atEnd

end Machine

/-! ### Listening to a run -/

/-- A console beside a record of the calls to it. -/
def Exchange.recorded (config : Config) (σ : Type) [Console σ] :
    Exchange config config σ (Recorded σ) where
  Consoles console recorded := recorded.console = console
  Texts := Eq
  Columns := Eq
  same_text := (same config σ).same_text
  prompt := (same config σ).prompt
  message := (same config σ).message
  first_column := (same config σ).first_column
  later_column := (same config σ).later_column
  padding := (same config σ).padding
  write := by
    rintro _ recorded text _ rfl rfl
    simp only [Console.write, Recorded.noting]
    cases Console.write text recorded.console with
    | ok => exact .ok rfl
    | error => exact .error ⟨rfl, rfl⟩
  flush := by
    rintro _ recorded rfl
    simp only [Console.flush, Recorded.noting]
    cases Console.flush recorded.console with
    | ok => exact .ok rfl
    | error => exact .error ⟨rfl, rfl⟩
  readLine := by
    rintro _ recorded rfl
    simp only [Console.readLine, Recorded.noting]
    cases Console.readLine recorded.console with
    | ok => exact .ok ⟨rfl, rfl⟩
    | error => exact .error ⟨rfl, rfl⟩

namespace Machine

variable {σ : Type}

/-- The machine with a record of the calls to its console, none of which has been made. -/
def recording (machine : Machine σ) : Machine (Recorded σ) :=
  ⟨machine.state, { console := machine.console }⟩

variable [Console σ]

/-- The calls that a run makes to its console within a number of steps, in their order. -/
def calls (p : Program) (config : Config) (steps : Nat) (machine : Machine σ) : List Call :=
  (finalState (run p config steps machine.recording)).console.calls.reverse

/-- Noting the calls of a run does not change it. -/
theorem run_recording (p : Program) (config : Config) (steps : Nat) (machine : Machine σ) :
    Beside (fun console recorded => recorded.console = console) (run p config steps machine)
      (run p config steps machine.recording) :=
  run_beside (X := .recorded config σ) (fun _ => rfl) steps machine.state rfl

end Machine

end LineBasic
