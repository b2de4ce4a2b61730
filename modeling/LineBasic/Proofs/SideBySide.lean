import LineBasic.Proofs.Alignment
import LineBasic.Run
import Mathlib.Data.List.Forall2

/-!
# Machines side by side

Two machines that run aligned programs are side by side when their cursors and all
offsets they have saved are at corresponding places, and all else is the same. They
may also differ in the settings and in the consoles they talk to, as long as what is
written on them corresponds; `Exchange` says what is needed of the consoles.

`MachinesAt` relates such machines and keeps track of the tokens ahead of the
cursors. `Matches` says of two computations that they lead machines side by side to
machines side by side, and holds here for what statements are made of.
-/

namespace LineBasic

namespace Alignment

variable {p p' : Program} (A : Alignment p p')

/-! ### Labels -/

/-- The same labels at corresponding places. A label is a number. -/
def Tables (labels labels' : Labels) : Prop :=
  List.Forall₂ (fun entry entry' => entry.1 = entry'.1 ∧ A.Same entry.2 entry'.2 ∧
    IsNumeral entry.1.toList) labels.entries labels'.entries

variable {A}

theorem Tables.find? {labels labels' : Labels} (tables : A.Tables labels labels')
    (label : String) : Option.Rel A.Same (labels.find? label) (labels'.find? label) := by
  obtain ⟨entries⟩ := labels
  obtain ⟨entries'⟩ := labels'
  simp only [Tables, Labels.find?] at tables ⊢
  induction tables with
  | nil => exact .none
  | @cons entry entry' _ _ related _ ih =>
    obtain ⟨key, place⟩ := entry
    obtain ⟨key', place'⟩ := entry'
    obtain ⟨rfl, same, -⟩ := related
    rw [List.lookup_cons, List.lookup_cons]
    cases label == key with
    | true => exact .some same
    | false => exact ih

/-- A name is never a label. -/
theorem Tables.find?_name {labels labels' : Labels} (tables : A.Tables labels labels')
    {text text' : String} (letter : SameLetter text text') :
    labels.find? text = none ∧ labels'.find? text' = none := by
  obtain ⟨entries⟩ := labels
  obtain ⟨entries'⟩ := labels'
  simp only [Tables, Labels.find?] at tables ⊢
  induction tables with
  | nil => exact ⟨rfl, rfl⟩
  | @cons entry entry' _ _ related _ ih =>
    obtain ⟨key, place⟩ := entry
    obtain ⟨key', place'⟩ := entry'
    obtain ⟨rfl, -, numeral⟩ := related
    -- a label starts with a digit, and these names do not
    have other : (text == key) = false := by
      rw [beq_eq_false_iff_ne]
      rintro rfl
      exact letter.not_isNumeral.1 numeral
    have other' : (text' == key) = false := by
      rw [beq_eq_false_iff_ne]
      rintro rfl
      exact letter.not_isNumeral.2 numeral
    rw [List.lookup_cons, List.lookup_cons, other, other']
    exact ih

theorem Tables.add {labels labels' : Labels} (tables : A.Tables labels labels')
    (capacity : Option Nat) {label : String} (numeral : IsNumeral label.toList)
    {offset offset' : Nat} (same : A.Same offset offset') :
    (∃ failure, labels.add capacity label offset = .error failure ∧
      labels'.add capacity label offset' = .error failure) ∨
    ∃ more more', labels.add capacity label offset = .ok more ∧
      labels'.add capacity label offset' = .ok more' ∧ A.Tables more more' := by
  have present : (labels.find? label).isSome = (labels'.find? label).isSome := by
    have found := tables.find? label
    generalize labels.find? label = place at found ⊢
    generalize labels'.find? label = place' at found ⊢
    cases found <;> rfl
  have size : labels.length = labels'.length := List.Forall₂.length_eq tables
  have longer : A.Tables ⟨labels.entries ++ [(label, offset)]⟩
      ⟨labels'.entries ++ [(label, offset')]⟩ :=
    List.rel_append tables (.cons ⟨rfl, same, numeral⟩ .nil)
  -- both tables have the label or neither has, and both are full or neither is
  simp only [Labels.add, ← present, ← size]
  split
  · exact .inl ⟨_, rfl, rfl⟩
  · cases capacity with
    | none => exact .inr ⟨_, _, rfl, rfl, longer⟩
    | some capacity =>
      by_cases full : capacity ≤ labels.length
      · simp only [if_pos full]
        exact .inl ⟨_, rfl, rfl⟩
      · simp only [if_neg full]
        exact .inr ⟨_, _, rfl, rfl, longer⟩

/-- The outcomes of collecting labels. -/
def Collects (A : Alignment p p') :
    EStateM.Result Failure Cursor Labels → EStateM.Result Failure Cursor Labels → Prop :=
  Agree (fun labels last labels' last' => A.Tables labels labels' ∧
      A.Cursors A.far A.far last last')
    fun failure last failure' last' => failure = failure' ∧ A.Cursors A.far A.far last last'

theorem collectFrom_agrees (capacity : Option Nat) {lines lines' ahead : Nat}
    {labels labels' : Labels} {cursor cursor' : Cursor} (tables : A.Tables labels labels')
    (place : A.Place ahead cursor.offset cursor'.offset) (room : ahead < lines)
    (room' : ahead < lines') :
    A.Collects (Labels.collectFrom p capacity lines labels cursor)
      (Labels.collectFrom p' capacity lines' labels' cursor') := by
  induction lines generalizing lines' ahead labels labels' cursor cursor' with
  | zero => omega
  | succ lines ih =>
    obtain ⟨lines', rfl⟩ : ∃ shorter, lines' = shorter + 1 := ⟨lines' - 1, by omega⟩
    rw [Labels.collectFrom, Labels.collectFrom]
    change Agree _ _ ((Cursor.next p >>= fun _ => _) cursor)
      ((Cursor.next p' >>= fun _ => _) cursor')
    -- only the first token of a line is read
    refine ((next_agrees place).imp (fun _ _ _ _ holds => holds)
      fun _ _ _ _ holds => ⟨holds.1, holds.2.shorten⟩).bind ?_
    rintro token after token' after' ⟨found, alike, behind, leads⟩
    -- with or without a label, the next line starts with fewer tokens ahead
    have skips : ∀ {labels labels' : Labels}, A.Tables labels labels' → token ≠ .endOfProgram →
        A.Collects
          ((do modify (Cursor.skipLine p); Labels.collectFrom p capacity lines labels) after)
          ((do modify (Cursor.skipLine p'); Labels.collectFrom p' capacity lines' labels')
            after') := by
      intro labels labels' tables going
      obtain ⟨fewer, less, cursors⟩ := leads going
      have skipped : A.Cursors fewer fewer (after.skipLine p) (after'.skipLine p') :=
        skipLine_agrees cursors.offset
      exact ih tables skipped.offset (by omega) (by omega)
    cases A.alike alike with
    | renamed => exact skips tables (by simp)
    | same =>
      cases token with
      | endOfProgram => exact .ok ⟨tables, behind.shorten⟩
      | endOfLine =>
        obtain ⟨fewer, less, cursors⟩ := leads (by simp)
        exact ih tables cursors.offset (by omega) (by omega)
      | number label =>
        have numeral : IsNumeral label.toList := p.read_wellFormed found (by simp)
        rcases tables.add capacity numeral (A.shorten place) with
          ⟨failure, failed, failed'⟩ | ⟨more, more', added, added', longer⟩
        · simp only [failed, failed']
          exact .error ⟨rfl, behind.shorten⟩
        · simp only [added, added']
          exact skips longer (by simp)
      | delimiter sign => exact skips tables (by simp)
      | name text => exact skips tables (by simp)
      | keyword word => exact skips tables (by simp)
      | quoted text => exact skips tables (by simp)

theorem collect_agrees (A : Alignment p p') (capacity : Option Nat) (cursor cursor' : Cursor) :
    A.Collects (Labels.collect p capacity cursor) (Labels.collect p' capacity cursor') := by
  have start : A.Cursors A.far A.far (Cursor.jump p 0) (Cursor.jump p' 0) := jump_agrees A.origin
  have collected := @collectFrom_agrees p p' A capacity (p.length + 1) (p'.length + 1) A.far {} {}
    (Cursor.jump p 0) (Cursor.jump p' 0) .nil start.offset A.far_lt.1 A.far_lt.2
  change Agree _ _ ((Labels.collectFrom p capacity (p.length + 1) {} >>= fun _ => _) _)
    ((Labels.collectFrom p' capacity (p'.length + 1) {} >>= fun _ => _) _)
  refine collected.bind ?_
  rintro labels _ labels' _ ⟨tables, -⟩
  exact .ok ⟨tables, start⟩

end Alignment

/-! ### Machines -/

/-- Consoles on which the same is answered, whatever is written. Texts and columns
that correspond may differ only where the settings do. -/
structure Exchange (config config' : Config) (σ σ' : Type) [Console σ] [Console σ'] where
  Consoles : σ → σ' → Prop
  Texts : String → String → Prop
  Columns : Nat → Nat → Prop
  same_text : ∀ text, Texts text text
  prompt : Texts config.inputPrompt config'.inputPrompt
  message : Texts (config.invalidInputMessage ++ "\n") (config'.invalidInputMessage ++ "\n")
  first_column : Columns 0 0
  later_column : ∀ {column column'}, Columns column column' → ∀ count,
    Columns (column + count) (column' + count)
  padding : ∀ {column column'}, Columns column column' →
    Texts (String.ofList (List.replicate (config.padding column) ' '))
      (String.ofList (List.replicate (config'.padding column') ' ')) ∧
    Columns (column + config.padding column) (column' + config'.padding column')
  write : ∀ {console console' text text'}, Consoles console console' → Texts text text' →
    Agree (fun _ after _ after' => Consoles after after')
      (fun reason after reason' after' => reason = reason' ∧ Consoles after after')
      (Console.write text console) (Console.write text' console')
  flush : ∀ {console console'}, Consoles console console' →
    Agree (fun _ after _ after' => Consoles after after')
      (fun reason after reason' after' => reason = reason' ∧ Consoles after after')
      (Console.flush console) (Console.flush console')
  readLine : ∀ {console console'}, Consoles console console' →
    Agree (fun line after line' after' => line = line' ∧ Consoles after after')
      (fun reason after reason' after' => reason = reason' ∧ Consoles after after')
      (Console.readLine console) (Console.readLine console')

/-- A console beside itself. -/
def Exchange.same (config : Config) (σ : Type) [Console σ] : Exchange config config σ σ where
  Consoles := Eq
  Texts := Eq
  Columns := Eq
  same_text _ := rfl
  prompt := rfl
  message := rfl
  first_column := rfl
  later_column same _ := by rw [same]
  padding same := by rw [same]; exact ⟨rfl, rfl⟩
  write := by
    rintro console _ text _ rfl rfl
    exact (Agree.refl _).imp (fun _ _ _ _ holds => holds.2) fun _ _ _ _ holds => holds
  flush := by
    rintro console _ rfl
    exact (Agree.refl _).imp (fun _ _ _ _ holds => holds.2) fun _ _ _ _ holds => holds
  readLine := by
    rintro console _ rfl
    exact Agree.refl _

namespace Alignment

variable {p p' : Program} (A : Alignment p p')

/-- The same failure, except for the name that is no label. -/
inductive Failures : Failure → Failure → Prop
  | same (failure : Failure) : Failures failure failure
  | renamed {text text' : String} (alike : A.Alike (.name text) (.name text')) :
      Failures (.undefinedLabel text) (.undefinedLabel text')

structure Frames (frame frame' : ForFrame) : Prop where
  letter : frame.letter = frame'.letter
  target : frame.target = frame'.target
  resume : A.Same frame.resume frame'.resume

structure States (ahead before : Nat) (state state' : State) : Prop where
  cursor : A.Cursors ahead before state.cursor state'.cursor
  labels : A.Tables state.labels state'.labels
  store : state.store = state'.store
  forStack : List.Forall₂ A.Frames state.forStack state'.forStack
  gosubStack : List.Forall₂ A.Same state.gosubStack state'.gosubStack
  repeatStack : List.Forall₂ A.Same state.repeatStack state'.repeatStack
  warnings : state.warnings = state'.warnings
  statementStart : A.Same state.statementStart state'.statementStart

section Machines

variable {config config' : Config} {σ σ' : Type} [Console σ] [Console σ']
  (X : Exchange config config' σ σ')

structure MachinesAt (ahead before : Nat) (machine : Machine σ) (machine' : Machine σ') :
    Prop where
  state : A.States ahead before machine.state machine'.state
  console : X.Consoles machine.console machine'.console

/-- Machines side by side, however many tokens follow. -/
def Machines : Machine σ → Machine σ' → Prop := A.MachinesAt X A.far A.far

/-- What two computations leave that fail. -/
def Fails (failure : Failure) (machine : Machine σ) (failure' : Failure)
    (machine' : Machine σ') : Prop :=
  A.Failures failure failure' ∧ A.Machines X machine machine'

/-- The outcomes of two computations on machines. -/
def Settles {α : Type} (values : α → α → Prop) :
    EStateM.Result Failure (Machine σ) α → EStateM.Result Failure (Machine σ') α → Prop :=
  Agree (fun value machine value' machine' => values value value' ∧ A.Machines X machine machine')
    (A.Fails X)

/-- The computations lead machines side by side to machines side by side. -/
def Matches {α : Type} (values : α → α → Prop) (exec : Exec σ α) (exec' : Exec σ' α) : Prop :=
  ∀ ⦃machine machine'⦄, A.Machines X machine machine' →
    A.Settles X values (exec machine) (exec' machine')

variable {A X}

theorem MachinesAt.shorten {ahead before : Nat} {machine : Machine σ} {machine' : Machine σ'}
    (machines : A.MachinesAt X ahead before machine machine') : A.Machines X machine machine' where
  state := { machines.state with cursor := machines.state.cursor.shorten }
  console := machines.console

theorem MachinesAt.widen {ahead before further since : Nat} {machine : Machine σ}
    {machine' : Machine σ'} (machines : A.MachinesAt X ahead before machine machine')
    (le : ahead ≤ further) (le' : before ≤ since) :
    A.MachinesAt X further since machine machine' where
  state := { machines.state with cursor := machines.state.cursor.widen le le' }
  console := machines.console

theorem MachinesAt.withCursor {ahead before further since : Nat} {machine : Machine σ}
    {machine' : Machine σ'} {cursor cursor' : Cursor}
    (machines : A.MachinesAt X ahead before machine machine')
    (cursors : A.Cursors further since cursor cursor') :
    A.MachinesAt X further since ⟨{ machine.state with cursor }, machine.console⟩
      ⟨{ machine'.state with cursor := cursor' }, machine'.console⟩ where
  state := { machines.state with cursor := cursors }
  console := machines.console

/-! ### Parts of statements -/

section Sequences

variable {α β : Type} {values : α → α → Prop} {further : β → β → Prop}

theorem Matches.bind {exec : Exec σ α} {exec' : Exec σ' α} {next : α → Exec σ β}
    {next' : α → Exec σ' β} (matched : A.Matches X values exec exec')
    (goes : ∀ value value', values value value' → A.Matches X further (next value) (next' value')) :
    A.Matches X further (exec >>= next) (exec' >>= next') := by
  intro machine machine' machines
  refine Agree.bind (matched machines) ?_
  intro value after value' after' holds
  exact goes value value' holds.1 holds.2

theorem matches_pure {value value' : α} (holds : values value value') :
    A.Matches X values (pure value : Exec σ α) (pure value' : Exec σ' α) :=
  fun _ _ machines => .ok ⟨holds, machines⟩

theorem matches_throw {failure failure' : Failure} (holds : A.Failures failure failure') :
    A.Matches X values (throw failure : Exec σ α) (throw failure' : Exec σ' α) :=
  fun _ _ machines => .error ⟨holds, machines⟩

end Sequences

theorem matches_getState :
    A.Matches X (A.States A.far A.far) (Exec.getState : Exec σ State) Exec.getState :=
  fun _ _ machines => .ok ⟨machines.state, machines⟩

theorem matches_modifyState {change change' : State → State}
    (kept : ∀ state state', A.States A.far A.far state state' →
      A.States A.far A.far (change state) (change' state')) :
    A.Matches X Eq (Exec.modifyState change : Exec σ Unit) (Exec.modifyState change') :=
  fun _ _ machines => .ok ⟨rfl, kept _ _ machines.state, machines.console⟩

section Cursor

variable {ahead before : Nat} {machine : Machine σ} {machine' : Machine σ'}

theorem onCursor_agrees {α : Type} {scan scan' : Scan α} {ok : α → Cursor → α → Cursor → Prop}
    {further : α → Machine σ → α → Machine σ' → Prop} {since until' : Nat}
    (machines : A.MachinesAt X ahead before machine machine')
    (ran : Agree ok (fun failure last failure' last' => failure = failure' ∧
      A.Cursors since until' last last') (scan machine.state.cursor) (scan' machine'.state.cursor))
    (lift : ∀ value cursor value' cursor', ok value cursor value' cursor' →
      further value ⟨{ machine.state with cursor }, machine.console⟩
        value' ⟨{ machine'.state with cursor := cursor' }, machine'.console⟩) :
    Agree further
      (A.Fails X)
      (Exec.onCursor scan machine) (Exec.onCursor scan' machine') := by
  simp only [Exec.onCursor]
  generalize scan machine.state.cursor = result at ran ⊢
  generalize scan' machine'.state.cursor = result' at ran ⊢
  cases ran with
  | ok holds => exact .ok (lift _ _ _ _ holds)
  | error holds =>
    -- a failure keeps the cursor, but not the count of the tokens ahead of it
    obtain ⟨rfl, cursors⟩ := holds
    exact .error ⟨.same _, (machines.withCursor cursors).shorten⟩

theorem next_at (machines : A.MachinesAt X ahead before machine machine') :
    Agree (fun token last token' last' => A.Alike token token' ∧
        A.MachinesAt X ahead ahead last last' ∧
        (token ≠ .endOfProgram → ∃ fewer < ahead, A.MachinesAt X fewer ahead last last'))
      (A.Fails X)
      (Exec.next p machine) (Exec.next p' machine') := by
  refine onCursor_agrees machines (next_agrees machines.state.cursor.offset) ?_
  rintro token cursor token' cursor' ⟨-, alike, cursors, leads⟩
  refine ⟨alike, machines.withCursor cursors, ?_⟩
  intro going
  obtain ⟨fewer, less, further⟩ := leads going
  exact ⟨fewer, less, machines.withCursor further⟩

theorem giveBack_at (machines : A.MachinesAt X ahead before machine machine')
    (le : ahead ≤ before) :
    Agree (fun _ last _ last' => A.MachinesAt X before A.far last last')
      (A.Fails X)
      (Exec.giveBack machine) (Exec.giveBack machine') :=
  .ok (machines.withCursor (giveBack_agrees machines.state.cursor le))

theorem evaluate_at (machines : A.MachinesAt X ahead before machine machine')
    (short : ahead ≤ A.far) :
    Agree (fun value last value' last' => value = value' ∧ A.MachinesAt X ahead A.far last last')
      (A.Fails X)
      (Exec.evaluate p machine) (Exec.evaluate p' machine') := by
  change Agree _ _ (Exec.onCursor (Expression.evaluate p machine.state.store) machine)
    (Exec.onCursor (Expression.evaluate p' machine'.state.store) machine')
  -- both sides evaluate with the same variables
  rw [← machines.state.store]
  refine onCursor_agrees machines
    (evaluate_agrees machine.state.store short machines.state.cursor.offset) ?_
  rintro value cursor value' cursor' ⟨rfl, cursors⟩
  exact ⟨rfl, machines.withCursor cursors⟩

end Cursor

theorem matches_next : A.Matches X A.Alike (Exec.next p : Exec σ Token) (Exec.next p') := by
  intro machine machine' machines
  refine (next_at machines).imp ?_ fun _ _ _ _ holds => holds
  exact fun _ _ _ _ holds => ⟨holds.1, holds.2.1.shorten⟩

theorem matches_giveBack : A.Matches X Eq (Exec.giveBack : Exec σ Unit) Exec.giveBack := by
  intro machine machine' machines
  refine (giveBack_at machines (Nat.le_refl _)).imp ?_ fun _ _ _ _ holds => holds
  exact fun _ _ _ _ holds => ⟨rfl, holds.shorten⟩

theorem matches_evaluate :
    A.Matches X Eq (Exec.evaluate p : Exec σ Float) (Exec.evaluate p') := by
  intro machine machine' machines
  refine (evaluate_at machines (Nat.le_refl _)).imp ?_ fun _ _ _ _ holds => holds
  exact fun _ _ _ _ holds => ⟨holds.1, holds.2.shorten⟩

theorem matches_skipLine :
    A.Matches X Eq (Exec.skipLine p : Exec σ Unit) (Exec.skipLine p') := by
  intro machine machine' machines
  have skipped : A.Cursors A.far A.far (machine.state.cursor.skipLine p)
      (machine'.state.cursor.skipLine p') := skipLine_agrees machines.state.cursor.offset
  exact .ok ⟨rfl, machines.withCursor skipped⟩

theorem matches_assign (letter : Letter) (value : Float) :
    A.Matches X Eq (Exec.assign letter value : Exec σ Unit) (Exec.assign letter value) := by
  apply matches_modifyState
  intro state state' states
  exact { states with store := by rw [states.store] }

theorem matches_markStatement :
    A.Matches X Eq (Exec.markStatement : Exec σ Unit) Exec.markStatement := by
  apply matches_modifyState
  intro state state' states
  exact { states with statementStart := states.cursor.offset }

section Console

variable {ahead before : Nat} {machine : Machine σ} {machine' : Machine σ'}

theorem onConsole_at {α : Type} (cause : String → Failure) {call : EStateM String σ α}
    {call' : EStateM String σ' α} (machines : A.MachinesAt X ahead before machine machine')
    (called : Agree (fun value after value' after' => value = value' ∧ X.Consoles after after')
      (fun reason after reason' after' => reason = reason' ∧ X.Consoles after after')
      (call machine.console) (call' machine'.console)) :
    Agree (fun value last value' last' => value = value' ∧ A.MachinesAt X ahead before last last')
      (A.Fails X)
      (Exec.onConsole cause call machine) (Exec.onConsole cause call' machine') := by
  simp only [Exec.onConsole]
  generalize call machine.console = result at called ⊢
  generalize call' machine'.console = result' at called ⊢
  cases called with
  | ok holds => exact .ok ⟨holds.1, machines.state, holds.2⟩
  | error holds =>
    obtain ⟨rfl, consoles⟩ := holds
    exact .error ⟨.same _, machines.shorten.state, consoles⟩

theorem write_at {text text' : String} (machines : A.MachinesAt X ahead before machine machine')
    (texts : X.Texts text text') :
    Agree (fun value last value' last' => value = value' ∧ A.MachinesAt X ahead before last last')
      (A.Fails X)
      (Exec.write text machine) (Exec.write text' machine') :=
  onConsole_at .outputFailed machines <|
    (X.write machines.console texts).imp (fun _ _ _ _ holds => ⟨rfl, holds⟩)
      fun _ _ _ _ holds => holds

end Console

theorem matches_write {text text' : String} (texts : X.Texts text text') :
    A.Matches X Eq (Exec.write text : Exec σ Unit) (Exec.write text') :=
  fun _ _ machines => write_at machines texts

theorem matches_flush : A.Matches X Eq (Exec.flush : Exec σ Unit) Exec.flush :=
  fun _ _ machines => onConsole_at .outputFailed machines <|
    (X.flush machines.console).imp (fun _ _ _ _ holds => ⟨rfl, holds⟩) fun _ _ _ _ holds => holds

theorem matches_readLine :
    A.Matches X Eq (Exec.readLine : Exec σ (Option String)) Exec.readLine :=
  fun _ _ machines => onConsole_at .inputFailed machines (X.readLine machines.console)

end Machines

end Alignment

end LineBasic
