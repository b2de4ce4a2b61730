import LineBasic.Proofs.SideBySide

/-!
# Aligned programs run alike

Each statement leads machines side by side to machines side by side, so a step does,
and by induction every number of steps.

Two loops inside statements, over the items of PRINT and over the body of a FOR that
is not entered, run on budgets that depend on the lengths of the programs. They are
matched while both budgets exceed the tokens ahead of the cursors.
-/

namespace LineBasic.Alignment

open Statement

variable {p p' : Program} {A : Alignment p p'} {config config' : Config} {σ σ' : Type}
  [Console σ] [Console σ'] {X : Exchange config config' σ σ'}

/-! ### Parts of statements -/

theorem matches_ofExcept {α : Type} (result : Except Failure α) :
    A.Matches X Eq (MonadExcept.ofExcept result : Exec σ α) (MonadExcept.ofExcept result) := by
  cases result with
  | ok value => exact matches_pure rfl
  | error failure => exact matches_throw (.same failure)

theorem matches_letter {text text' : String} (alike : A.Alike (.name text) (.name text')) :
    A.Matches X Eq (MonadExcept.ofExcept (Letter.ofName text) : Exec σ Letter)
      (MonadExcept.ofExcept (Letter.ofName text')) := by
  cases A.alike alike with
  | same => exact matches_ofExcept _
  | renamed letter =>
    -- both names mean the variable of their first letter
    obtain ⟨meant, known, known'⟩ := letter.ofName?
    rw [Letter.ofName, Letter.ofName, known, known']
    exact matches_pure rfl

theorem matches_expectVariable :
    A.Matches X Eq (expectVariable p : Exec σ Letter) (expectVariable p') := by
  refine matches_next.bind ?_
  intro token token' alike
  cases A.alike alike with
  | renamed letter => exact matches_letter alike
  | same =>
    cases token with
    | name text => exact matches_letter alike
    | _ => exact matches_throw (.same _)

theorem Matches.map {α β : Type} {values : α → α → Prop} {exec : Exec σ α} {exec' : Exec σ' α}
    (matched : A.Matches X values exec exec') (f : α → β)
    (same : ∀ value value', values value value' → f value = f value') :
    A.Matches X Eq (f <$> exec) (f <$> exec') := by
  rw [map_eq_pure_bind, map_eq_pure_bind]
  exact matched.bind fun value value' holds => matches_pure (same value value' holds)

theorem matches_optionalVariable :
    A.Matches X Eq (optionalVariable p : Exec σ (Option Letter)) (optionalVariable p') := by
  refine matches_next.bind ?_
  intro token token' alike
  cases A.alike alike with
  | renamed letter => exact (matches_letter alike).map some fun _ _ same => congrArg some same
  | same =>
    cases token with
    | name text => exact (matches_letter alike).map some fun _ _ same => congrArg some same
    | _ => exact matches_giveBack.bind fun _ _ _ => matches_pure rfl

theorem matches_require_then {α : Type} {values : α → α → Prop} {condition condition' : Prop}
    [Decidable condition] [Decidable condition'] (same : condition ↔ condition')
    (failure : Failure) {next : Unit → Exec σ α} {next' : Unit → Exec σ' α}
    (goes : A.Matches X values (next ()) (next' ())) :
    A.Matches X values (if condition then next () else throw failure >>= next)
      (if condition' then next' () else throw failure >>= next') := by
  by_cases met : condition
  · rw [if_pos met, if_pos (same.mp met)]
    exact goes
  · rw [if_neg met, if_neg (mt same.mpr met)]
    exact fun _ _ machines => .error ⟨.same failure, machines⟩

theorem matches_demand {token token' : Token} (alike : A.Alike token token') (wanted : Token)
    (unnamed : ∀ text, wanted ≠ .name text) (failure : Failure) :
    A.Matches X Eq (if token = wanted then pure () else throw failure : Exec σ Unit)
      (if token' = wanted then pure () else throw failure) :=
  matches_require_then ((A.alike alike).eq_iff wanted unnamed) failure (matches_pure rfl)

theorem matches_expectEqualSign :
    A.Matches X Eq (expectEqualSign p : Exec σ Unit) (expectEqualSign p') :=
  matches_next.bind fun _ _ alike => matches_demand alike _ (by simp) _

theorem matches_expectLabel :
    A.Matches X A.Same (expectLabel p : Exec σ Nat) (expectLabel p') := by
  refine matches_next.bind ?_
  intro token token' alike
  cases A.alike alike with
  | renamed letter =>
    -- a name is in neither table
    refine matches_getState.bind ?_
    intro state state' states
    obtain ⟨missing, missing'⟩ := states.labels.find?_name letter
    rw [missing, missing']
    exact matches_throw (.renamed alike)
  | same =>
    cases token with
    | number label | name label =>
      refine matches_getState.bind ?_
      intro state state' states
      have found := states.labels.find? label
      generalize state.labels.find? label = place at found ⊢
      generalize state'.labels.find? label = place' at found ⊢
      cases found with
      | some same => exact matches_pure same
      | none => exact matches_throw (.same _)
    | _ => exact matches_throw (.same _)

/-! ### Assignment -/

theorem matches_assignment :
    A.Matches X Eq (assignment p : Exec σ Unit) (assignment p') := by
  refine matches_expectVariable.bind ?_
  rintro letter _ rfl
  refine matches_expectEqualSign.bind ?_
  intro _ _ _
  refine matches_evaluate.bind ?_
  rintro value _ rfl
  exact matches_assign letter value

/-! ### PRINT and INPUT -/

section Print

variable {ahead before : Nat} {machine : Machine σ} {machine' : Machine σ'}

theorem printItem_at {fewer : Nat} {token token' : Token} (alike : A.Alike token token')
    (machines : A.MachinesAt X fewer ahead machine machine') (le : fewer ≤ ahead)
    (short : ahead ≤ A.far) :
    Agree (fun text last text' last' => text = text' ∧ A.MachinesAt X ahead A.far last last')
      (A.Fails X)
      (printItem p token machine) (printItem p' token' machine') := by
  have evaluated : Agree
      (fun text last text' last' => text = text' ∧ A.MachinesAt X ahead A.far last last')
      (A.Fails X)
      ((do Exec.giveBack; return Number.display (← Exec.evaluate p) : Exec σ String) machine)
      ((do Exec.giveBack; return Number.display (← Exec.evaluate p') : Exec σ' String)
        machine') := by
    -- the token in hand is the first of the expression
    refine (giveBack_at machines le).bind ?_
    intro _ after _ after' back
    refine (evaluate_at back short).bind ?_
    rintro value last _ last' ⟨rfl, behind⟩
    exact .ok ⟨rfl, behind⟩
  cases A.alike alike with
  | renamed letter => exact evaluated
  | same =>
    cases token with
    | quoted text => exact .ok ⟨rfl, machines.widen le short⟩
    | _ => exact evaluated

/-- The items of PRINT are printed alike with any two budgets that exceed the tokens
ahead: each item but the last is followed by a separator. -/
theorem printFrom_agrees {items items' column column' : Nat} (separated : Bool)
    (columns : X.Columns column column')
    (machines : A.MachinesAt X ahead before machine machine') (short : ahead ≤ A.far)
    (room : ahead < items) (room' : ahead < items') :
    A.Settles X Eq (printFrom p config items column separated machine)
      (printFrom p' config' items' column' separated machine') := by
  induction items generalizing items' ahead before column column' separated machine machine' with
  | zero => omega
  | succ items ih =>
    obtain ⟨items', rfl⟩ : ∃ shorter, items' = shorter + 1 := ⟨items' - 1, by omega⟩
    rw [printFrom, printFrom]
    refine (next_at machines).bind ?_
    rintro token after token' after' ⟨alike, behind, leads⟩
    rw [← (A.alike alike).endsLine_eq]
    by_cases ends : token.endsLine = true
    · -- the list ends here, and a separator before keeps the line open
      rw [if_pos ends, if_pos ends]
      cases separated with
      | true => exact .ok ⟨rfl, behind.shorten⟩
      | false => exact matches_write (X.same_text "\n") behind.shorten
    · rw [if_neg ends, if_neg ends]
      obtain ⟨fewer, less, further⟩ := leads (by rintro rfl; exact ends rfl)
      refine (printItem_at alike further (Nat.le_of_lt less) short).bind ?_
      rintro text afterItem _ afterItem' ⟨rfl, item⟩
      -- of an item it is only known that it does not go back; the separator leads on
      refine (write_at item (X.same_text text)).bind ?_
      rintro _ written _ written' ⟨-, writing⟩
      refine (next_at writing).bind ?_
      rintro separator last separator' last' ⟨alikeSeparator, final, goes⟩
      cases A.alike alikeSeparator with
      | renamed letter => exact .error ⟨.same _, final.shorten⟩
      | same =>
        cases separator with
        | delimiter sign =>
          -- with the separator passed, there are fewer tokens ahead than at the start of the item
          obtain ⟨least, lesser, onward⟩ := goes (by simp)
          cases sign with
          | comma =>
            obtain ⟨blanks, column⟩ := X.padding (X.later_column columns text.length)
            refine (write_at onward blanks).bind ?_
            rintro _ padded _ padded' ⟨-, padding⟩
            exact ih true column padding (by omega) (by omega) (by omega)
          | semicolon =>
            refine (write_at onward (X.same_text " ")).bind ?_
            rintro _ blanked _ blanked' ⟨-, blank⟩
            exact ih true (X.later_column (X.later_column columns text.length) 1) blank (by omega)
              (by omega) (by omega)
          | _ => exact .error ⟨.same _, final.shorten⟩
        | endOfLine => exact matches_write (X.same_text "\n") final.shorten
        | endOfProgram => exact matches_write (X.same_text "\n") final.shorten
        | _ => exact .error ⟨.same _, final.shorten⟩

end Print

theorem matches_print :
    A.Matches X Eq (print p config : Exec σ Unit) (print p' config') :=
  fun _ _ machines => printFrom_agrees false X.first_column machines (Nat.le_refl _) A.far_lt.1
    A.far_lt.2

theorem matches_prompt :
    A.Matches X Eq (prompt p config : Exec σ Unit) (prompt p' config') := by
  refine matches_next.bind ?_
  intro token token' alike
  cases A.alike alike with
  | renamed letter => exact matches_giveBack.bind fun _ _ _ => matches_write X.prompt
  | same =>
    cases token with
    | quoted text =>
      refine (matches_write (X.same_text text)).bind fun _ _ _ => ?_
      exact matches_next.bind fun _ _ comma => matches_demand comma _ (by simp) _
    | _ => exact matches_giveBack.bind fun _ _ _ => matches_write X.prompt

theorem matches_reject (line : String) :
    A.Matches X Eq (reject p config line : Exec σ Unit) (reject p' config' line) := by
  refine (matches_write X.message).bind fun _ _ _ => ?_
  apply matches_modifyState
  intro state state' states
  exact { states with warnings := by rw [A.line states.statementStart, states.warnings] }

theorem matches_input :
    A.Matches X Eq (input p config : Exec σ Unit) (input p' config') := by
  refine matches_prompt.bind fun _ _ _ => ?_
  refine matches_expectVariable.bind ?_
  rintro letter _ rfl
  refine matches_flush.bind fun _ _ _ => ?_
  refine matches_readLine.bind ?_
  rintro line _ rfl
  cases line with
  | none => exact matches_throw (.same _)
  | some line =>
    dsimp only
    cases Number.parse? (Text.trim line.toList) with
    | some value => exact matches_assign letter value
    | none => exact matches_reject line

/-! ### Jumps -/

/-- Where runs side by side go on. -/
inductive Flows (A : Alignment p p') : Flow → Flow → Prop
  | onward : Flows A .onward .onward
  | jump {target target' : Nat} (same : A.Same target target') :
      Flows A (.jump target) (.jump target')
  | halt : Flows A .halt .halt

theorem matches_goto : A.Matches X A.Flows (goto p : Exec σ Flow) (goto p') :=
  matches_expectLabel.bind fun _ _ same => matches_pure (.jump same)

theorem matches_callSub : A.Matches X A.Flows (callSub p : Exec σ Flow) (callSub p') := by
  refine matches_expectLabel.bind ?_
  intro target target' same
  refine Matches.bind (matches_modifyState ?_) fun _ _ _ => matches_pure (.jump same)
  intro state state' states
  exact { states with gosubStack := .cons states.cursor.offset states.gosubStack }

theorem matches_returnFromSub :
    A.Matches X A.Flows (returnFromSub : Exec σ Flow) returnFromSub := by
  refine matches_getState.bind ?_
  intro state state' states
  have pairs := states.gosubStack
  generalize state.gosubStack = stack at pairs ⊢
  generalize state'.gosubStack = stack' at pairs ⊢
  cases pairs with
  | nil => exact matches_throw (.same _)
  | cons same rest =>
    refine Matches.bind (matches_modifyState ?_) fun _ _ _ => matches_pure (.jump same)
    intro state state' states
    exact { states with gosubStack := rest }

theorem matches_branch : A.Matches X Eq (branch p : Exec σ Unit) (branch p') := by
  refine matches_evaluate.bind ?_
  rintro value _ rfl
  by_cases holds : (value != 0.0) = true
  · rw [if_pos holds, if_pos holds]
    exact matches_next.bind fun _ _ alike => matches_demand alike _ (by simp) _
  · rw [if_neg holds, if_neg holds]
    exact matches_skipLine

/-! ### FOR loops -/

theorem skipToNext_agrees {tokens tokens' ahead before : Nat} {machine : Machine σ}
    {machine' : Machine σ'} (machines : A.MachinesAt X ahead before machine machine')
    (room : ahead < tokens) (room' : ahead < tokens') :
    A.Settles X Eq (skipToNext p tokens machine) (skipToNext p' tokens' machine') := by
  induction tokens generalizing tokens' ahead before machine machine' with
  | zero => omega
  | succ tokens ih =>
    obtain ⟨tokens', rfl⟩ : ∃ shorter, tokens' = shorter + 1 := ⟨tokens' - 1, by omega⟩
    rw [skipToNext, skipToNext]
    refine (next_at machines).bind ?_
    rintro token after token' after' ⟨alike, behind, leads⟩
    -- every token but the end of the program uses up one of either budget
    have goes : token ≠ .endOfProgram →
        A.Settles X Eq (skipToNext p tokens after) (skipToNext p' tokens' after') := by
      intro going
      obtain ⟨fewer, less, further⟩ := leads going
      exact ih further (by omega) (by omega)
    cases A.alike alike with
    | renamed letter => exact goes (by simp)
    | same =>
      cases token with
      | endOfProgram => exact .ok ⟨rfl, behind.shorten⟩
      | keyword word =>
        cases word with
        | NEXT =>
          exact (matches_optionalVariable.map (fun _ => ()) fun _ _ _ => rfl) behind.shorten
        | _ => exact goes (by simp)
      | _ => exact goes (by simp)

theorem matches_enterFor : A.Matches X Eq (enterFor p : Exec σ Unit) (enterFor p') := by
  refine matches_expectVariable.bind ?_
  rintro letter _ rfl
  refine matches_expectEqualSign.bind fun _ _ _ => ?_
  refine matches_evaluate.bind ?_
  rintro start _ rfl
  refine (matches_assign letter start).bind fun _ _ _ => ?_
  refine matches_next.bind ?_
  intro token token' alike
  refine matches_require_then ((A.alike alike).eq_iff (.keyword .TO) (by simp)) .toExpected ?_
  refine matches_evaluate.bind ?_
  rintro target _ rfl
  by_cases entered : start ≤ target
  · rw [if_pos entered, if_pos entered]
    apply matches_modifyState
    intro state state' states
    exact { states with forStack := .cons ⟨rfl, rfl, states.cursor.offset⟩ states.forStack }
  · rw [if_neg entered, if_neg entered]
    intro machine machine' machines
    exact skipToNext_agrees machines A.far_lt.1 A.far_lt.2

theorem matches_endFor : A.Matches X A.Flows (endFor p : Exec σ Flow) (endFor p') := by
  refine matches_optionalVariable.bind ?_
  rintro named _ rfl
  refine matches_getState.bind ?_
  intro state state' states
  have pairs := states.forStack
  generalize state.forStack = stack at pairs ⊢
  generalize state'.forStack = stack' at pairs ⊢
  cases pairs with
  | nil => exact matches_throw (.same _)
  | @cons frame frame' outer outer' frames rest =>
    -- the frame is taken off before its variable is checked and counted up
    obtain ⟨letter, target, resume⟩ := frame
    obtain ⟨letter', target', resume'⟩ := frame'
    obtain ⟨rfl, rfl, same⟩ := frames
    refine Matches.bind (matches_modifyState ?_) fun _ _ _ => ?_
    · intro state state' states
      exact { states with forStack := rest }
    refine matches_require_then Iff.rfl .nextWithoutFor ?_
    refine matches_getState.bind ?_
    intro state state' states
    rw [states.store]
    refine (matches_assign letter _).bind fun _ _ _ => ?_
    by_cases exceeds : state'.store.get letter + 1.0 > target
    · simp only [if_pos exceeds]
      exact matches_pure .onward
    · simp only [if_neg exceeds]
      refine Matches.bind (matches_modifyState ?_) fun _ _ _ => matches_pure (.jump same)
      intro state state' states
      exact { states with forStack := .cons ⟨rfl, rfl, same⟩ rest }

/-! ### REPEAT loops -/

theorem matches_enterRepeat : A.Matches X Eq (enterRepeat : Exec σ Unit) enterRepeat := by
  apply matches_modifyState
  intro state state' states
  exact { states with repeatStack := .cons states.cursor.offset states.repeatStack }

theorem matches_endRepeat : A.Matches X A.Flows (endRepeat p : Exec σ Flow) (endRepeat p') := by
  refine matches_getState.bind ?_
  intro state state' states
  have pairs := states.repeatStack
  generalize state.repeatStack = stack at pairs ⊢
  generalize state'.repeatStack = stack' at pairs ⊢
  cases pairs with
  | nil => exact matches_throw (.same _)
  | @cons start start' outer outer' same rest =>
    -- the loop is closed while its condition is evaluated
    refine Matches.bind (matches_modifyState ?_) fun _ _ _ => ?_
    · intro state state' states
      exact { states with repeatStack := rest }
    refine matches_evaluate.bind ?_
    rintro value _ rfl
    by_cases again : (value == 0.0) = true
    · rw [if_pos again, if_pos again]
      refine Matches.bind (matches_modifyState ?_) fun _ _ _ => matches_pure (.jump same)
      intro state state' states
      exact { states with repeatStack := .cons same rest }
    · rw [if_neg again, if_neg again]
      exact matches_pure .onward

/-! ### Statements, steps and runs -/

theorem matches_perform (word : Keyword) :
    A.Matches X A.Flows (perform p config word : Exec σ Flow) (perform p' config' word) := by
  cases word with
  | PRINT => exact matches_print.bind fun _ _ _ => matches_pure .onward
  | INPUT => exact matches_input.bind fun _ _ _ => matches_pure .onward
  | IF => exact matches_branch.bind fun _ _ _ => matches_pure .onward
  | FOR => exact matches_enterFor.bind fun _ _ _ => matches_pure .onward
  | REPEAT => exact matches_enterRepeat.bind fun _ _ _ => matches_pure .onward
  | THEN => exact matches_pure .onward
  | TO => exact matches_pure .onward
  | GOTO => exact matches_goto
  | GOSUB => exact matches_callSub
  | RETURN => exact matches_returnFromSub
  | NEXT => exact matches_endFor
  | UNTIL => exact matches_endRepeat
  | END => exact matches_pure .halt

/-- What steps side by side do. -/
inductive Advances (A : Alignment p p') : Progress → Progress → Prop
  | moved : Advances A .moved .moved
  | jumped {source source' target target' : Nat} (left : A.Same source source')
      (reached : A.Same target target') :
      Advances A (.jumped source target) (.jumped source' target')
  | finished (completion : Completion) : Advances A (.finished completion) (.finished completion)

theorem matches_follow {flow flow' : Flow} (flows : A.Flows flow flow') :
    A.Matches X A.Advances (Machine.follow p flow : Exec σ Progress)
      (Machine.follow p' flow') := by
  cases flows with
  | onward => exact matches_pure .moved
  | halt => exact matches_pure (.finished .ended)
  | jump same =>
    refine matches_getState.bind ?_
    intro state state' states
    refine Matches.bind (matches_modifyState ?_) fun _ _ _ =>
      matches_pure (.jumped states.cursor.offset same)
    intro state state' states
    exact { states with cursor := jump_agrees same }

theorem matches_step :
    A.Matches X A.Advances (Machine.step p config : Exec σ Progress)
      (Machine.step p' config') := by
  refine matches_next.bind ?_
  intro token token' alike
  have assigns : A.Matches X A.Advances
      (do Exec.giveBack; Exec.markStatement; assignment p; return .moved : Exec σ Progress)
      (do Exec.giveBack; Exec.markStatement; assignment p'; return .moved) := by
    refine matches_giveBack.bind fun _ _ _ => ?_
    refine matches_markStatement.bind fun _ _ _ => ?_
    exact matches_assignment.bind fun _ _ _ => matches_pure .moved
  cases A.alike alike with
  | renamed letter => exact assigns
  | same =>
    cases token with
    | endOfProgram => exact matches_pure (.finished .endOfProgram)
    | name text => exact assigns
    | keyword word =>
      refine matches_markStatement.bind fun _ _ _ => ?_
      exact (matches_perform word).bind fun _ _ flows => matches_follow flows
    | _ => exact matches_pure .moved

theorem matches_loop (steps : Nat) :
    A.Matches X Eq (Machine.loop p config steps : Exec σ (Option Completion))
      (Machine.loop p' config' steps) := by
  induction steps with
  | zero => exact matches_pure rfl
  | succ steps ih =>
    -- the runs take their steps one for one
    refine matches_step.bind ?_
    intro progress progress' advances
    cases advances with
    | moved => exact ih
    | jumped _ _ => exact ih
    | finished completion => exact matches_pure rfl

/-- A run starts alike on machines that agree in no more than their labels and consoles. -/
theorem start_settles (capacity : config.labelCapacity = config'.labelCapacity)
    {machine : Machine σ} {machine' : Machine σ'}
    (tables : A.Tables machine.state.labels machine'.state.labels)
    (consoles : X.Consoles machine.console machine'.console) :
    A.Settles X Eq (Machine.start p config machine) (Machine.start p' config' machine') := by
  have collected := A.collect_agrees config.labelCapacity machine.state.cursor machine'.state.cursor
  simp only [Machine.start, ← capacity]
  generalize Labels.collect p config.labelCapacity machine.state.cursor = result at collected ⊢
  generalize Labels.collect p' config.labelCapacity machine'.state.cursor = result' at collected ⊢
  cases collected with
  | ok holds => exact .ok ⟨rfl, ⟨holds.2, holds.1, rfl, .nil, .nil, .nil, rfl, A.origin⟩, consoles⟩
  | error holds =>
    -- the labels of the run before stay, and the place of the failure is noted
    obtain ⟨rfl, cursors⟩ := holds
    exact .error ⟨.same _, ⟨cursors, tables, rfl, .nil, .nil, .nil, rfl, cursors.offset⟩, consoles⟩

theorem run_settles (capacity : config.labelCapacity = config'.labelCapacity) (steps : Nat)
    {machine : Machine σ} {machine' : Machine σ'}
    (tables : A.Tables machine.state.labels machine'.state.labels)
    (consoles : X.Consoles machine.console machine'.console) :
    A.Settles X Eq (Machine.run p config steps machine)
      (Machine.run p' config' steps machine') := by
  refine Agree.bind (start_settles capacity tables consoles) ?_
  rintro _ started _ started' ⟨-, machines⟩
  refine Agree.bind (matches_loop steps machines) ?_
  rintro completion ended _ ended' ⟨rfl, atEnd⟩
  cases completion with
  | none => exact .ok ⟨rfl, atEnd⟩
  | some completion => exact matches_flush.bind (fun _ _ _ => matches_pure rfl) atEnd

end LineBasic.Alignment
