import LineBasic.Proofs.Cues
import Mathlib.Algebra.GroupWithZero.Nat

/-!
# PRINT lists

What a PRINT statement writes can be told from its list. `Statement.PrintList` takes the text
behind the keyword apart into items, the separators behind them, and what ends the list: a line
end, or something that cannot be printed. `Statement.printed` is what is then written, in which
a comma counts all that has been written before it.

`Machine.print_renders` says that a PRINT statement writes these texts, one call for each, and
that it succeeds if the list ends with its line and the console takes them all.
-/

namespace LineBasic

/-! ### Lists -/

/-- What can stand between two items. -/
inductive Separator where
  | comma
  | semicolon
deriving DecidableEq, Repr

def Separator.sign : Separator → Delimiter
  | .comma => .comma
  | .semicolon => .semicolon

/-- What ends a list. -/
inductive ListEnd where
  /-- The line ends where an item could stand. -/
  | blank (line : Reading)
  /-- The line ends behind an item. -/
  | item (text : String) (line : Reading)
  /-- There is no item that can be read and evaluated. -/
  | unread (failure : Failure)
  /-- Behind an item there is neither a separator nor a line end. -/
  | stuck (text : String) (failure : Failure)

namespace Statement

/-- An item at an offset, with its text and where it stops. -/
inductive PrintItem (p : Program) (store : Store) (offset : Nat) : String → Nat → Prop
  | quoted {text : String} (found : (p.read offset).found = .ok (.quoted text)) :
      PrintItem p store offset text (p.read offset).stop
  | number {token : Token} {value : Float} {stop : Nat}
      (found : (p.read offset).found = .ok token) (goesOn : token.endsLine = false)
      (unquoted : ∀ text, token ≠ .quoted text)
      (evaluated : Expression.valueAt? p store (p.read offset).start = some (value, stop)) :
      PrintItem p store offset (Number.display value) stop

/-- The list at an offset: its items but the last with the separators behind them, and its end. -/
inductive PrintList (p : Program) (store : Store) :
    Nat → List (String × Separator) → ListEnd → Prop
  | blank {offset : Nat} {token : Token} (found : (p.read offset).found = .ok token)
      (ends : token.endsLine = true) : PrintList p store offset [] (.blank (p.read offset))
  | unscanned {offset : Nat} {failure : Failure} (failed : (p.read offset).found = .error failure) :
      PrintList p store offset [] (.unread failure)
  | unevaluated {offset : Nat} {token : Token} {failure : Failure} {cursor : Cursor}
      (found : (p.read offset).found = .ok token) (goesOn : token.endsLine = false)
      (unquoted : ∀ text, token ≠ .quoted text)
      (failed : Expression.evaluate p store (.before (p.read offset)) = .error failure cursor) :
      PrintList p store offset [] (.unread failure)
  | last {offset stop : Nat} {text : String} {token : Token}
      (item : PrintItem p store offset text stop) (found : (p.read stop).found = .ok token)
      (ends : token.endsLine = true) : PrintList p store offset [] (.item text (p.read stop))
  | stuck {offset stop : Nat} {text : String} {token : Token}
      (item : PrintItem p store offset text stop) (found : (p.read stop).found = .ok token)
      (goesOn : token.endsLine = false)
      (other : ∀ separator : Separator, token ≠ .delimiter separator.sign) :
      PrintList p store offset [] (.stuck text .malformed)
  | unclosed {offset stop : Nat} {text : String} {failure : Failure}
      (item : PrintItem p store offset text stop) (failed : (p.read stop).found = .error failure) :
      PrintList p store offset [] (.stuck text failure)
  | separated {offset stop : Nat} {text : String} {separator : Separator}
      {items : List (String × Separator)} {ending : ListEnd}
      (item : PrintItem p store offset text stop)
      (found : (p.read stop).found = .ok (.delimiter separator.sign))
      (rest : PrintList p store (p.read stop).stop items ending) :
      PrintList p store offset ((text, separator) :: items) ending

variable {p : Program} {store : Store} {offset stop : Nat} {text : String}

theorem PrintItem.le_stop (item : PrintItem p store offset text stop) : offset ≤ stop := by
  cases item with
  | quoted => exact Nat.le_trans (p.le_start offset) (p.start_le_stop offset)
  | number _ _ _ evaluated =>
    obtain ⟨last, ⟨tokens, passes, -⟩, rfl⟩ := Expression.follows_of_valueAt? evaluated
    have forward := passes.start_le ⟨_, rfl⟩
    rw [p.read_start] at forward
    exact Nat.le_trans (p.le_start offset) forward

/-- A separator takes a character, so what is left of the text gets shorter. -/
theorem PrintItem.lt_stop {separator : Separator} (item : PrintItem p store offset text stop)
    (found : (p.read stop).found = .ok (.delimiter separator.sign)) :
    offset < (p.read stop).stop ∧ (p.read stop).stop ≤ p.length := by
  have taken := Program.start_lt_stop found (by simp)
  have before := item.le_stop
  have gap := p.le_start stop
  omega

/-- Every text is a list. -/
theorem exists_printList (p : Program) (store : Store) (offset : Nat) :
    ∃ items ending, PrintList p store offset items ending := by
  -- by induction on how much text is left behind the offset
  induction left : p.length - offset using Nat.strongRecOn generalizing offset with
  | ind left ih =>
    subst left
    -- the list behind an item is told by what follows the item
    have behind : ∀ {text stop}, PrintItem p store offset text stop →
        ∃ items ending, PrintList p store offset items ending := by
      intro text stop item
      have separated : ∀ separator : Separator,
          (p.read stop).found = .ok (.delimiter separator.sign) →
            ∃ items ending, PrintList p store offset items ending := by
        intro separator found
        obtain ⟨forward, inside⟩ := item.lt_stop found
        obtain ⟨items, ending, rest⟩ := ih _ (by omega) (p.read stop).stop rfl
        exact ⟨_, ending, .separated item found rest⟩
      cases found : (p.read stop).found with
      | error failure => exact ⟨_, _, .unclosed item found⟩
      | ok token =>
        by_cases ends : token.endsLine = true
        · exact ⟨_, _, .last item found ends⟩
        · by_cases other : ∃ separator : Separator, token = .delimiter separator.sign
          · obtain ⟨separator, rfl⟩ := other
            exact separated separator found
          · exact ⟨_, _, .stuck item found (by simpa using ends) (by simpa using other)⟩
    cases found : (p.read offset).found with
    | error failure => exact ⟨_, _, .unscanned found⟩
    | ok token =>
      by_cases ends : token.endsLine = true
      · exact ⟨_, _, .blank found ends⟩
      · have goesOn : token.endsLine = false := by simpa using ends
        by_cases quoted : ∃ text, token = .quoted text
        · obtain ⟨text, rfl⟩ := quoted
          exact behind (.quoted found)
        · have unquoted : ∀ text, token ≠ .quoted text := by simpa using quoted
          cases evaluated : Expression.evaluate p store (.before (p.read offset)) with
          | error failure cursor => exact ⟨_, _, .unevaluated found goesOn unquoted evaluated⟩
          | ok value cursor =>
            obtain ⟨_, _, -, -, -, known⟩ := Expression.evaluate_eq_ok evaluated
            exact behind (.number found goesOn unquoted known)

/-! ### What is written for a list -/

/-- The number of characters in texts that are written one behind the other. -/
def width (texts : List String) : Nat := (texts.map String.length).sum

def blanks (count : Nat) : String := String.ofList (List.replicate count ' ')

/-- What a separator writes behind so many characters. -/
def separation (config : Config) (column : Nat) : Separator → String
  | .comma =>
    let distance := max config.tabWidth 1
    blanks (distance - column % distance)
  | .semicolon => " "

/-- What items write with their separators, behind what the list has written before. -/
def printedBehind (config : Config) (before : List String) :
    List (String × Separator) → List String
  | [] => []
  | (text, separator) :: items =>
    let space := separation config (width (before ++ [text])) separator
    text :: space :: printedBehind config (before ++ [text, space]) items

/-- What the end of a list writes. Behind a separator, the line is left open. -/
def closing (separated : Bool) : ListEnd → List String
  | .blank _ => if separated then [] else ["\n"]
  | .item text _ => [text, "\n"]
  | .unread _ => []
  | .stuck text _ => [text]

/-- All that a list writes, in order. -/
def printed (config : Config) (items : List (String × Separator)) (ending : ListEnd) :
    List String :=
  printedBehind config [] items ++ closing (!items.isEmpty) ending

theorem width_append (texts others : List String) :
    width (texts ++ others) = width texts + width others := by
  rw [width, List.map_append, List.sum_append]
  rfl

theorem width_singleton (text : String) : width [text] = text.length := by
  simp [width]

theorem length_blanks (count : Nat) : (blanks count).length = count := by
  simp [blanks]

theorem printedBehind_append (config : Config) (before : List String)
    (items others : List (String × Separator)) :
    printedBehind config before (items ++ others) =
      printedBehind config before items ++
        printedBehind config (before ++ printedBehind config before items) others := by
  induction items generalizing before with
  | nil => simp [printedBehind]
  | cons item items ih => simp [printedBehind, ih]

/-- A comma fills up to the next multiple of the tab width. -/
theorem exists_padding (config : Config) (column : Nat) :
    ∃ padding, separation config column .comma = blanks padding ∧ 1 ≤ padding ∧
      padding ≤ max config.tabWidth 1 ∧ max config.tabWidth 1 ∣ column + padding := by
  have positive : 0 < max config.tabWidth 1 := Nat.le_max_right _ _
  refine ⟨_, rfl, Nat.sub_pos_of_lt (Nat.mod_lt column positive), Nat.sub_le _ _, ?_⟩
  generalize max config.tabWidth 1 = distance at positive ⊢
  refine ⟨column / distance + 1, ?_⟩
  have parts := Nat.div_add_mod column distance
  have short := Nat.mod_lt column positive
  rw [Nat.mul_succ]
  omega

/-- With each comma, a multiple of the tab width has been written. -/
theorem printed_of_comma (config : Config) (items others : List (String × Separator))
    (text : String) (ending : ListEnd) :
    ∃ padding,
      printedBehind config [] items ++ [text, blanks padding] <+:
        printed config (items ++ (text, .comma) :: others) ending ∧
      1 ≤ padding ∧ padding ≤ max config.tabWidth 1 ∧
      0 < width (printedBehind config [] items ++ [text, blanks padding]) ∧
      max config.tabWidth 1 ∣ width (printedBehind config [] items ++ [text, blanks padding]) := by
  obtain ⟨padding, fills, some, most, multiple⟩ :=
    exists_padding config (width (printedBehind config [] items ++ [text]))
  have total : width (printedBehind config [] items ++ [text, blanks padding]) =
      width (printedBehind config [] items ++ [text]) + padding := by
    rw [List.append_cons, width_append, width_singleton, length_blanks]
  -- what comes behind the comma does not change what has been written up to it
  refine ⟨padding, ?_, some, most, by omega, total ▸ multiple⟩
  rw [printed, printedBehind_append, List.nil_append, printedBehind, fills, List.append_assoc]
  exact (List.prefix_append_right_inj _).mpr (List.prefix_append [text, blanks padding] _)

end Statement

/-! ### Writing texts -/

/-- Texts are written in order, one call for each, and then a computation comes to what is said of
it. If the console refuses one of them, that is the last call and what the computation fails for. -/
inductive Wrote (comesTo : Except Failure State) :
    List String → List Call → Except Failure State → Prop
  | all : Wrote comesTo [] [] comesTo
  | refused (text : String) (texts : List String) (reason : String) :
      Wrote comesTo (text :: texts) [.write text (.error reason)] (.error (.outputFailed reason))
  | next {text : String} {texts : List String} {calls : List Call}
      {outcome : Except Failure State} (rest : Wrote comesTo texts calls outcome) :
      Wrote comesTo (text :: texts) (.write text (.ok ()) :: calls) outcome

/-- Either all texts have been written, or all before one that has been refused. -/
theorem Wrote.cases {comesTo outcome : Except Failure State} {texts : List String}
    {calls : List Call} (wrote : Wrote comesTo texts calls outcome) :
    (calls = texts.map (.write · (.ok ())) ∧ outcome = comesTo) ∨
      ∃ before text behind reason, texts = before ++ text :: behind ∧
        calls = before.map (.write · (.ok ())) ++ [.write text (.error reason)] ∧
        outcome = .error (.outputFailed reason) := by
  induction wrote with
  | all => exact .inl ⟨rfl, rfl⟩
  | refused text texts reason => exact .inr ⟨[], text, texts, reason, rfl, rfl, rfl⟩
  | next rest ih =>
    rcases ih with ⟨rfl, rfl⟩ | ⟨before, text, behind, reason, rfl, rfl, rfl⟩
    · exact .inl ⟨rfl, rfl⟩
    · exact .inr ⟨_ :: before, text, behind, reason, rfl, rfl, rfl⟩

namespace Machine

open Exec

variable {σ α : Type} {machine between : Machine (Recorded σ)} {texts : List String}
  {comesTo : Except Failure State}

/-- The state that a computation leaves if it succeeds, or why it fails. -/
def stateOf : EStateM.Result Failure (Machine σ) α → Except Failure State
  | .ok _ after => .ok after.state
  | .error failure _ => .error failure

def Writes (texts : List String) (comesTo : Except Failure State) (machine : Machine (Recorded σ))
    (result : EStateM.Result Failure (Machine (Recorded σ)) α) : Prop :=
  ∃ calls, (finalState result).console.calls = calls.reverse ++ machine.console.calls ∧
    Wrote comesTo texts calls (stateOf result)

theorem writes_ok {value : α} {after : Machine (Recorded σ)}
    (silent : after.console = machine.console) :
    Writes [] (.ok after.state) machine (.ok value after) :=
  ⟨[], by rw [finalState, silent]; rfl, .all⟩

theorem writes_error {failure : Failure} {after : Machine (Recorded σ)}
    (silent : after.console = machine.console) :
    Writes [] (.error failure) machine (.error failure after : EStateM.Result _ _ α) :=
  ⟨[], by rw [finalState, silent]; rfl, .all⟩

/-- What is behind a write is up to the console. -/
theorem writes_next [Console σ] {text : String} {next : Unit → Exec (Recorded σ) α}
    (silent : between.console = machine.console)
    (goes : ∀ console, Writes texts comesTo ⟨between.state, console⟩
      (next () ⟨between.state, console⟩)) :
    Writes (text :: texts) comesTo machine ((write text >>= next) between) := by
  rcases write_cases text between with ⟨console, ran⟩ | ⟨reason, console, refused⟩
  · obtain ⟨calls, heard, wrote⟩ := goes ⟨console, .write text (.ok ()) :: between.console.calls⟩
    rw [bind_of_ok ran]
    refine ⟨.write text (.ok ()) :: calls, ?_, .next wrote⟩
    rw [heard, silent]
    simp
  · rw [bind_of_error refused]
    refine ⟨[.write text (.error reason)], ?_, .refused text texts reason⟩
    rw [finalState, silent]
    rfl

theorem writes_last [Console σ] {text : String} (silent : between.console = machine.console) :
    Writes [text] (.ok between.state) machine (write text between) := by
  rw [← bind_pure (write text)]
  exact writes_next silent fun _ => writes_ok rfl

end Machine

/-! ### Writing a list -/

/-- What a PRINT comes to behind its list, if the console takes the texts. -/
def ListEnd.comesTo (state : State) : ListEnd → Except Failure State
  | .blank line | .item _ line => .ok { state with cursor := .behind line }
  | .unread failure | .stuck _ failure => .error failure

theorem ListEnd.comesTo_of_moved {before after : State} (ending : ListEnd)
    (moved : before.Moved after) : ending.comesTo after = ending.comesTo before := by
  obtain ⟨cursor, rfl⟩ := moved
  cases ending <;> rfl

namespace Statement

open Exec Machine

variable {σ : Type} {p : Program} {config : Config} {machine : Machine (Recorded σ)}
  {stop : Nat} {text : String}

/-- An item is printed, and the cursor is behind it then. -/
theorem PrintItem.printItem
    (item : PrintItem p machine.state.store machine.state.cursor.offset text stop) :
    ∃ token cursor, (machine.state.reading p).found = .ok token ∧ token.endsLine = false ∧
      Statement.printItem p token (machine.withCursor (.behind (machine.state.reading p))) =
        .ok text (machine.withCursor cursor) ∧
      cursor.offset = stop := by
  cases item with
  | quoted found => exact ⟨_, .behind (machine.state.reading p), found, rfl, rfl, rfl⟩
  | @number token value stop found goesOn unquoted evaluated =>
    refine ⟨token, ⟨stop, none⟩, found, goesOn, ?_, rfl⟩
    have ran : evaluate p (machine.withCursor (.before (machine.state.reading p))) =
        .ok value (machine.withCursor ⟨stop, none⟩) := evaluate_of_valueAt? evaluated
    rw [printItem_of_unquoted unquoted, bind_of_ok ran]
    rfl

theorem printItem_error {token : Token} {failure : Failure} {cursor : Cursor}
    (unquoted : ∀ text, token ≠ .quoted text)
    (failed : Expression.evaluate p machine.state.store (.before (machine.state.reading p)) =
      .error failure cursor) :
    Statement.printItem p token (machine.withCursor (.behind (machine.state.reading p))) =
      .error failure (machine.withCursor cursor) := by
  have ran : evaluate p (machine.withCursor (.before (machine.state.reading p))) =
      .error failure (machine.withCursor cursor) := by
    rw [evaluate_eq, Machine.withCursor_store, Machine.withCursor_cursor, failed]
    rfl
  rw [printItem_of_unquoted unquoted, bind_of_error ran]

/-- Goes on with a list behind an item. -/
def printOn [Console σ] (p : Program) (config : Config) (items column : Nat) : Exec σ Unit := do
  match ← next p with
  | .delimiter .comma =>
    let blanks := config.padding column
    write (String.ofList (List.replicate blanks ' '))
    printFrom p config items (column + blanks) true
  | .delimiter .semicolon =>
    write " "
    printFrom p config items (column + 1) true
  | token => if token.endsLine then write "\n" else throw .malformed

section Steps

variable [Console σ] {before texts : List String} {fuel column : Nat} {token : Token}
  {comesTo : Except Failure State}

theorem writes_of_item {separated : Bool}
    (item : PrintItem p machine.state.store machine.state.cursor.offset text stop)
    (goes : ∀ written : Machine (Recorded σ), written.state.cursor.offset = stop →
      machine.state.Moved written.state →
        Writes texts comesTo written (printOn p config fuel (width (before ++ [text])) written)) :
    Writes (text :: texts) comesTo machine
      (printFrom p config (fuel + 1) (width before) separated machine) := by
  obtain ⟨token, cursor, found, goesOn, printed, behind⟩ := item.printItem
  rw [printFrom, bind_of_ok (next_ok found)]
  dsimp only
  rw [if_neg (by simp [goesOn]), bind_of_ok printed]
  have column : width before + text.length = width (before ++ [text]) := by
    rw [width_append, width_singleton]
  rw [column]
  apply writes_next rfl
  exact fun console => goes ⟨(machine.withCursor cursor).state, console⟩ behind ⟨cursor, rfl⟩

/-- A separator writes its blanks, and the list goes on behind it. -/
theorem writes_of_separator {separator : Separator}
    (found : (machine.state.reading p).found = .ok (.delimiter separator.sign))
    (goes : ∀ written : Machine (Recorded σ),
      written.state.cursor.offset = (machine.state.reading p).stop →
      machine.state.Moved written.state →
        Writes texts comesTo written (printFrom p config fuel
          (width (before ++ [separation config (width before) separator])) true written)) :
    Writes (separation config (width before) separator :: texts) comesTo machine
      (printOn p config fuel (width before) machine) := by
  have goesOn := fun console : Recorded σ =>
    goes ⟨(machine.withCursor (.behind (machine.state.reading p))).state, console⟩ rfl ⟨_, rfl⟩
  rw [width_append, width_singleton] at goesOn
  rw [printOn, bind_of_ok (next_ok found)]
  cases separator with
  | comma =>
    have filled : (separation config (width before) .comma).length =
        config.padding (width before) := length_blanks _
    rw [filled] at goesOn
    exact writes_next rfl goesOn
  | semicolon =>
    have single : (separation config (width before) .semicolon).length = 1 := by
      rw [separation]
      decide
    rw [single] at goesOn
    exact writes_next rfl goesOn

theorem writes_of_lineEnd (found : (machine.state.reading p).found = .ok token)
    (ends : token.endsLine = true) :
    Writes ["\n"] (.ok (machine.withCursor (.behind (machine.state.reading p))).state) machine
      (printOn p config fuel column machine) := by
  rw [printOn, bind_of_ok (next_ok found)]
  cases token with
  | endOfLine | endOfProgram => exact writes_last rfl
  | _ => cases ends

theorem writes_of_other (found : (machine.state.reading p).found = .ok token)
    (goesOn : token.endsLine = false)
    (other : ∀ separator : Separator, token ≠ .delimiter separator.sign) :
    Writes [] (.error .malformed) machine (printOn p config fuel column machine) := by
  rw [printOn, bind_of_ok (next_ok found)]
  cases token with
  | delimiter sign =>
    cases sign with
    | comma => exact absurd rfl (other .comma)
    | semicolon => exact absurd rfl (other .semicolon)
    | _ => exact writes_error rfl
  | endOfLine | endOfProgram => cases goesOn
  | _ => exact writes_error rfl

end Steps

/-- A list writes its texts, at whatever column it starts. There is enough fuel for it, as each
separator takes a character. -/
theorem printFrom_writes [Console σ] {store : Store} {offset : Nat}
    {items : List (String × Separator)} {ending : ListEnd}
    (list : PrintList p store offset items ending) (fuel : Nat) (before : List String)
    (separated : Bool) (machine : Machine (Recorded σ)) (known : machine.state.store = store)
    (here : machine.state.cursor.offset = offset) (enough : p.length ≤ offset + fuel) :
    Writes (printedBehind config before items ++ closing (separated || !items.isEmpty) ending)
      (ending.comesTo machine.state) machine
      (printFrom p config (fuel + 1) (width before) separated machine) := by
  -- of what has been written before, only the column is in the code
  induction list generalizing fuel before separated machine with
  | @blank offset token found ends =>
    subst known here
    rw [printFrom, bind_of_ok (next_ok found)]
    dsimp only
    rw [if_pos ends]
    cases separated with
    | true => exact writes_ok rfl
    | false => exact writes_last rfl
  | @unscanned offset failure failed =>
    subst known here
    rw [printFrom, bind_of_error (next_error failed)]
    exact writes_error rfl
  | @unevaluated offset token failure cursor found goesOn unquoted failed =>
    subst known here
    rw [printFrom, bind_of_ok (next_ok found)]
    dsimp only
    rw [if_neg (by simp [goesOn]), bind_of_error (printItem_error unquoted failed)]
    exact writes_error rfl
  | @last offset stop text token item found ends =>
    subst known here
    apply writes_of_item item
    rintro written rfl moved
    rw [← ListEnd.comesTo_of_moved _ moved]
    exact writes_of_lineEnd found ends
  | @stuck offset stop text token item found goesOn other =>
    subst known here
    apply writes_of_item item
    rintro written rfl -
    exact writes_of_other found goesOn other
  | @unclosed offset stop text failure item failed =>
    subst known here
    apply writes_of_item item
    rintro written rfl -
    rw [printOn, bind_of_error (next_error failed)]
    exact writes_error rfl
  | @separated offset stop text separator items ending item found rest ih =>
    subst known here
    obtain ⟨forward, inside⟩ := item.lt_stop found
    -- behind a separator the list does not end its line, whatever stood before
    rw [List.isEmpty_cons, Bool.not_false, Bool.or_true]
    apply writes_of_item item
    rintro written rfl moved
    apply writes_of_separator found
    intro further behind movedOn
    have all := moved.trans movedOn
    have store : further.state.store = machine.state.store := by
      obtain ⟨cursor, same⟩ := all
      rw [same]
    -- the separator has taken a character, so there is some fuel left
    obtain ⟨fuel, rfl⟩ : ∃ less, fuel = less + 1 := ⟨fuel - 1, by omega⟩
    rw [← ending.comesTo_of_moved all, ← List.append_cons]
    exact ih fuel _ true further store behind (by omega)

end Statement

/-! ### PRINT statements -/

namespace Machine

open Statement

/-- A PRINT statement writes what its list is printed as. If the console takes all of it, the
statement succeeds when the list ends with its line, and then only the cursor has moved; else it
fails for what ends the list. With each comma, a multiple of the tab width has been written. -/
theorem print_renders {σ : Type} [Console σ] {p : Program} {config : Config}
    {machine : Machine (Recorded σ)}
    (found : (machine.state.reading p).found = .ok (.keyword .PRINT)) :
    (∃ items ending, PrintList p machine.state.store (machine.state.reading p).stop items ending) ∧
      ∀ items ending,
        PrintList p machine.state.store (machine.state.reading p).stop items ending →
          (∃ calls, (finalState (step p config machine)).console.calls =
              calls.reverse ++ machine.console.calls ∧
            ((calls = (printed config items ending).map (.write · (.ok ())) ∧
                stateOf (step p config machine) =
                  ending.comesTo (machine.dispatched p).state) ∨
              ∃ before text behind reason,
                printed config items ending = before ++ text :: behind ∧
                calls = before.map (.write · (.ok ())) ++ [.write text (.error reason)] ∧
                stateOf (step p config machine) = .error (.outputFailed reason))) ∧
          ∀ before text behind, items = before ++ (text, .comma) :: behind →
            ∃ padding,
              printedBehind config [] before ++ [text, blanks padding] <+:
                printed config items ending ∧
              1 ≤ padding ∧ padding ≤ max config.tabWidth 1 ∧
              0 < width (printedBehind config [] before ++ [text, blanks padding]) ∧
              max config.tabWidth 1 ∣
                width (printedBehind config [] before ++ [text, blanks padding]) := by
  refine ⟨exists_printList p _ _, ?_⟩
  intro items ending list
  constructor
  · have enough : p.length ≤ (machine.state.reading p).stop + p.length := Nat.le_add_left _ _
    have writes : Writes (printed config items ending)
        (ending.comesTo (machine.dispatched p).state) (machine.dispatched p)
        (Statement.print p config (machine.dispatched p)) :=
      printFrom_writes list p.length [] false (machine.dispatched p) rfl rfl enough
    obtain ⟨calls, heard, wrote⟩ := writes
    -- the list is all there is to the step
    have whole : ∀ {result : EStateM.Result Failure (Machine (Recorded σ)) Unit},
        Statement.print p config (machine.dispatched p) = result →
          (finalState (step p config machine)).console.calls =
              (finalState result).console.calls ∧
            stateOf (step p config machine) = stateOf result := by
      intro result ran
      rw [step_of_print found]
      cases result with
      | ok value after =>
        rw [bind_of_ok ran]
        exact ⟨rfl, rfl⟩
      | error failure after =>
        rw [bind_of_error ran]
        exact ⟨rfl, rfl⟩
    obtain ⟨sameCalls, sameState⟩ := whole rfl
    refine ⟨calls, sameCalls.trans heard, ?_⟩
    rw [sameState]
    exact wrote.cases
  · rintro before text behind rfl
    exact printed_of_comma config before behind text ending

/-- A list with a separator behind each item. -/
def openList : Program := .ofString "PRINT \"AB\",1+1;3,\n"

/-- With columns of four characters, two blanks follow the first item and one the last. The line
is left open. -/
theorem print_renders_openList :
    ∃ after, step openList { tabWidth := 4 } (⟨{}, ⟨{}, []⟩⟩ : Machine (Recorded Buffer)) =
        .ok .moved after ∧
      after.console.calls.reverse =
        ["AB", "  ", "2", " ", "3", " "].map (.write · (.ok ())) := by
  let first : Machine (Recorded Buffer) := ⟨{}, ⟨{}, []⟩⟩
  obtain ⟨progress, after, stepped, moved⟩ := exists_of_succeedsWith (show
    succeedsWith (fun progress _ => progress = .moved)
      (step openList { tabWidth := 4 } first) = true
    by decide +kernel)
  have found : (first.state.reading openList).found = .ok (.keyword .PRINT) := by decide +kernel
  have start : (first.state.reading openList).stop = 5 := by decide +kernel
  have stops : (openList.read 5).stop = 10 ∧ (openList.read 10).stop = 11 ∧
      (openList.read 14).stop = 15 ∧ (openList.read 16).stop = 17 := by decide +kernel
  obtain ⟨quoted, comma, semicolon, last⟩ := stops
  have text : PrintItem openList first.state.store 5 "AB" 10 :=
    quoted ▸ .quoted (by decide +kernel)
  have one : (openList.read 11).found = .ok (.number "1") := by decide +kernel
  have sum : Expression.valueAt? openList first.state.store (openList.read 11).start =
      some (2.0, 14) := by decide +kernel
  have two : Number.display 2.0 = "2" := by decide +kernel
  have number : (openList.read 15).found = .ok (.number "3") := by decide +kernel
  have value : Expression.valueAt? openList first.state.store (openList.read 15).start =
      some (3.0, 16) := by decide +kernel
  have three : Number.display 3.0 = "3" := by decide +kernel
  have line : (openList.read 17).found = .ok .endOfLine := by decide +kernel
  have list : PrintList openList first.state.store (first.state.reading openList).stop
      [("AB", .comma), ("2", .semicolon), ("3", .comma)] (.blank (openList.read 17)) := by
    rw [start]
    refine .separated text (by decide +kernel) ?_
    rw [comma, ← two]
    refine .separated (.number one rfl (by simp) sum) (by decide +kernel) ?_
    rw [semicolon, ← three]
    refine .separated (.number number rfl (by simp) value) (by decide +kernel) ?_
    rw [last]
    exact .blank line rfl
  obtain ⟨-, renders⟩ := @print_renders Buffer _ openList { tabWidth := 4 } first found
  obtain ⟨⟨calls, heard, wrote⟩, -⟩ := renders _ _ list
  rw [stepped] at heard wrote
  refine ⟨after, ?_, ?_⟩
  · rw [← of_decide_eq_true moved]
    exact stepped
  · rcases wrote with ⟨rfl, -⟩ | ⟨_, _, _, _, -, -, refused⟩
    · rw [finalState, List.append_nil] at heard
      rw [heard, List.reverse_reverse]
      rfl
    · cases refused

end Machine

end LineBasic
