import LineBasic.Proofs.Landing

/-!
# Stacks and histories

The statements that open and close loops and calls act on three stacks. What they have
made of them can be told from the history of a run, that is from the list of these
statements in the order in which they were executed: GOSUB and RETURN, REPEAT and UNTIL,
and FOR and NEXT are brackets of three kinds, and each stack holds what has been opened
by its own kind of brackets and has not been closed.

A history does not look at the stacks. It notes of a statement only what stands in the
program, the values of its expressions and, for NEXT, the variables it leaves.
-/

namespace LineBasic

/-! ### Brackets -/

/-- What a kind of brackets sees in an event. -/
inductive Mark (ι : Type) where
  | opens (item : ι)
  /-- The event closes what was opened last, if that passes the test. -/
  | closes (test : ι → Bool)
  | other

namespace Mark

variable {ε ι : Type} {marks : ε → Mark ι} {outer : Option ι} {item : ι} {items : List ι}
  {event : ε} {events more : List ε} {test : ι → Bool}

/-- Within an item, or outside of all, what is opened is closed again and nothing else is. -/
inductive Calm (marks : ε → Mark ι) : Option ι → List ε → Prop
  | nil {outer : Option ι} : Calm marks outer []
  | other {outer : Option ι} {event : ε} {events : List ε} (mark : marks event = .other)
      (rest : Calm marks outer events) : Calm marks outer (event :: events)
  | stays {item : ι} {event : ε} {events : List ε} {test : ι → Bool}
      (mark : marks event = .closes test) (fails : test item = false)
      (rest : Calm marks (some item) events) : Calm marks (some item) (event :: events)
  | block {outer : Option ι} {item : ι} {event closing : ε} {inner events : List ε}
      {test : ι → Bool} (mark : marks event = .opens item) (calm : Calm marks (some item) inner)
      (closes : marks closing = .closes test) (holds : test item = true)
      (rest : Calm marks outer events) : Calm marks outer (event :: (inner ++ closing :: events))

/-- What has been opened by a list of events and not been closed, the innermost item first. -/
inductive Unclosed (marks : ε → Mark ι) : List ε → List ι → Prop
  | nil {events : List ε} (calm : Calm marks none events) : Unclosed marks events []
  | cons {earlier inner : List ε} {event : ε} {item : ι} {items : List ι}
      (unclosed : Unclosed marks earlier items) (mark : marks event = .opens item)
      (calm : Calm marks (some item) inner) :
      Unclosed marks (earlier ++ event :: inner) (item :: items)

theorem Calm.append (calm : Calm marks outer events) (further : Calm marks outer more) :
    Calm marks outer (events ++ more) := by
  induction calm with
  | nil => exact further
  | other mark _ ih => exact .other mark (ih further)
  | stays mark fails _ ih => exact .stays mark fails (ih further)
  | block mark calm closes holds _ _ ih =>
    rw [List.cons_append, List.append_assoc, List.cons_append]
    exact .block mark calm closes holds (ih further)

namespace Unclosed

theorem append (unclosed : Unclosed marks events items) (calm : Calm marks items.head? more) :
    Unclosed marks (events ++ more) items := by
  cases unclosed with
  | nil before => exact .nil (before.append calm)
  | cons earlier mark inner =>
    rw [List.append_assoc, List.cons_append]
    exact .cons earlier mark (inner.append calm)

theorem other (unclosed : Unclosed marks events items) (mark : marks event = .other) :
    Unclosed marks (events ++ [event]) items :=
  unclosed.append (.other mark .nil)

theorem opens (unclosed : Unclosed marks events items) (mark : marks event = .opens item) :
    Unclosed marks (events ++ [event]) (item :: items) :=
  .cons unclosed mark .nil

theorem stays (unclosed : Unclosed marks events (item :: items))
    (mark : marks event = .closes test) (fails : test item = false) :
    Unclosed marks (events ++ [event]) (item :: items) :=
  unclosed.append (.stays mark fails .nil)

theorem closes (unclosed : Unclosed marks events (item :: items))
    (mark : marks event = .closes test) (holds : test item = true) :
    Unclosed marks (events ++ [event]) items := by
  cases unclosed with
  | cons earlier opened inner =>
    -- the item and all within it are calm from outside
    rw [List.append_assoc, List.cons_append]
    exact earlier.append (.block opened inner mark holds .nil)

/-- The event that has opened the innermost item, and the calm since then. -/
theorem innermost (unclosed : Unclosed marks events (item :: items)) :
    ∃ earlier event inner, events = earlier ++ event :: inner ∧ marks event = .opens item ∧
      Calm marks (some item) inner := by
  cases unclosed with
  | cons _ mark calm => exact ⟨_, _, _, rfl, mark, calm⟩

end Unclosed

/-! ### Replaying brackets -/

/-- What an event makes of the items that are open. -/
def apply : Mark ι → List ι → List ι
  | .opens item, items => item :: items
  | .closes test, item :: items => if test item then items else item :: items
  | .closes _, [] => []
  | .other, items => items

theorem Calm.foldl_apply (calm : Calm marks items.head? events) :
    events.foldl (fun items event => (marks event).apply items) items = items := by
  generalize outside : items.head? = outer at calm
  induction calm generalizing items with
  | nil => rfl
  | other mark _ ih =>
    rw [List.foldl_cons, mark]
    exact ih outside
  | @stays item event events test mark fails _ ih =>
    obtain ⟨rest, rfl⟩ := List.head?_eq_some_iff.mp outside
    rw [List.foldl_cons, mark, apply, fails]
    exact ih outside
  | block mark _ closes holds _ inner ih =>
    -- what is open outside lies below the item while the inner events are replayed
    rw [List.foldl_cons, mark, List.foldl_append, apply, inner rfl, List.foldl_cons, closes, apply,
      holds]
    exact ih outside

/-- Events leave no choice what is open after them. -/
theorem Unclosed.unique {others : List ι} (unclosed : Unclosed marks events items)
    (also : Unclosed marks events others) : items = others := by
  have folds : ∀ {events items}, Unclosed marks events items →
      events.foldl (fun items event => (marks event).apply items) [] = items := by
    intro events items unclosed
    induction unclosed with
    | nil calm => exact calm.foldl_apply
    | cons _ mark calm ih =>
      rw [List.foldl_append, ih, List.foldl_cons, mark, apply]
      exact calm.foldl_apply
  rw [← folds unclosed, folds also]

end Mark

/-! ### Histories -/

/-- An executed statement that opens or closes a loop or a call. -/
inductive Control where
  /-- GOSUB; a RETURN goes on behind its label. -/
  | called (resume : Nat)
  | returned
  /-- REPEAT; its loop starts behind the keyword. -/
  | opened (start : Nat)
  /-- UNTIL, with the value of its condition. -/
  | tested (value : Float)
  /-- FOR with a start that does not exceed the target. -/
  | entered (frame : ForFrame)
  /-- NEXT, with the variables after it has counted. -/
  | counted (store : Store)

namespace Control

/-- The statement that leads from one state to the other, if it opens or closes something. -/
def of? (p : Program) (before after : State) : Option Control :=
  let reading := before.reading p
  match reading.found with
  | .ok (.keyword .GOSUB) => some (.called (p.read reading.stop).stop)
  | .ok (.keyword .RETURN) => some .returned
  | .ok (.keyword .REPEAT) => some (.opened reading.stop)
  | .ok (.keyword .UNTIL) =>
    (Expression.valueAt? p before.store reading.stop).map fun (value, _) => .tested value
  | .ok (.keyword .FOR) =>
    match Statement.forClause? p before.store reading.stop with
    | some (start, frame) => if start ≤ frame.target then some (.entered frame) else none
    | none => none
  | .ok (.keyword .NEXT) => some (.counted after.store)
  | _ => none

/-- GOSUB and RETURN. -/
def calls : Control → Mark Nat
  | called resume => .opens resume
  | returned => .closes fun _ => true
  | _ => .other

/-- REPEAT and UNTIL. -/
def repeats : Control → Mark Nat
  | opened start => .opens start
  | tested value => .closes fun _ => !(value == 0.0)
  | _ => .other

/-- FOR and NEXT. -/
def loops : Control → Mark ForFrame
  | entered frame => .opens frame
  | counted store => .closes fun frame => store.get frame.letter > frame.target
  | _ => .other

def isCall : Control → Bool
  | called _ => true
  | _ => false

def isReturn : Control → Bool
  | returned => true
  | _ => false

end Control

namespace Machine

variable {σ : Type} [Console σ]

/-- The statement that a step executes, if it opens or closes something. -/
def control? (p : Program) (config : Config) (machine : Machine σ) : Option Control :=
  match step p config machine with
  | .ok _ after => Control.of? p machine.state after.state
  | .error _ _ => none

/-- The statements that open or close something and are executed in a number of steps. -/
def history (p : Program) (config : Config) : (steps : Nat) → Machine σ → List Control :=
  along (fun machine => (machine.control? p config).toList) p config

end Machine

/-! ### Each stack is the history of its brackets -/

/-- The stacks hold what is unclosed after a history. -/
structure State.Tracks (state : State) (events : List Control) : Prop where
  gosubStack : Mark.Unclosed Control.calls events state.gosubStack
  repeatStack : Mark.Unclosed Control.repeats events state.repeatStack
  forStack : Mark.Unclosed Control.loops events state.forStack

namespace Control

variable {p : Program} {before after : State} {token : Token}

theorem of?_of_tame (found : (before.reading p).found = .ok token)
    (tame : ∀ word, token = .keyword word → word.isControl = false) :
    of? p before after = none := by
  cases token with
  | keyword word =>
    have quiet := tame word rfl
    cases word <;> simp [of?, found] <;> cases quiet
  | _ => simp [of?, found]

end Control

theorem State.Tracks.of_sameStacks {before after : State} {events : List Control}
    (tracks : before.Tracks events) (same : before.SameStacks after) : after.Tracks events where
  gosubStack := same.gosubStack ▸ tracks.gosubStack
  repeatStack := same.repeatStack ▸ tracks.repeatStack
  forStack := same.forStack ▸ tracks.forStack

/-- Each effect is told by the history. -/
theorem Effect.tracks {p : Program} {before after : State} {progress : Progress}
    {events : List Control} (effect : Effect p before progress after)
    (tracks : before.Tracks events) :
    after.Tracks (events ++ (Control.of? p before after).toList) := by
  -- an event is seen by one kind of brackets, and the two others pass over it
  cases effect with
  | onward found tame same | finished found tame same =>
    rw [Control.of?_of_tame found tame, Option.toList_none, List.append_nil]
    exact tracks.of_sameStacks same
  | skippedLine found same | jumped found known same =>
    simp only [Control.of?, found, Option.toList_none, List.append_nil]
    exact tracks.of_sameStacks same
  | called found named known =>
    simp only [Control.of?, found, Option.toList_some]
    exact {
      gosubStack := tracks.gosubStack.opens rfl
      repeatStack := tracks.repeatStack.other rfl
      forStack := tracks.forStack.other rfl }
  | returned found stack =>
    simp only [Control.of?, found, Option.toList_some]
    exact {
      gosubStack := (stack ▸ tracks.gosubStack).closes rfl rfl
      repeatStack := tracks.repeatStack.other rfl
      forStack := tracks.forStack.other rfl }
  | entered found clause enters =>
    simp only [Control.of?, found, clause, if_pos enters, Option.toList_some]
    exact {
      gosubStack := tracks.gosubStack.other rfl
      repeatStack := tracks.repeatStack.other rfl
      forStack := tracks.forStack.opens rfl }
  | skippedBody found clause exceeds =>
    simp only [Control.of?, found, clause, if_neg exceeds, Option.toList_none, List.append_nil]
    exact { tracks with }
  | leftFor found stack exceeds =>
    simp only [Control.of?, found, Option.toList_some]
    exact {
      gosubStack := tracks.gosubStack.other rfl
      repeatStack := tracks.repeatStack.other rfl
      forStack := (stack ▸ tracks.forStack).closes rfl (by simpa [Store.get_set] using exceeds) }
  | repeatedFor found stack within =>
    simp only [Control.of?, found, Option.toList_some]
    refine {
      gosubStack := tracks.gosubStack.other rfl
      repeatStack := tracks.repeatStack.other rfl
      forStack := ?_ }
    rw [stack]
    exact (stack ▸ tracks.forStack).stays rfl (by simpa [Store.get_set] using within)
  | opened found =>
    simp only [Control.of?, found, Option.toList_some]
    exact {
      gosubStack := tracks.gosubStack.other rfl
      repeatStack := tracks.repeatStack.opens rfl
      forStack := tracks.forStack.other rfl }
  | leftRepeat found stack condition holds =>
    simp only [Control.of?, found, condition, Option.map_some, Option.toList_some]
    exact {
      gosubStack := tracks.gosubStack.other rfl
      repeatStack := (stack ▸ tracks.repeatStack).closes rfl (by simpa using holds)
      forStack := tracks.forStack.other rfl }
  | repeated found stack condition fails =>
    simp only [Control.of?, found, condition, Option.map_some, Option.toList_some]
    refine {
      gosubStack := tracks.gosubStack.other rfl
      repeatStack := ?_
      forStack := tracks.forStack.other rfl }
    rw [stack]
    exact (stack ▸ tracks.repeatStack).stays rfl (by simpa using fails)

namespace Machine

variable {σ : Type} {p : Program} {config : Config} {before first machine after : Machine σ}
  {steps : Nat}

theorem start_tracks (started : start p config before = .ok () first) : first.state.Tracks [] := by
  obtain ⟨cursor, -, made⟩ := start_eq_ok started
  rw [made]
  exact ⟨.nil .nil, .nil .nil, .nil .nil⟩

variable [Console σ]

theorem loop_tracks {events : List Control} {completion : Option Completion}
    (tracks : machine.state.Tracks events)
    (ran : loop p config steps machine = .ok completion after) :
    after.state.Tracks (events ++ history p config steps machine) := by
  have addsUp : AddsUp (σ := σ)
      (fun before added after => ∀ events, before.state.Tracks events →
        after.state.Tracks (events ++ added))
      fun _ _ _ => True := by
    refine ⟨fun _ events tracks => ?_, fun first second events tracks => ?_, fun _ _ => trivial⟩
    · simpa using tracks
    · rw [← List.append_assoc]
      exact second _ (first events tracks)
  refine (loop_along addsUp (fun machine => ?_) steps machine).of_ok ran events tracks
  rw [control?]
  cases stepped : step p config machine with
  | error => exact .error trivial
  | ok progress after => exact .ok fun events => (step_effect stepped).tracks

end Machine

/-! ### RETURN -/

namespace Control

variable {outer : Option Nat} {items : List Nat} {events : List Control}

theorem eq_called {event : Control} {resume : Nat} (mark : calls event = .opens resume) :
    event = .called resume := by
  cases event <;> simp_all [calls]

theorem eq_returned {event : Control} {test : Nat → Bool} (mark : calls event = .closes test) :
    event = .returned ∧ ∀ resume, test resume = true := by
  cases event with
  | returned =>
    cases mark
    exact ⟨rfl, fun _ => rfl⟩
  | _ => cases mark

theorem countP_of_calm (calm : Mark.Calm calls outer events) :
    events.countP isCall = events.countP isReturn := by
  induction calm with
  | nil => rfl
  | @other _ event _ mark _ ih =>
    cases event with
    | called | returned => cases mark
    | _ => simpa [isCall, isReturn] using ih
  | stays mark fails =>
    -- a RETURN closes every call
    rw [(eq_returned mark).2] at fails
    cases fails
  | block mark _ closes _ _ inner ih =>
    cases eq_called mark
    cases (eq_returned closes).1
    simp only [List.countP_cons, List.countP_append, inner, ih, isCall, isReturn, if_true,
      Bool.false_eq_true, if_false]
    omega

theorem countP_of_unclosed (unclosed : Mark.Unclosed calls events items) :
    events.countP isCall = events.countP isReturn + items.length := by
  induction unclosed with
  | nil calm => exact countP_of_calm calm
  | cons _ mark calm ih =>
    cases eq_called mark
    simp only [List.countP_append, List.countP_cons, countP_of_calm calm, ih, isCall, isReturn,
      List.length_cons, if_true, Bool.false_eq_true, if_false]
    omega

end Control

namespace Machine

variable {σ : Type} [Console σ] {p : Program} {config : Config} {before first machine : Machine σ}
  {steps : Nat}

theorem step_of_return (found : (machine.state.reading p).found = .ok (.keyword .RETURN)) :
    step p config machine =
      match machine.state.gosubStack with
      | [] => .error .returnWithoutGosub (machine.dispatched p)
      | target :: rest =>
        .ok (.jumped (machine.state.reading p).stop target)
          { machine with
            state := { machine.state with
              cursor := .jump p target
              gosubStack := rest
              statementStart := (machine.state.reading p).stop } } := by
  rw [step_of_keyword found, Statement.perform, Statement.returnFromSub]
  change ((match machine.state.gosubStack with
    | [] => throw .returnWithoutGosub
    | target :: rest => do
      Exec.modifyState fun state => { state with gosubStack := rest }
      return .jump target : Exec σ Flow) >>= follow p) (machine.dispatched p) = _
  cases machine.state.gosubStack <;> rfl

/-- At the start of every step, each stack holds exactly what its statements have opened and
not closed. A RETURN succeeds if more GOSUBs than RETURNs have been executed, and goes on
behind the GOSUB it closes; otherwise it fails, and no more has changed than that it has been
read. -/
theorem stacks_of_history (started : start p config before = .ok () first)
    (ran : loop p config steps first = .ok none machine) :
    let events := history p config steps first
    (∀ items, Mark.Unclosed Control.calls events items ↔ items = machine.state.gosubStack) ∧
    (∀ items, Mark.Unclosed Control.repeats events items ↔ items = machine.state.repeatStack) ∧
    (∀ frames, Mark.Unclosed Control.loops events frames ↔ frames = machine.state.forStack) ∧
    ((machine.state.reading p).found = .ok (.keyword .RETURN) →
      if events.countP Control.isReturn < events.countP Control.isCall then
        ∃ earlier target inner after, events = earlier ++ .called target :: inner ∧
          Mark.Calm Control.calls (some target) inner ∧
          step p config machine = .ok (.jumped (machine.state.reading p).stop target) after ∧
          after.state.cursor.offset = target
      else step p config machine = .error .returnWithoutGosub (machine.dispatched p)) := by
  intro events
  have tracks : machine.state.Tracks events := loop_tracks (start_tracks started) ran
  refine ⟨?_, ?_, ?_, ?_⟩
  · exact fun items => ⟨(·.unique tracks.gosubStack), (· ▸ tracks.gosubStack)⟩
  · exact fun items => ⟨(·.unique tracks.repeatStack), (· ▸ tracks.repeatStack)⟩
  · exact fun frames => ⟨(·.unique tracks.forStack), (· ▸ tracks.forStack)⟩
  intro found
  have counted := Control.countP_of_unclosed tracks.gosubStack
  rw [step_of_return found]
  cases stack : machine.state.gosubStack with
  | nil =>
    rw [stack, List.length_nil] at counted
    rw [if_neg (by omega)]
  | cons target rest =>
    rw [stack, List.length_cons] at counted
    rw [if_pos (by omega)]
    obtain ⟨earlier, event, inner, split, mark, calm⟩ := (stack ▸ tracks.gosubStack).innermost
    cases Control.eq_called mark
    -- what is jumped to lies within the text
    have target_le : target ≤ p.length := by
      have lands := (loop_surveyed started ran).1
      exact (lands.gosubStack target (by simp [stack])).le_length
    exact ⟨earlier, target, inner, _, split, calm, rfl, Nat.min_eq_left target_le⟩

/-- A subroutine that calls another one and then returns out of two loops. -/
def leavingLoops : Program := .ofString
  "10 GOSUB 30\n20 END\n30 GOSUB 50\n40 REPEAT FOR I=1 TO 2 RETURN\n50 RETURN\n"

/-- Before the second RETURN, the first GOSUB is unclosed and so are both loops. The RETURN
goes on behind this GOSUB. -/
theorem stacks_of_history_leavingLoops :
    ∃ first machine : Machine Buffer, start leavingLoops {} ⟨{}, {}⟩ = .ok () first ∧
      loop leavingLoops {} 10 first = .ok none machine ∧
      (machine.state.reading leavingLoops).found = .ok (.keyword .RETURN) ∧
      Mark.Unclosed Control.calls (history leavingLoops {} 10 first) [11] ∧
      Mark.Unclosed Control.repeats (history leavingLoops {} 10 first) [40] ∧
      machine.state.forStack.map (·.resume) = [54] ∧
      ∃ after, step leavingLoops {} machine = .ok (.jumped 60 11) after ∧
        after.state.cursor.offset = 11 := by
  obtain ⟨completion, machine, ran, checked⟩ := exists_of_succeedsWith (show
    succeedsWith (fun completion machine => completion = none ∧
        (machine.state.reading leavingLoops).found = .ok (.keyword .RETURN) ∧
        machine.state.gosubStack = [11] ∧ machine.state.repeatStack = [40] ∧
        machine.state.forStack.map (·.resume) = [54] ∧
        (machine.state.reading leavingLoops).stop = 60)
      ((start leavingLoops {} >>= fun _ => loop leavingLoops {} 10) (⟨{}, {}⟩ : Machine Buffer)) =
        true
    by decide +kernel)
  obtain ⟨_, first, started, looped⟩ := exists_of_bind_ok ran
  obtain ⟨rfl, found, gosubStack, repeatStack, forStack, stop⟩ := of_decide_eq_true checked
  obtain ⟨calls, repeats, -, returns⟩ := stacks_of_history started looped
  have unclosed := (calls [11]).mpr gosubStack.symm
  refine ⟨first, machine, started, looped, found, unclosed, (repeats [40]).mpr repeatStack.symm,
    forStack, ?_⟩
  have counted := Control.countP_of_unclosed unclosed
  have returns := returns found
  rw [if_pos (by simp [counted])] at returns
  obtain ⟨earlier, target, inner, after, -, -, stepped, resumes⟩ := returns
  have target_eq : target = 11 := by
    rw [step_of_return found, gosubStack] at stepped
    cases stepped
    rfl
  subst target_eq
  rw [stop] at stepped
  exact ⟨after, stepped, resumes⟩

end Machine

end LineBasic
