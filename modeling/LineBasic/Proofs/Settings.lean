import LineBasic.Proofs.Cues
import LineBasic.Proofs.LabelRoom
import LineBasic.Proofs.OneProgram

/-!
# Settings

The settings do not change what a program computes. They set how many blanks a comma leads
over, what INPUT asks and complains, and how many labels there may be. On a console that gives
the same answers whatever is written, and with room for the labels of the program, two runs
with different settings go through the same states; their calls are made for the same cues
with the same outcomes, and differ only in texts that the settings give.
-/

namespace LineBasic

/-! ### Consoles that do not look at texts -/

namespace Console

variable {σ : Type} [Console σ]

/-- Two calls have the same outcome, and leave consoles that are the same in some sense. -/
def SameAnswers {σ α : Type} (same : σ → σ → Prop) :
    EStateM.Result String σ α → EStateM.Result String σ α → Prop :=
  Agree (fun answer after answer' after' => answer = answer' ∧ same after after')
    fun reason after reason' after' => reason = reason' ∧ same after after'

/-- On consoles that are the same, calls have the same outcome whatever texts are written. -/
structure Indifferent (same : σ → σ → Prop) : Prop where
  write : ∀ {console console'}, same console console' → ∀ text text',
    SameAnswers same (Console.write text console) (Console.write text' console')
  flush : ∀ {console console'}, same console console' →
    SameAnswers same (Console.flush console) (Console.flush console')
  readLine : ∀ {console console'}, same console console' →
    SameAnswers same (Console.readLine console) (Console.readLine console')

/-- The answers of the console do not depend on the texts that are written. -/
def TextBlind (console : σ) : Prop := ∃ same, Indifferent same ∧ same console console

/-- A buffer answers from its lines, and these do not depend on what is written. -/
theorem textBlind_buffer (buffer : Buffer) : TextBlind buffer := by
  refine ⟨fun left right => left.input = right.input, ⟨?_, ?_, ?_⟩, rfl⟩
  · intro console console' same text text'
    exact .ok ⟨rfl, same⟩
  · intro console console' same
    exact .ok ⟨rfl, same⟩
  · rintro ⟨output, input⟩ ⟨output', _⟩ rfl
    cases input with
    | nil => exact .ok ⟨rfl, rfl⟩
    | cons line rest => exact .ok ⟨rfl, rfl⟩

/-- The same calls are still to fail, on consoles that are the same. -/
structure SameFaults (same : σ → σ → Prop) (left right : Faulty σ) : Prop where
  console : same left.console right.console
  writes : left.failingWrite = right.failingWrite
  flushes : left.failingFlush = right.failingFlush
  reads : left.failingRead = right.failingRead

omit [Console σ] in
/-- Calls are alike on faulty consoles if they are on the consoles inside, whether they are
passed on or fail before. -/
theorem sameAnswers_faulty {α : Type} {same : σ → σ → Prop} {left right : Faulty σ}
    {call call' : EStateM String σ α} (faults : SameFaults same left right)
    (alike : SameAnswers same (call left.console) (call' right.console)) (fails : Bool)
    (reason : String) :
    SameAnswers (SameFaults same)
      ((if fails then throw reason else Faulty.pass call : EStateM String (Faulty σ) α) left)
      ((if fails then throw reason else Faulty.pass call' : EStateM String (Faulty σ) α)
        right) := by
  cases fails with
  | true => exact .error ⟨rfl, faults⟩
  | false =>
    simp only [Bool.false_eq_true, if_false, Faulty.pass]
    generalize call left.console = result at alike ⊢
    generalize call' right.console = result' at alike ⊢
    cases alike with
    | ok holds => exact .ok ⟨holds.1, holds.2, faults.writes, faults.flushes, faults.reads⟩
    | error holds => exact .error ⟨holds.1, holds.2, faults.writes, faults.flushes, faults.reads⟩

/-- Single calls that fail leave a console blind to texts. -/
theorem textBlind_faulty {faulty : Faulty σ} (blind : TextBlind faulty.console) :
    TextBlind faulty := by
  obtain ⟨same, indifferent, here⟩ := blind
  refine ⟨SameFaults same, ⟨?_, ?_, ?_⟩, here, rfl, rfl, rfl⟩
  -- a call counts down before it fails or is passed on
  · rintro ⟨console, writes, flushes, reads⟩ ⟨console', _, _, _⟩ ⟨alike, rfl, rfl, rfl⟩ text text'
    have counted : SameFaults same ⟨console, (Faulty.countdown writes).2, flushes, reads⟩
        ⟨console', (Faulty.countdown writes).2, flushes, reads⟩ := ⟨alike, rfl, rfl, rfl⟩
    exact sameAnswers_faulty counted (indifferent.write alike text text')
      (Faulty.countdown writes).1 "write failed"
  · rintro ⟨console, writes, flushes, reads⟩ ⟨console', _, _, _⟩ ⟨alike, rfl, rfl, rfl⟩
    have counted : SameFaults same ⟨console, writes, (Faulty.countdown flushes).2, reads⟩
        ⟨console', writes, (Faulty.countdown flushes).2, reads⟩ := ⟨alike, rfl, rfl, rfl⟩
    exact sameAnswers_faulty counted (indifferent.flush alike) (Faulty.countdown flushes).1
      "flush failed"
  · rintro ⟨console, writes, flushes, reads⟩ ⟨console', _, _, _⟩ ⟨alike, rfl, rfl, rfl⟩
    have counted : SameFaults same ⟨console, writes, flushes, (Faulty.countdown reads).2⟩
        ⟨console', writes, flushes, (Faulty.countdown reads).2⟩ := ⟨alike, rfl, rfl, rfl⟩
    exact sameAnswers_faulty counted (indifferent.readLine alike) (Faulty.countdown reads).1
      "read failed"

end Console

/-! ### Calls for the same cues -/

/-- Calls of the same kind with the same outcome. -/
inductive Call.Alike : Call → Call → Prop
  | write (text text' : String) (outcome : Except String Unit) :
      Alike (.write text outcome) (.write text' outcome)
  | flush (outcome : Except String Unit) : Alike (.flush outcome) (.flush outcome)
  | readLine (outcome : Except String (Option String)) :
      Alike (.readLine outcome) (.readLine outcome)

/-- The same has been called on consoles that are the same, with texts that may differ. -/
structure SameRecords {σ : Type} (same : σ → σ → Prop) (left right : Recorded σ) : Prop where
  console : same left.console right.console
  calls : List.Forall₂ Call.Alike left.calls right.calls

theorem SameRecords.noting {σ α : Type} {same : σ → σ → Prop} {left right : Recorded σ}
    {note note' : Except String α → Call} {call call' : EStateM String σ α}
    (records : SameRecords same left right)
    (notes : ∀ outcome, (note outcome).Alike (note' outcome))
    (alike : Console.SameAnswers same (call left.console) (call' right.console)) :
    Console.SameAnswers (SameRecords same) (Recorded.noting note call left)
      (Recorded.noting note' call' right) := by
  simp only [Recorded.noting]
  generalize call left.console = result at alike ⊢
  generalize call' right.console = result' at alike ⊢
  cases alike with
  | ok holds =>
    obtain ⟨rfl, after⟩ := holds
    exact .ok ⟨rfl, after, .cons (notes _) records.calls⟩
  | error holds =>
    obtain ⟨rfl, after⟩ := holds
    exact .error ⟨rfl, after, .cons (notes _) records.calls⟩

/-- Consoles that do not look at texts, with any two settings. -/
def Exchange.indifferent (config config' : Config) {σ : Type} [Console σ] {same : σ → σ → Prop}
    (indifferent : Console.Indifferent same) :
    Exchange config config' (Recorded σ) (Recorded σ) where
  Consoles := SameRecords same
  Texts _ _ := True
  Columns _ _ := True
  same_text _ := trivial
  prompt := trivial
  message := trivial
  first_column := trivial
  later_column _ _ := trivial
  padding _ := ⟨trivial, trivial⟩
  write := by
    intro console console' text text' records _
    have alike := records.noting (Call.Alike.write text text')
      (indifferent.write records.console text text')
    exact alike.imp (fun _ _ _ _ holds => holds.2) fun _ _ _ _ holds => holds
  flush := by
    intro console console' records
    have alike := records.noting Call.Alike.flush (indifferent.flush records.console)
    exact alike.imp (fun _ _ _ _ holds => holds.2) fun _ _ _ _ holds => holds
  readLine := by
    intro console console' records
    exact records.noting Call.Alike.readLine (indifferent.readLine records.console)

/-- What the calls for a cue are with two settings. Only blanks, the prompt and the message of
the settings may differ. -/
inductive Cue.Pairs (config config' : Config) : Cue → Call → Call → Prop
  | text (text : String) (outcome : Except String Unit) :
      Pairs config config' (.text text) (.write text outcome) (.write text outcome)
  | tab (column column' : Nat) (outcome : Except String Unit) :
      Pairs config config' .tab
        (.write (String.ofList (List.replicate (config.padding column) ' ')) outcome)
        (.write (String.ofList (List.replicate (config'.padding column') ' ')) outcome)
  | prompt (outcome : Except String Unit) :
      Pairs config config' .prompt (.write config.inputPrompt outcome)
        (.write config'.inputPrompt outcome)
  | complaint (outcome : Except String Unit) :
      Pairs config config' .complaint (.write (config.invalidInputMessage ++ "\n") outcome)
        (.write (config'.invalidInputMessage ++ "\n") outcome)
  | flush (outcome : Except String Unit) :
      Pairs config config' .flush (.flush outcome) (.flush outcome)
  | read (outcome : Except String (Option String)) :
      Pairs config config' .read (.readLine outcome) (.readLine outcome)

/-- Two lists of calls for the same cues. -/
inductive Paired (config config' : Config) : List Cue → List Call → List Call → Prop
  | nil : Paired config config' [] [] []
  | cons {cue : Cue} {call call' : Call} {cues : List Cue} {calls calls' : List Call}
      (pairs : cue.Pairs config config' call call')
      (paired : Paired config config' cues calls calls') :
      Paired config config' (cue :: cues) (call :: calls) (call' :: calls')

theorem Cue.Gives.pairs {config config' : Config} {cue : Cue} {call call' : Call}
    (gives : cue.Gives config call) (gives' : cue.Gives config' call') (alike : call.Alike call') :
    cue.Pairs config config' call call' := by
  cases gives <;> cases gives' <;> cases alike <;> constructor

theorem Paired.of_gives {config config' : Config} {cues : List Cue} {calls calls' : List Call}
    (gives : List.Forall₂ (Cue.Gives config) cues calls)
    (gives' : List.Forall₂ (Cue.Gives config') cues calls')
    (alike : List.Forall₂ Call.Alike calls calls') : Paired config config' cues calls calls' := by
  induction gives generalizing calls' with
  | nil =>
    cases gives'
    exact .nil
  | cons given _ ih =>
    cases gives' with
    | cons given' gives' =>
      cases alike with
      | cons same alike => exact .cons (given.pairs given' same) (ih gives' alike)

/-! ### The cues of a run -/

/-- Each call that has been made answers its cue. -/
theorem Spoken.gives {config : Config} {cues : List Cue} {calls : List Call}
    {failure : Option Failure} (spoken : Spoken config cues calls failure) :
    List.Forall₂ (Cue.Gives config) (cues.take calls.length) calls := by
  induction spoken with
  | stops => exact .nil
  | fails gives => exact .cons gives .nil
  | goes gives _ _ ih => exact .cons gives ih

namespace Machine

open Exec

variable {σ : Type} [Console σ] {p : Program} {config config' : Config}

/-- The cues that a step follows: those of its statement for which a call has been made. -/
def followed (p : Program) (config : Config) (machine : Machine (Recorded σ)) : List Cue :=
  (machine.state.cues p).take
    ((finalState (step p config machine)).console.calls.length - machine.console.calls.length)

/-- The cues that the statements of a run follow within a number of steps. -/
def cued (machine : Machine (Recorded σ)) (p : Program) (config : Config) (steps : Nat) :
    List Cue :=
  along (followed p config) p config steps machine

/-- The cues that a run follows within a number of steps. The last one is to flush the console,
if the run is through. -/
def script (p : Program) (config : Config) (steps : Nat) (machine : Machine σ) : List Cue :=
  match start p config machine.recording with
  | .error _ _ => []
  | .ok _ first =>
    first.cued p config steps ++
      match loop p config steps first with
      | .ok (some _) _ => [.flush]
      | _ => []

/-- The calls between two machines are made for the cues. -/
def GivesFor (config : Config) (before : Machine (Recorded σ)) (cues : List Cue)
    (after : Machine (Recorded σ)) : Prop :=
  ∃ made, after.console.calls = made.reverse ++ before.console.calls ∧
    List.Forall₂ (Cue.Gives config) cues made

theorem step_gives (p : Program) (config : Config) (machine : Machine (Recorded σ)) :
    GivesFor config machine (machine.followed p config) (finalState (step p config machine)) := by
  obtain ⟨made, heard, spoken⟩ := step_speaks p config machine
  have count : (finalState (step p config machine)).console.calls.length -
      machine.console.calls.length = made.length := by
    simp [heard]
  refine ⟨made, heard, ?_⟩
  rw [followed, count]
  exact spoken.gives

/-- The calls of a loop are made for its cues. -/
theorem loop_gives (p : Program) (config : Config) (steps : Nat) (machine : Machine (Recorded σ)) :
    GivesFor config machine (machine.cued p config steps)
      (finalState (loop p config steps machine)) := by
  have trans : ∀ {before between after : Machine (Recorded σ)} {earlier later : List Cue},
      GivesFor config before earlier between → GivesFor config between later after →
        GivesFor config before (earlier ++ later) after := by
    rintro before between after earlier later ⟨made, heard, gives⟩ ⟨more, further, goes⟩
    exact ⟨made ++ more, by simp [further, heard], List.rel_append gives goes⟩
  have addsUp : AddsUp (GivesFor (σ := σ) config) (GivesFor config) :=
    ⟨fun _ => ⟨[], rfl, .nil⟩, trans, trans⟩
  have holds := fun machine : Machine (Recorded σ) =>
    Leaves.iff_finalState.mpr (step_gives p config machine)
  exact Leaves.iff_finalState.mp (loop_along addsUp holds steps machine)

/-- The final flush of a run is noted, whether it succeeds or fails. -/
theorem flush_gives (completion : Completion) (machine : Machine (Recorded σ)) :
    ∃ outcome, (finalState ((do flush; return some completion : Exec _ (Option Completion))
      machine)).console.calls = .flush outcome :: machine.console.calls := by
  rcases flush_cases machine with ⟨console, flushed⟩ | ⟨reason, console, refused⟩
  · rw [bind_of_ok flushed]
    exact ⟨_, rfl⟩
  · rw [bind_of_error refused]
    exact ⟨_, rfl⟩

/-- The calls of a run are made for its cues. -/
theorem run_gives (p : Program) (config : Config) (steps : Nat) (machine : Machine σ) :
    List.Forall₂ (Cue.Gives config) (machine.script p config steps)
      (machine.calls p config steps) := by
  have untouched := start_console p config machine.recording
  -- nothing is on record at the start, so the calls of the loop are all there are
  have looped : ∀ {first}, start p config machine.recording = .ok () first →
      List.Forall₂ (Cue.Gives config) (first.cued p config steps)
        (finalState (loop p config steps first)).console.calls.reverse := by
    intro first started
    obtain ⟨made, heard, gives⟩ := loop_gives p config steps first
    rw [started, finalState] at untouched
    rw [heard, untouched]
    simpa [recording] using gives
  have runs := run_runsTo p config steps machine.recording
  rw [calls, script]
  generalize run p config steps machine.recording = result at runs ⊢
  cases runs with
  | unstarted failed =>
    rw [failed, finalState] at untouched
    rw [failed, finalState, untouched]
    exact .nil
  | broken started failed =>
    have gives := looped started
    rw [failed] at gives
    simp only [started, failed, List.append_nil]
    exact gives
  | underway started ran =>
    have gives := looped started
    rw [ran] at gives
    simp only [started, ran, List.append_nil]
    exact gives
  | @through _ last completion started ran =>
    have gives := looped started
    obtain ⟨outcome, flushed⟩ := flush_gives completion last
    rw [ran] at gives
    simp only [started, ran, flushed, List.reverse_cons]
    exact List.rel_append gives (.cons (.flush outcome) .nil)

section TwoSettings

variable {same : σ → σ → Prop} {indifferent : Console.Indifferent same}

/-- Machines side by side follow the same cues. -/
theorem cued_eq (steps : Nat) {machine machine' : Machine (Recorded σ)}
    (machines : (Alignment.identity p).Machines (.indifferent config config' indifferent) machine
      machine') :
    machine.cued p config steps = machine'.cued p config' steps := by
  rw [cued, cued]
  induction steps generalizing machine machine' with
  | zero => rw [along, along]
  | succ steps ih =>
    have state := machines.state.eq
    have before := machines.console.calls.length_eq
    have settles := Alignment.matches_step machines
    rw [along, along, followed, followed, state, before]
    generalize step p config machine = result at settles ⊢
    generalize step p config' machine' = result' at settles ⊢
    -- both steps have made the same number of calls, and go on side by side
    cases settles with
    | error holds =>
      have after := holds.2.console.calls.length_eq
      simp only [finalState, after]
    | @ok progress _ _ _ holds =>
      obtain ⟨advances, machines⟩ := holds
      obtain rfl := advances.eq
      have after := machines.console.calls.length_eq
      cases progress with
      | finished => simp only [finalState, after]
      | moved | jumped => simp only [finalState, after, ih machines]

/-- Runs with different settings follow the same cues. -/
theorem script_eq (indifferent : Console.Indifferent same) (admits : config.Admits p)
    (admits' : config'.Admits p) (steps : Nat) {machine : Machine σ}
    (here : same machine.console machine.console) :
    machine.script p config steps = machine.script p config' steps := by
  have records : (Exchange.indifferent config config' indifferent).Consoles
      machine.recording.console machine.recording.console := ⟨here, .nil⟩
  have starts := start_beside (Labels.collect_eq admits admits') machine.recording.state records
  rw [script, script]
  change Agree _ _ (start p config machine.recording) (start p config' machine.recording) at starts
  generalize start p config machine.recording = result at starts ⊢
  generalize start p config' machine.recording = result' at starts ⊢
  cases starts with
  | error => rfl
  | @ok _ first _ first' machines =>
    have settles := Alignment.matches_loop steps machines
    have cues := cued_eq steps machines
    simp only [cues]
    generalize loop p config steps first = looped at settles ⊢
    generalize loop p config' steps first' = looped' at settles ⊢
    cases settles with
    | error => rfl
    | @ok completion _ _ _ holds =>
      obtain ⟨rfl, -⟩ := holds
      cases completion <;> rfl

end TwoSettings

/-- Settings do not change what a program computes. With room for the labels of the program,
and on a console that does not look at texts, a run comes to the same end in the same state
whatever the settings are. Its calls are made for the same cues with the same outcomes; their
texts are the same except where the cue asks for blanks or for a text of the settings. -/
theorem run_of_settings (admits : config.Admits p) (admits' : config'.Admits p) (steps : Nat)
    {machine : Machine σ} (blind : Console.TextBlind machine.console) :
    ending (run p config steps machine) = ending (run p config' steps machine) ∧
      (finalState (run p config steps machine)).state =
        (finalState (run p config' steps machine)).state ∧
      Paired config config' (machine.script p config steps) (machine.calls p config steps)
        (machine.calls p config' steps) := by
  obtain ⟨same, indifferent, here⟩ := blind
  have records : (Exchange.indifferent config config' indifferent).Consoles
      machine.recording.console machine.recording.console := ⟨here, .nil⟩
  have beside :=
    run_beside (Labels.collect_eq admits admits') steps machine.recording.state records
  have recorded := run_recording p config steps machine
  have recorded' := run_recording p config' steps machine
  refine ⟨?_, ?_, ?_⟩
  · rw [recorded.ending, recorded'.ending]
    exact beside.ending
  · rw [recorded.final.1, recorded'.final.1]
    exact beside.final.1
  · -- the calls of both runs are made for one script, and side by side they are alike
    have gives' := run_gives p config' steps machine
    rw [← script_eq indifferent admits admits' steps here] at gives'
    exact .of_gives (run_gives p config steps machine) gives'
      (List.rel_reverse beside.final.2.calls)

/-- Prints in columns and asks twice. -/
def inColumns : Program := .ofString "10 PRINT 1,2\n20 INPUT A\n30 INPUT B\n"

/-- Room for just the labels of this program, and other texts. -/
def narrow : Config :=
  { tabWidth := 3, labelCapacity := some 3, inputPrompt := "> ", invalidInputMessage := "?" }

/-- Has a line that is not a number, and refuses the second read. -/
def unwilling : Machine (Faulty Buffer) :=
  { console := { console := { input := ["x"] }, failingRead := some 2 } }

/-- The output differs, but not the end of the run. -/
theorem run_of_settings_inColumns :
    inColumns.labelCount = 3 ∧
      (finalState (run inColumns {} 20 unwilling)).console.console.output =
        "1       2\n? Invalid input.\n? " ∧
      (finalState (run inColumns narrow 20 unwilling)).console.console.output =
        "1  2\n> ?\n> " ∧
      (finalState (run inColumns {} 20 unwilling)).state =
        (finalState (run inColumns narrow 20 unwilling)).state ∧
      Paired {} narrow (unwilling.script inColumns {} 20) (unwilling.calls inColumns {} 20)
        (unwilling.calls inColumns narrow 20) := by
  have three : inColumns.labelCount = 3 := by decide +kernel
  have unlimited : Config.Admits {} inColumns := by
    intro capacity limit
    cases limit
  have enough : narrow.Admits inColumns := by
    intro capacity limit
    cases limit
    exact three.le
  have blind : Console.TextBlind unwilling.console :=
    Console.textBlind_faulty (Console.textBlind_buffer _)
  obtain ⟨-, state, paired⟩ := run_of_settings unlimited enough 20 blind
  exact ⟨three, by decide +kernel, by decide +kernel, state, paired⟩

end Machine

end LineBasic
