import LineBasic.Proofs.Cues
import LineBasic.Proofs.OneProgram

/-!
# The order of console calls

However the statements of a program follow each other, and whichever calls the console
refuses, a run makes its calls in a certain order. Before each read the console has been
flushed, and before that the INPUT that makes the read has written its prompt; there is no
other flush but one at the end of the run. After a call that has failed there is none, and
the run fails for the same reason.

Whether a call is in order can be told from the calls before it. So `Orderly` looks at a
list of calls with the latest first, as they are recorded; which INPUT makes a read is left
to a predicate. Between two statements the list is also `Rested`, and all a step has to do is
to keep it so. `Machine.run_protocol` then says the same of the calls of a run in the order in
which they are made.
-/

namespace LineBasic

/-- Says of a read which calls have been made before its prompt, what the text of the prompt is
and what has become of the read. -/
abbrev Reads := List Call → String → Except String (Option String) → Prop

/-- All calls have been made, and no flush waits for a read. -/
structure Rested (calls : List Call) : Prop where
  made : ∀ call ∈ calls, call.failure? = none
  unflushed : ∀ outcome, calls.head? ≠ some (.flush outcome)

/-- Each call is in order after the calls before it. -/
inductive Orderly (reads : Reads) : List Call → Prop
  | nil : Orderly reads []
  | write {calls : List Call} (orderly : Orderly reads calls) (rested : Rested calls)
      (text : String) (outcome : Except String Unit) :
      Orderly reads (.write text outcome :: calls)
  | flush {calls : List Call} (orderly : Orderly reads calls) (rested : Rested calls)
      (outcome : Except String Unit) : Orderly reads (.flush outcome :: calls)
  | readLine {calls : List Call} {text : String} {outcome : Except String (Option String)}
      (orderly : Orderly reads (.flush (.ok ()) :: .write text (.ok ()) :: calls))
      (read : reads calls text outcome) :
      Orderly reads (.readLine outcome :: .flush (.ok ()) :: .write text (.ok ()) :: calls)

/-- What is left of the calls when a computation is through, or has failed. A call that could
not be made is the cause of the failure. -/
inductive Obeys (reads : Reads) (calls : List Call) : Option Failure → Prop
  | rests (orderly : Orderly reads calls) (rested : Rested calls) : Obeys reads calls none
  | breaks {failure : Failure} (orderly : Orderly reads calls)
      (blamed : ∀ call ∈ calls, ∀ cause, call.failure? = some cause → cause = failure) :
      Obeys reads calls (some failure)

variable {p : Program} {config : Config} {reads : Reads}

theorem Rested.cons {calls : List Call} {call : Call} (rested : Rested calls)
    (made : call.failure? = none) (notFlush : ∀ outcome, call ≠ .flush outcome) :
    Rested (call :: calls) where
  made := by
    intro other member
    rcases List.mem_cons.mp member with rfl | member
    · exact made
    · exact rested.made other member
  unflushed := by
    intro outcome
    simpa using notFlush outcome

namespace Obeys

variable {calls : List Call} {call : Call} {failure : Failure}

/-- Nothing is out of order where a statement breaks off between two calls. -/
theorem of_made (orderly : Orderly reads calls) (made : ∀ call ∈ calls, call.failure? = none) :
    Obeys reads calls (some failure) := by
  apply breaks orderly
  intro call member cause caused
  rw [made call member] at caused
  cases caused

/-- A statement can stop or fail wherever the calls rest. -/
theorem of_rested (orderly : Orderly reads calls) (rested : Rested calls)
    (failure : Option Failure) : Obeys reads calls failure := by
  cases failure with
  | none => exact rests orderly rested
  | some failure => exact of_made orderly rested.made

/-- A call that could not be made is the cause of the failure. -/
theorem of_failed (orderly : Orderly reads (call :: calls))
    (made : ∀ call ∈ calls, call.failure? = none) (failed : call.failure? = some failure) :
    Obeys reads (call :: calls) (some failure) := by
  apply breaks orderly
  intro other member cause caused
  rcases List.mem_cons.mp member with rfl | member
  · rw [failed] at caused
    exact (Option.some.inj caused).symm
  · rw [made other member] at caused
    cases caused

end Obeys

/-! ### Statements -/

namespace Cue

/-- Whether a text is to be written. -/
def isText : Cue → Bool
  | flush | read => false
  | _ => true

theorem Gives.eq_write {cue : Cue} {call : Call} (gives : cue.Gives config call)
    (isText : cue.isText = true) : ∃ text outcome, call = .write text outcome := by
  cases gives with
  | text | tab | prompt | complaint => exact ⟨_, _, rfl⟩
  | flush | read => cases isText

end Cue

/-- Where only texts are to be written, all is in order. -/
theorem Spoken.obeys {cues : List Cue} {made calls : List Call} {failure : Option Failure}
    (spoken : Spoken config cues made failure) (texts : ∀ cue ∈ cues, cue.isText = true)
    (orderly : Orderly reads calls) (rested : Rested calls) :
    Obeys reads (made.reverse ++ calls) failure := by
  -- a text can be written whenever the calls rest, and they rest again once it is written
  induction spoken generalizing calls with
  | stops => exact .of_rested orderly rested _
  | fails gives failed =>
    obtain ⟨text, outcome, rfl⟩ := gives.eq_write (texts _ List.mem_cons_self)
    exact .of_failed (orderly.write rested text outcome) rested.made failed
  | goes gives made _ ih =>
    obtain ⟨text, outcome, rfl⟩ := gives.eq_write (texts _ List.mem_cons_self)
    have further := ih (fun cue member => texts cue (List.mem_cons_of_mem _ member))
      (orderly.write rested text outcome) (rested.cons made (by simp))
    simpa using further

namespace Statement

theorem printCues_isText (p : Program) (store : Store) (items offset : Nat) (separated : Bool) :
    ∀ cue ∈ printCues p store items offset separated, cue.isText = true := by
  induction items generalizing offset separated with
  | zero => simp [printCues]
  | succ items ih =>
    rw [printCues]
    split
    · simp
    · split
      · split <;> simp [Cue.isText]
      · split
        · simp
        · -- an item, and what its separator leads to
          refine List.forall_mem_cons.mpr ⟨rfl, ?_⟩
          split
          · exact List.forall_mem_cons.mpr ⟨rfl, ih _ true⟩
          · exact List.forall_mem_cons.mpr ⟨rfl, ih _ true⟩
          · split <;> simp [Cue.isText]
          · simp

theorem promptCue_isText (p : Program) (offset : Nat) : (promptCue p offset).isText = true := by
  rw [promptCue]
  split <;> rfl

section Input

variable {calls made : List Call} {text : String} {failure : Option Failure}

/-- What is owed behind the prompt and the flush is the read. -/
theorem obeys_read
    (read : ∀ outcome, [.readLine outcome] <+: made → reads calls text outcome)
    (orderly : Orderly reads (.flush (.ok ()) :: .write text (.ok ()) :: calls))
    (rested : Rested (.write text (.ok ()) :: calls))
    (spoken : Spoken config [.read, .complaint] made failure) :
    Obeys reads (made.reverse ++ .flush (.ok ()) :: .write text (.ok ()) :: calls) failure := by
  have flushed : ∀ call ∈ Call.flush (.ok ()) :: .write text (.ok ()) :: calls,
      call.failure? = none :=
    List.forall_mem_cons.mpr ⟨rfl, rested.made⟩
  cases spoken with
  | stops settled =>
    -- between the flush and the read, an INPUT can only stop by a failure
    cases failure with
    | none => exact absurd rfl (settled rfl)
    | some failure => exact .of_made orderly flushed
  | fails gives failed =>
    cases gives with
    | read outcome =>
      exact .of_failed (orderly.readLine (read outcome (List.prefix_refl _))) flushed failed
  | goes gives answered further =>
    cases gives with
    | read outcome =>
      have rested : Rested
          (.readLine outcome :: .flush (.ok ()) :: .write text (.ok ()) :: calls) :=
        ⟨List.forall_mem_cons.mpr ⟨answered, flushed⟩, by simp⟩
      have ordered := orderly.readLine (read outcome (by simp))
      simpa using further.obeys (by simp [Cue.isText]) ordered rested

theorem obeys_flush
    (read : ∀ outcome, [.flush (.ok ()), .readLine outcome] <+: made → reads calls text outcome)
    (orderly : Orderly reads (.write text (.ok ()) :: calls))
    (rested : Rested (.write text (.ok ()) :: calls))
    (spoken : Spoken config [.flush, .read, .complaint] made failure) :
    Obeys reads (made.reverse ++ .write text (.ok ()) :: calls) failure := by
  cases spoken with
  | stops => exact .of_rested orderly rested _
  | fails gives failed =>
    cases gives with
    | flush outcome => exact .of_failed (orderly.flush rested outcome) rested.made failed
  | goes gives flushed further =>
    cases gives with
    | flush outcome =>
      cases outcome with
      | error => cases flushed
      | ok =>
        have behind := fun outcome made => read outcome (List.cons_prefix_cons.mpr ⟨rfl, made⟩)
        simpa using obeys_read behind (orderly.flush rested (.ok ())) rested further

/-- INPUT has its read behind its flush, and its flush behind its prompt. -/
theorem obeys_input {cue : Cue} (isText : cue.isText = true)
    (read : ∀ text outcome, cue.Gives config (.write text (.ok ())) →
      [.write text (.ok ()), .flush (.ok ()), .readLine outcome] <+: made →
        reads calls text outcome)
    (orderly : Orderly reads calls) (rested : Rested calls)
    (spoken : Spoken config [cue, .flush, .read, .complaint] made failure) :
    Obeys reads (made.reverse ++ calls) failure := by
  cases spoken with
  | stops => exact .of_rested orderly rested _
  | fails gives failed =>
    obtain ⟨text, outcome, rfl⟩ := gives.eq_write isText
    exact .of_failed (orderly.write rested text outcome) rested.made failed
  | goes gives written further =>
    obtain ⟨text, outcome, rfl⟩ := gives.eq_write isText
    cases outcome with
    | error => cases written
    | ok =>
      have behind := fun outcome made =>
        read text outcome gives (List.cons_prefix_cons.mpr ⟨rfl, made⟩)
      simpa using obeys_flush behind (orderly.write rested text (.ok ()))
        (rested.cons written (by simp)) further

end Input

end Statement

/-! ### Runs -/

namespace Machine

open Exec

variable {σ : Type} [Console σ]

/-- The statement at the cursor is an INPUT. Behind the calls that have been made before, it
writes its prompt, flushes the console and makes the read. -/
structure MakesRead (p : Program) (config : Config) (machine : Machine (Recorded σ))
    (calls : List Call) (text : String) (outcome : Except String (Option String)) : Prop where
  found : (machine.state.reading p).found = .ok (.keyword .INPUT)
  before : machine.console.calls = calls
  prompt : (Statement.promptCue p (machine.state.reading p).stop).Gives config
    (.write text (.ok ()))
  made : ∃ later, (finalState (step p config machine)).console.calls =
    later ++ .readLine outcome :: .flush (.ok ()) :: .write text (.ok ()) :: calls

/-- A step leaves the calls in order, and has been refused none unless it fails for that. -/
theorem step_obeys {machine : Machine (Recorded σ)}
    (read : ∀ {calls text outcome}, machine.MakesRead p config calls text outcome →
      reads calls text outcome)
    (orderly : Orderly reads machine.console.calls) (rested : Rested machine.console.calls) :
    Obeys reads (finalState (step p config machine)).console.calls
      (failure? (step p config machine)) := by
  obtain ⟨made, heard, spoken⟩ := step_speaks p config machine
  rw [heard]
  rw [State.cues] at spoken
  split at spoken
  next => exact spoken.obeys (Statement.printCues_isText _ _ _ _ _) orderly rested
  next found =>
    refine Statement.obeys_input (Statement.promptCue_isText p _) ?_ orderly rested spoken
    rintro text outcome prompt ⟨rest, rfl⟩
    exact read ⟨found, rfl, prompt, rest.reverse, by rw [heard]; simp⟩
  next => exact spoken.obeys (by simp) orderly rested

theorem loop_obeys {machine : Machine (Recorded σ)} {steps : Nat}
    (read : ∀ {taken reached calls text outcome}, taken < steps →
      loop p config taken machine = .ok none reached →
      reached.MakesRead p config calls text outcome → reads calls text outcome)
    (orderly : Orderly reads machine.console.calls) (rested : Rested machine.console.calls) :
    Obeys reads (finalState (loop p config steps machine)).console.calls
      (failure? (loop p config steps machine)) := by
  induction steps generalizing machine with
  | zero => exact .rests orderly rested
  | succ steps ih =>
    -- a step that fails ends the loop, and all others leave the calls at rest
    have obeys := step_obeys (read (Nat.zero_lt_succ _) rfl) orderly rested
    rw [loop]
    cases stepped : step p config machine with
    | error failure after =>
      rw [stepped] at obeys
      rw [bind_of_error stepped]
      exact obeys
    | ok progress after =>
      rw [stepped] at obeys
      rw [bind_of_ok stepped]
      obtain ⟨orderly, rested⟩ := obeys
      cases progress with
      | finished => exact .rests orderly rested
      | moved | jumped =>
        refine ih (fun less ran => read (Nat.succ_lt_succ less) ?_) orderly rested
        rw [loop, bind_of_ok stepped]
        exact ran

/-- What is left of the calls of a run. One that is through has flushed the console once more
than its statements have asked for. -/
inductive Closes (reads : Reads) (calls : List Call) :
    Except Failure (Option Completion) → Prop
  | underway (orderly : Orderly reads calls) (rested : Rested calls) :
      Closes reads calls (.ok none)
  | through {completion : Completion} {earlier : List Call} (orderly : Orderly reads earlier)
      (rested : Rested earlier) (flushed : calls = .flush (.ok ()) :: earlier) :
      Closes reads calls (.ok (some completion))
  | fails {failure : Failure} (obeys : Obeys reads calls (some failure)) :
      Closes reads calls (.error failure)

/-- The final flush is in order behind statements that have left all in order. -/
theorem flush_closes {machine : Machine (Recorded σ)} (completion : Completion)
    (orderly : Orderly reads machine.console.calls) (rested : Rested machine.console.calls) :
    Closes reads
      (finalState ((do flush; return some completion) machine)).console.calls
      (ending ((do flush; return some completion : Exec _ (Option Completion)) machine)) := by
  rcases flush_cases machine with ⟨console, flushed⟩ | ⟨reason, console, refused⟩
  · rw [bind_of_ok flushed]
    exact .through orderly rested rfl
  · rw [bind_of_error refused]
    exact .fails (.of_failed (orderly.flush rested (.error reason)) rested.made rfl)

/-- The reads that a run makes within a number of steps, each by an INPUT at one of them. -/
def readsOf (p : Program) (config : Config) (steps : Nat) (machine : Machine σ) : Reads :=
  fun calls text outcome => ∃ first taken reached,
    start p config machine.recording = .ok () first ∧ taken < steps ∧
      loop p config taken first = .ok none reached ∧
      reached.MakesRead p config calls text outcome

theorem run_closes (p : Program) (config : Config) (steps : Nat) (machine : Machine σ) :
    Closes (machine.readsOf p config steps)
      (finalState (run p config steps machine.recording)).console.calls
      (ending (run p config steps machine.recording)) := by
  have untouched := start_console p config machine.recording
  have obeys : ∀ {first}, start p config machine.recording = .ok () first →
      Obeys (machine.readsOf p config steps)
        (finalState (loop p config steps first)).console.calls
        (failure? (loop p config steps first)) := by
    intro first started
    rw [started, finalState] at untouched
    apply loop_obeys fun less ran makes => ⟨first, _, _, started, less, ran, makes⟩
    · rw [untouched]
      exact .nil
    · rw [untouched]
      exact ⟨by simp [recording], by simp [recording]⟩
  have runs := run_runsTo p config steps machine.recording
  generalize run p config steps machine.recording = result at runs ⊢
  cases runs with
  | unstarted failed =>
    rw [failed, finalState] at untouched
    rw [finalState, untouched]
    exact .fails (.of_made .nil (by simp [recording]))
  | broken started failed =>
    have broken := obeys started
    rw [failed] at broken
    exact .fails broken
  | underway started ran =>
    have kept := obeys started
    rw [ran] at kept
    obtain ⟨orderly, rested⟩ := kept
    exact .underway orderly rested
  | through started ran =>
    have kept := obeys started
    rw [ran] at kept
    obtain ⟨orderly, rested⟩ := kept
    exact flush_closes _ orderly rested

end Machine

/-! ### The order in which calls are made -/

namespace Orderly

variable {calls before later : List Call} {call : Call}

theorem tail (orderly : Orderly reads (call :: calls)) : Orderly reads calls := by
  cases orderly with
  | write orderly | flush orderly | readLine orderly => exact orderly

theorem of_append (orderly : Orderly reads (later ++ calls)) : Orderly reads calls := by
  induction later with
  | nil => exact orderly
  | cons call later ih => exact ih orderly.tail

/-- Only after calls that have all been made there is another one. -/
theorem made (orderly : Orderly reads (call :: before)) :
    ∀ earlier ∈ before, earlier.failure? = none := by
  cases orderly with
  | write _ rested | flush _ rested => exact rested.made
  | readLine flushed =>
    cases flushed with
    | flush _ rested => exact List.forall_mem_cons.mpr ⟨rfl, rested.made⟩

theorem behind_flush {outcome : Except String Unit}
    (orderly : Orderly reads (call :: .flush outcome :: before)) :
    ∃ answer, call = .readLine answer := by
  cases orderly with
  | write _ rested | flush _ rested => exact absurd rfl (rested.unflushed outcome)
  | readLine => exact ⟨_, rfl⟩

theorem before_read {outcome : Except String (Option String)}
    (orderly : Orderly reads (.readLine outcome :: before)) :
    ∃ text rest, before = .flush (.ok ()) :: .write text (.ok ()) :: rest ∧
      reads rest text outcome := by
  cases orderly with
  | readLine _ read => exact ⟨_, _, rfl, read⟩

end Orderly

namespace Machine

/-- The order of the calls that a run makes, by what it comes to. -/
structure Protocol (reads : Reads) (ending : Except Failure (Option Completion))
    (calls : List Call) : Prop where
  /-- Right before a read the console has been flushed, and right before that the prompt has
  been written. -/
  read : ∀ earlier outcome later, calls = earlier ++ .readLine outcome :: later →
    ∃ start text, earlier = start ++ [.write text (.ok ()), .flush (.ok ())] ∧
      reads start.reverse text outcome
  /-- Right behind a flush comes a read, or the end of the run. -/
  flush : ∀ earlier outcome later, calls = earlier ++ .flush outcome :: later →
    (∃ answer rest, later = .readLine answer :: rest) ∨ later = [] ∧ ending ≠ .ok none
  /-- Behind a call that fails comes nothing, and it is what the run fails for. -/
  fail : ∀ earlier call later failure, calls = earlier ++ call :: later →
    call.failure? = some failure → later = [] ∧ ending = .error failure
  /-- A run that is through has flushed the console once behind all other calls. -/
  finish : ∀ completion, ending = .ok (some completion) →
    ∃ earlier, calls = earlier ++ [.flush (.ok ())] ∧
      ∀ outcome, earlier.getLast? ≠ some (.flush outcome)

theorem Closes.orderly {calls : List Call} {ending : Except Failure (Option Completion)}
    (closes : Closes reads calls ending) : Orderly reads calls := by
  cases closes with
  | underway orderly => exact orderly
  | through orderly rested flushed =>
    rw [flushed]
    exact orderly.flush rested _
  | fails obeys =>
    cases obeys with
    | breaks orderly => exact orderly

theorem Closes.protocol {latest : List Call} {ending : Except Failure (Option Completion)}
    (closes : Closes reads latest ending) : Protocol reads ending latest.reverse := by
  -- what stands before a call in one order stands behind it in the other
  have turned : ∀ {earlier later call}, latest.reverse = earlier ++ call :: later →
      latest = later.reverse ++ call :: earlier.reverse := by
    intro earlier later call calls
    rw [← List.reverse_reverse latest, calls]
    simp
  refine ⟨?_, ?_, ?_, ?_⟩
  · intro earlier outcome later calls
    have orderly := closes.orderly
    rw [turned calls] at orderly
    obtain ⟨text, rest, before, read⟩ := orderly.of_append.before_read
    refine ⟨rest.reverse, text, ?_, by rwa [List.reverse_reverse]⟩
    rw [← List.reverse_reverse earlier, before]
    simp
  · intro earlier outcome later calls
    have latestFirst := turned calls
    cases later with
    | nil =>
      refine .inr ⟨rfl, ?_⟩
      rintro rfl
      cases closes with
      | underway orderly rested => exact rested.unflushed outcome (by rw [latestFirst]; rfl)
    | cons call later =>
      have orderly := closes.orderly
      rw [latestFirst, List.reverse_cons, List.append_assoc] at orderly
      obtain ⟨answer, rfl⟩ := orderly.of_append.behind_flush
      exact .inl ⟨answer, later, rfl⟩
  · intro earlier call later failure calls failed
    have latestFirst := turned calls
    have member : call ∈ latest := by simp [latestFirst]
    cases later with
    | nil =>
      -- the run cannot have gone on, so this is the call it failed for
      refine ⟨rfl, ?_⟩
      cases closes with
      | underway _ rested => simp [rested.made call member] at failed
      | through _ rested flushed =>
        rw [flushed] at member
        rcases List.mem_cons.mp member with rfl | member
        · cases failed
        · simp [rested.made call member] at failed
      | fails obeys =>
        cases obeys with
        | breaks _ blamed => rw [blamed call member failure failed]
    | cons next later =>
      -- there is another call only after calls that have been made
      have orderly := closes.orderly
      rw [latestFirst, List.reverse_cons, List.append_assoc] at orderly
      have made := orderly.of_append.made call List.mem_cons_self
      simp [made] at failed
  · rintro completion rfl
    cases closes with
    | through _ rested flushed =>
      refine ⟨_, by rw [flushed, List.reverse_cons], ?_⟩
      intro outcome
      rw [List.getLast?_reverse]
      exact rested.unflushed outcome

variable {σ : Type} [Console σ]

/-- The calls of a run are made in order, each read by an INPUT that has written its own prompt
right before it. A run whose labels cannot be collected makes no calls. -/
theorem run_protocol (p : Program) (config : Config) (steps : Nat) (machine : Machine σ) :
    Protocol (machine.readsOf p config steps) (ending (run p config steps machine))
        (machine.calls p config steps) ∧
      ∀ failure stopped,
        Labels.collect p config.labelCapacity machine.state.cursor = .error failure stopped →
          machine.calls p config steps = [] := by
  constructor
  · rw [(run_recording p config steps machine).ending]
    exact (run_closes p config steps machine).protocol
  · intro failure stopped uncollected
    have unstarted : ∃ after, start p config machine.recording = .error failure after := by
      simp only [start, recording, uncollected]
      exact ⟨_, rfl⟩
    obtain ⟨after, unstarted⟩ := unstarted
    have untouched := start_console p config machine.recording
    rw [unstarted, finalState] at untouched
    rw [calls, run, bind_of_error unstarted, finalState, untouched]
    rfl

/-- Asks for a number and prints it. -/
def echoing : Program := .ofString "10 INPUT \"N\", A\n20 PRINT A\n"

/-- Has a line to read, and refuses the second text that is to be written. -/
def refusing : Machine (Faulty Buffer) :=
  { console := { console := { input := ["5"] }, failingWrite := some 2 } }

/-- The prompt is written and the number read, but not printed: the run makes four calls, of
which the last one fails. -/
theorem run_protocol_echoing :
    (refusing.calls echoing {} 20).length = 4 ∧
      Protocol (refusing.readsOf echoing {} 20) (.error (.outputFailed "write failed"))
        (refusing.calls echoing {} 20) := by
  obtain ⟨failure, after, failed, checked⟩ := exists_of_failsWith (show
    failsWith (fun failure _ => failure = .outputFailed "write failed")
      (run echoing {} 20 refusing) = true
    by decide +kernel)
  have refused : failure = .outputFailed "write failed" := of_decide_eq_true checked
  have ended : ending (run echoing {} 20 refusing) = .error (.outputFailed "write failed") := by
    rw [failed, refused]
    rfl
  have protocol := (run_protocol echoing {} 20 refusing).1
  rw [ended] at protocol
  exact ⟨by decide +kernel, protocol⟩

end Machine

end LineBasic
