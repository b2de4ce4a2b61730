import LineBasic.Proofs.Runs
import LineBasic.Proofs.Survey

/-!
# Where a run can land

A run moves its cursor to offsets that it has saved before: those of labels, of calls
and of loops. `State.Lands` says of a state that its cursor and all offsets it has
saved are such that a property holds of them. If they have been surveyed, then they are
so after any step, whatever its effect. So no jump lands inside a token.
-/

namespace LineBasic

/-- The cursor and all offsets that are saved for jumps have a property. -/
structure State.Lands (on : Nat → Prop) (state : State) : Prop where
  cursor : on state.cursor.offset
  labels : ∀ label offset, state.labels.find? label = some offset → on offset
  forStack : ∀ frame ∈ state.forStack, on frame.resume
  gosubStack : ∀ offset ∈ state.gosubStack, on offset
  repeatStack : ∀ offset ∈ state.repeatStack, on offset

namespace State.Lands

variable {on : Nat → Prop} {before after : State}

theorem imp {weaker : Nat → Prop} (lands : before.Lands on)
    (imp : ∀ offset, on offset → weaker offset) : before.Lands weaker where
  cursor := imp _ lands.cursor
  labels label offset known := imp _ (lands.labels label offset known)
  forStack frame member := imp _ (lands.forStack frame member)
  gosubStack offset member := imp _ (lands.gosubStack offset member)
  repeatStack offset member := imp _ (lands.repeatStack offset member)

theorem of_sameStacks (lands : before.Lands on) (same : before.SameStacks after)
    (cursor : on after.cursor.offset) : after.Lands on where
  cursor := cursor
  labels := same.labels ▸ lands.labels
  forStack := same.forStack ▸ lands.forStack
  gosubStack := same.gosubStack ▸ lands.gosubStack
  repeatStack := same.repeatStack ▸ lands.repeatStack

end State.Lands

theorem Program.Surveyed.jump {p : Program} {target : Nat} (surveyed : p.Surveyed target) :
    p.Surveyed (Cursor.jump p target).offset := by
  rw [Cursor.jump, Nat.min_eq_left surveyed.le_length]
  exact surveyed

/-- No effect leads out of what has been surveyed. -/
theorem Effect.lands {p : Program} {before after : State} {progress : Progress}
    (effect : Effect p before progress after) (lands : before.Lands p.Surveyed) :
    after.Lands p.Surveyed := by
  cases effect with
  | onward found _ same ahead => exact lands.of_sameStacks same (lands.cursor.ahead ahead)
  | finished found _ same ahead => exact lands.of_sameStacks same (lands.cursor.ahead ahead)
  | skippedLine found same cursor =>
    apply lands.of_sameStacks same
    rw [cursor]
    exact lands.cursor.nextLine found (by simp)
  | jumped found known same cursor =>
    apply lands.of_sameStacks same
    rw [cursor]
    exact (lands.labels _ _ known).jump
  | called found named known =>
    exact { lands with
      cursor := (lands.labels _ _ known).jump
      gosubStack := List.forall_mem_cons.mpr
        ⟨(lands.cursor.stop found).stop named, lands.gosubStack⟩ }
  | returned found stack =>
    obtain ⟨target, rest⟩ := List.forall_mem_cons.mp (stack ▸ lands.gosubStack)
    exact { lands with
      cursor := target.jump
      gosubStack := rest }
  | entered found clause enters ahead =>
    have resume := lands.cursor.ahead ahead
    exact { lands with
      cursor := resume
      forStack := List.forall_mem_cons.mpr ⟨resume, lands.forStack⟩ }
  | skippedBody found clause exceeds ahead =>
    exact { lands with cursor := lands.cursor.ahead ahead }
  | leftFor found stack exceeds ahead =>
    obtain ⟨-, outer⟩ := List.forall_mem_cons.mp (stack ▸ lands.forStack)
    exact { lands with
      cursor := lands.cursor.ahead ahead
      forStack := outer }
  | repeatedFor found stack within =>
    obtain ⟨resume, -⟩ := List.forall_mem_cons.mp (stack ▸ lands.forStack)
    exact { lands with cursor := resume.jump }
  | opened found =>
    have behind := lands.cursor.stop found
    exact { lands with
      cursor := behind
      repeatStack := List.forall_mem_cons.mpr ⟨behind, lands.repeatStack⟩ }
  | leftRepeat found stack condition holds ahead =>
    obtain ⟨-, outer⟩ := List.forall_mem_cons.mp (stack ▸ lands.repeatStack)
    exact { lands with
      cursor := lands.cursor.ahead ahead
      repeatStack := outer }
  | repeated found stack condition fails =>
    obtain ⟨start, -⟩ := List.forall_mem_cons.mp (stack ▸ lands.repeatStack)
    exact { lands with cursor := start.jump }

namespace Machine

variable {σ : Type} {p : Program} {config : Config} {before first after : Machine σ} {steps : Nat}

theorem start_lands (started : start p config before = .ok () first) :
    first.state.Lands p.Surveyed := by
  obtain ⟨cursor, collected, made⟩ := start_eq_ok started
  obtain ⟨rfl, known⟩ := (Labels.collect_surveys p _ _).of_ok collected
  rw [made]
  exact {
    cursor := (Program.Surveyed.of_scanned (.here 0)).jump
    labels := fun label line found => .of_scanned ((known label line).mp found).1
    forStack := by simp
    gosubStack := by simp
    repeatStack := by simp }

variable [Console σ] {completion : Option Completion}

/-- What has been surveyed is not left in a run, and the labels stay those that were
collected. -/
theorem loop_surveyed (started : start p config before = .ok () first)
    (ran : loop p config steps first = .ok completion after) :
    after.state.Lands p.Surveyed ∧ after.state.labels = first.state.labels := by
  refine loop_invariant (fun machine => machine.state.Lands p.Surveyed ∧
    machine.state.labels = first.state.labels) ?_ ⟨start_lands started, rfl⟩ ran
  rintro between last progress ⟨lands, same⟩ stepped
  have effect := step_effect stepped
  exact ⟨effect.lands lands, effect.labels.trans same⟩

/-- Wherever a run has come to, the cursor and all offsets it has saved are boundaries of
tokens, and the labels are those that were collected at its start. -/
theorem loop_lands_on_boundaries (started : start p config before = .ok () first)
    (ran : loop p config steps first = .ok completion after) :
    (after.state.Lands fun offset => p.Boundary offset ∧ offset ≤ p.length) ∧
      (∀ frame ∈ after.state.forStack, frame.letter.val < 26) ∧
      ∃ cursor, Labels.collect p config.labelCapacity before.state.cursor =
        .ok after.state.labels cursor := by
  obtain ⟨lands, labels⟩ := loop_surveyed started ran
  obtain ⟨cursor, collected, -⟩ := start_eq_ok started
  refine ⟨?_, fun frame _ => frame.letter.isLt, cursor, labels ▸ collected⟩
  exact lands.imp fun offset surveyed => ⟨surveyed.boundary, surveyed.boundary.le_length⟩

/-- A loop within a loop within a subroutine, with text behind two IFs that is no token. -/
def nestedLoops : Program := .ofString
  ("10 GOSUB 40\n20 END\n30 IF 0 THEN \"open\n" ++
    "40 REPEAT FOR I=1 TO 2 IF 0 THEN \"open\n50 NEXT\n60 UNTIL I=9\n")

/-- When the IF in the inner loop has skipped its line, one offset of each kind has been
saved. -/
theorem loop_lands_on_boundaries_nestedLoops :
    ∃ first after : Machine Buffer, start nestedLoops {} ⟨{}, {}⟩ = .ok () first ∧
      loop nestedLoops {} 7 first = .ok none after ∧
      after.state.cursor.offset = 79 ∧ after.state.forStack.map (·.resume) = [61] ∧
      after.state.gosubStack = [11] ∧ after.state.repeatStack = [47] ∧
      after.state.Lands fun offset =>
        nestedLoops.Boundary offset ∧ offset ≤ nestedLoops.length := by
  obtain ⟨completion, after, ran, checked⟩ := exists_of_succeedsWith (show
    succeedsWith (fun completion after => completion = none ∧ after.state.cursor.offset = 79 ∧
        after.state.forStack.map (·.resume) = [61] ∧ after.state.gosubStack = [11] ∧
        after.state.repeatStack = [47])
      ((start nestedLoops {} >>= fun _ => loop nestedLoops {} 7) (⟨{}, {}⟩ : Machine Buffer)) = true
    by decide +kernel)
  obtain ⟨_, first, started, looped⟩ := exists_of_bind_ok ran
  obtain ⟨rfl, cursor, forStack, gosubStack, repeatStack⟩ := of_decide_eq_true checked
  exact ⟨first, after, started, looped, cursor, forStack, gosubStack, repeatStack,
    (loop_lands_on_boundaries started looped).1⟩

end Machine

end LineBasic
