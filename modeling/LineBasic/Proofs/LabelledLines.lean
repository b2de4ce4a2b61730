import LineBasic.Proofs.Landing

/-!
# Labelled lines

The labels of a program are collected by looking at the first token of each line. A
run meets its lines in other ways: it reads all their tokens, skips the rest of a line
or the body of a loop, and jumps. Still it never comes to a labelled line that has not
been looked at, since all tokens it fetches have been surveyed.
-/

namespace LineBasic

/-- The first token of a line that has been surveyed has been looked at. -/
theorem Program.Surveyed.scanned_line {p : Program} {offset line : Nat} {token : Token}
    (surveyed : p.Surveyed offset) (starts : p.StartsLine line)
    (leads : (p.read line).start = (p.read offset).start)
    (found : (p.read offset).found = .ok token) (going : token ≠ .endOfProgram) :
    p.Scanned 0 line := by
  -- the line that was looked at and the line of the token have as many lines before them
  obtain ⟨scannedLine, scanned, reached⟩ := surveyed
  have sameLine : lineEnds p.text scannedLine = lineEnds p.text line := by
    rw [← reached.lineEnds, ← p.lineEnds_start offset, ← leads, p.lineEnds_start]
  rcases scanned.startsLine (Nat.zero_le _) (.inl (.inl rfl)) with alsoStarts | atEnd
  · rwa [← alsoStarts.eq_of_lineEnds starts sameLine]
  · -- no token starts at the end of the text
    have taken := start_lt_stop found going
    have forward := p.le_start offset
    have behind := reached.le_offset
    omega

namespace Machine

variable {σ : Type} [Console σ] {p : Program} {config : Config} {before first machine : Machine σ}
  {steps : Nat}

/-- Whenever a step of a run fetches a label that is the first token of its line, the labels
say where this line begins. What a step does to a machine does not depend on what has been
noted of its fetches. -/
theorem labels_of_fetched (started : start p config before = .ok () first)
    (ran : loop p config steps first = .ok none machine) :
    Fetching.Erases (step p config : ExecOn (Fetching σ) Progress) (step p config) ∧
      ∀ offset ∈ Fetching.fetchedBy (step p config) machine,
        ∀ line label, p.StartsLine line → (p.read line).start = (p.read offset).start →
          (p.read offset).found = .ok (.number label) →
          machine.state.labels.find? label = some line := by
  refine ⟨Fetching.erases_step p config, ?_⟩
  intro offset fetched line label starts leads found
  obtain ⟨lands, labels⟩ := loop_surveyed started ran
  -- the token that is fetched comes behind the cursor, and there all is surveyed
  obtain ⟨tokens, passes⟩ := Fetching.passes_of_fetchedBy_step fetched
  obtain ⟨reached, surveyed, same⟩ := lands.cursor.passes passes
  rw [same] at leads found
  have scanned := surveyed.scanned_line starts leads found (by simp)
  have number : (p.read line).found = .ok (.number label) := by
    rw [← p.read_start line, leads, p.read_start reached]
    exact found
  obtain ⟨cursor, collected, -⟩ := start_eq_ok started
  obtain ⟨-, known⟩ := (Labels.collect_surveys p _ _).of_ok collected
  rw [labels]
  exact (known label line).mpr ⟨scanned, number⟩

/-- A loop whose body is skipped up to a character that starts no token. -/
def skippedBody : Program := .ofString "10 FOR I=2 TO 1\n20 PRINT I\n!\n30 NEXT\n"

/-- Skipping the body fetches the label of the second line. The line behind the `!` is not
reached, and its label has not been collected. -/
theorem labels_of_fetched_skippedBody :
    ∃ first machine : Machine Buffer, start skippedBody {} ⟨{}, {}⟩ = .ok () first ∧
      loop skippedBody {} 1 first = .ok none machine ∧
      16 ∈ Fetching.fetchedBy (step skippedBody {}) machine ∧
      skippedBody.StartsLine 16 ∧ (skippedBody.read 16).found = .ok (.number "20") ∧
      machine.state.labels.find? "20" = some 16 ∧ machine.state.labels.find? "30" = none := by
  obtain ⟨completion, machine, ran, checked⟩ := exists_of_succeedsWith (show
    succeedsWith (fun completion machine => completion = none ∧
        16 ∈ Fetching.fetchedBy (step skippedBody {}) machine ∧
        machine.state.labels.find? "30" = none)
      ((start skippedBody {} >>= fun _ => loop skippedBody {} 1) (⟨{}, {}⟩ : Machine Buffer)) = true
    by decide +kernel)
  obtain ⟨_, first, started, looped⟩ := exists_of_bind_ok ran
  obtain ⟨rfl, fetched, absent⟩ := of_decide_eq_true checked
  have starts : skippedBody.StartsLine 16 := .inr ⟨15, by decide +kernel, rfl⟩
  have number : (skippedBody.read 16).found = .ok (.number "20") := by decide +kernel
  exact ⟨first, machine, started, looped, fetched, starts, number,
    (labels_of_fetched started looped).2 16 fetched 16 "20" starts rfl number, absent⟩

end Machine

end LineBasic
