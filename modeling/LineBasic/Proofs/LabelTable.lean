import LineBasic.Proofs.FailureLine
import LineBasic.Proofs.LabelRoom

/-!
# The table of labels

The lines of a program are where its text is cut behind each line end. Collecting labels reads
one token and then skips characters, again and again, yet what it computes can be said on the
list of lines alone: the lines up to the first on which the program ends are looked at, and the
table has one entry for each of them that starts with a number.

`Labels.Admissible` holds of lines whose labels can all be taken, and `Labels.Offends` says why
a line cannot be added to such lines. Either all lines that are looked at are admissible, or
there is a first line that offends those before it; the outcome is decided by which.
-/

namespace LineBasic

namespace Program

variable {p : Program} {line offset : Nat}

/-! ### The lines of a program -/

/-- Where lines begin, from a given line on: at its own offset, and behind each line end. -/
def linesFrom (p : Program) (first : Nat) : List Nat :=
  first :: ((List.range' first (p.length - first)).filter p.endsLineAt).map (· + 1)

/-- The lines that are looked at for labels, from a given line on. The first one on which the
program ends is not among them, and neither is any behind it. -/
def scannedFrom (p : Program) (first : Nat) : List Nat :=
  (p.linesFrom first).takeWhile fun line => (p.read line).found ≠ .ok .endOfProgram

/-- The labels of some lines, each with the offset where its line begins. -/
def labelled (p : Program) (lines : List Nat) : List (String × Nat) :=
  lines.filterMap fun line =>
    match (p.read line).found with
    | .ok (.number label) => some (label, line)
    | _ => none

theorem nextLine_of_endsLineAt (ends : p.endsLineAt offset = true) :
    p.nextLine offset = offset + 1 := by
  rw [endsLineAt] at ends
  rw [nextLine]
  cases text : p.rest offset with
  | nil =>
    rw [text] at ends
    cases ends
  | cons c rest =>
    rw [text] at ends
    rw [lineWidth, if_pos ends]

theorem nextLine_succ (inside : offset < p.length) (within : p.endsLineAt offset = false) :
    p.nextLine offset = p.nextLine (offset + 1) := by
  have size := p.length_rest offset
  rw [endsLineAt] at within
  rw [nextLine, nextLine, rest_add]
  cases text : p.rest offset with
  | nil =>
    rw [text, List.length_nil] at size
    omega
  | cons c rest =>
    rw [text] at within
    rw [lineWidth, within, List.drop_succ_cons, List.drop_zero]
    simp only [Bool.false_eq_true, if_false]
    omega

/-- The line behind a line is the next one in the list, unless the text ends before. -/
theorem linesFrom_cases (inside : offset ≤ p.length) :
    p.linesFrom offset = offset :: p.linesFrom (p.nextLine offset) ∨
      p.linesFrom offset = [offset] ∧ p.nextLine offset = p.length := by
  suffices tail : ∀ count, offset + count = p.length →
      ((List.range' offset count).filter p.endsLineAt).map (· + 1) =
          p.linesFrom (p.nextLine offset) ∨
        ((List.range' offset count).filter p.endsLineAt).map (· + 1) = [] ∧
          p.nextLine offset = p.length by
    rcases tail (p.length - offset) (by omega) with more | ⟨none, ends⟩
    · exact .inl (congrArg (offset :: ·) more)
    · exact .inr ⟨congrArg (offset :: ·) none, ends⟩
  intro count
  -- the characters of the line are passed one by one, up to its end
  induction count generalizing offset with
  | zero =>
    intro atEnd
    have empty : p.rest offset = [] := List.length_eq_zero_iff.mp (by rw [length_rest]; omega)
    refine .inr ⟨rfl, ?_⟩
    rw [nextLine, empty, lineWidth]
    omega
  | succ count ih =>
    intro reaches
    rw [List.range'_succ]
    cases ends : p.endsLineAt offset with
    | true =>
      rw [List.filter_cons_of_pos ends, nextLine_of_endsLineAt ends, linesFrom]
      left
      rw [show p.length - (offset + 1) = count by omega]
      rfl
    | false =>
      rw [List.filter_cons_of_neg (by simp [ends]), nextLine_succ (by omega) ends]
      exact ih (by omega) (by omega)

/-- All that cannot be read is an open quotation mark. -/
theorem openQuote_of_error {failure : Failure} (found : (p.read offset).found = .error failure) :
    failure = .openQuote := by
  have shape := p.read_cases offset
  generalize p.read offset = reading at shape found
  cases shape with
  | token => cases found
  | ends => cases found
  | opens => exact (Except.error.inj found).symm

theorem scannedFrom_of_end (ends : (p.read line).found = .ok .endOfProgram) :
    p.scannedFrom line = [] := by
  rw [scannedFrom, linesFrom, List.takeWhile_cons_of_neg (by simp [ends])]

theorem read_length (p : Program) : (p.read p.length).found = .ok .endOfProgram := by
  have none : p.rest p.length = [] ++ [] := List.drop_length
  rw [read_of_endsProgram none (by simp) (by simp [EndsProgram])]

/-- Behind a line on which the program goes on, the next line is looked at. -/
theorem scannedFrom_of_going (inside : line ≤ p.length)
    (going : (p.read line).found ≠ .ok .endOfProgram) :
    p.scannedFrom line = line :: p.scannedFrom (p.nextLine line) := by
  have first : ∀ others, (line :: others).takeWhile
      (fun line => (p.read line).found ≠ .ok .endOfProgram) =
      line :: others.takeWhile fun line => (p.read line).found ≠ .ok .endOfProgram :=
    fun others => List.takeWhile_cons_of_pos (by simpa using going)
  rw [scannedFrom]
  rcases linesFrom_cases inside with more | ⟨last, ends⟩
  · rw [more, first, scannedFrom]
  · -- the text ends with this line, and the program with the text
    rw [last, first, ends, scannedFrom_of_end p.read_length]
    rfl

end Program

/-! ### Lines whose labels can be taken -/

namespace Labels

variable {p : Program} {capacity : Option Nat} {earlier : List Nat} {line : Nat} {label : String}
  {token : Token} {failure : Failure}

/-- None of the lines starts with an open quotation mark, no two have the same label, and they
have no more labels than the capacity admits. -/
structure Admissible (p : Program) (capacity : Option Nat) (lines : List Nat) : Prop where
  closed : ∀ line ∈ lines, (p.read line).found ≠ .error .openQuote
  distinct : ((p.labelled lines).map Prod.fst).Nodup
  room : ∀ limit ∈ capacity, (p.labelled lines).length ≤ limit

/-- Why a line cannot follow the lines before it. A label that is there already counts before
the number of labels does. -/
inductive Offends (p : Program) (capacity : Option Nat) (earlier : List Nat) (line : Nat) :
    Failure → Prop
  | quote (found : (p.read line).found = .error .openQuote) :
      Offends p capacity earlier line .openQuote
  | repeated {label : String} (found : (p.read line).found = .ok (.number label))
      (taken : label ∈ (p.labelled earlier).map Prod.fst) :
      Offends p capacity earlier line (.duplicateLabel label)
  | full {label : String} {limit : Nat} (found : (p.read line).found = .ok (.number label))
      (new : label ∉ (p.labelled earlier).map Prod.fst) (limited : capacity = some limit)
      (used : limit ≤ (p.labelled earlier).length) :
      Offends p capacity earlier line (.labelTableFull limit)

theorem labelled_number (found : (p.read line).found = .ok (.number label)) :
    p.labelled (earlier ++ [line]) = p.labelled earlier ++ [(label, line)] := by
  simp [Program.labelled, found]

theorem labelled_other (found : (p.read line).found = .ok token)
    (other : ∀ label, token ≠ .number label) :
    p.labelled (earlier ++ [line]) = p.labelled earlier := by
  cases token with
  | number label => exact absurd rfl (other label)
  | _ => simp [Program.labelled, found]

theorem admissible_nil (p : Program) (capacity : Option Nat) : Admissible p capacity [] where
  closed := by simp
  distinct := by simp [Program.labelled]
  room := by simp [Program.labelled]

theorem Admissible.closed_snoc (admissible : Admissible p capacity earlier)
    (found : (p.read line).found = .ok token) :
    ∀ any ∈ earlier ++ [line], (p.read any).found ≠ .error .openQuote := by
  intro any member
  rcases List.mem_append.mp member with before | last
  · exact admissible.closed any before
  · rw [List.mem_singleton.mp last, found]
    simp

/-- Without a label, a line that can be read offends nothing. -/
theorem Admissible.snoc_other (admissible : Admissible p capacity earlier)
    (found : (p.read line).found = .ok token) (other : ∀ label, token ≠ .number label) :
    Admissible p capacity (earlier ++ [line]) where
  closed := admissible.closed_snoc found
  distinct := by
    rw [labelled_other found other]
    exact admissible.distinct
  room := by
    rw [labelled_other found other]
    exact admissible.room

theorem Admissible.snoc_number (admissible : Admissible p capacity earlier)
    (found : (p.read line).found = .ok (.number label))
    (new : label ∉ (p.labelled earlier).map Prod.fst)
    (space : ∀ limit ∈ capacity, (p.labelled earlier).length < limit) :
    Admissible p capacity (earlier ++ [line]) where
  closed := admissible.closed_snoc found
  distinct := by
    rw [labelled_number found, List.map_append]
    exact List.nodup_append_comm.mp (List.nodup_cons.mpr ⟨new, admissible.distinct⟩)
  room := by
    intro limit limited
    rw [labelled_number found, List.length_append]
    exact space limit limited

/-- Lines with one that offends those before it are not admissible. -/
theorem Offends.not_admissible (offends : Offends p capacity earlier line failure)
    (later : List Nat) : ¬Admissible p capacity (earlier ++ line :: later) := by
  intro admissible
  have parts : ∀ {label}, (p.read line).found = .ok (.number label) →
      p.labelled (earlier ++ line :: later) =
        p.labelled earlier ++ (label, line) :: p.labelled later := by
    intro label found
    simp [Program.labelled, found]
  cases offends with
  | quote found => exact admissible.closed line (by simp) found
  | @repeated label found taken =>
    have distinct := admissible.distinct
    rw [parts found, List.map_append, List.map_cons] at distinct
    exact (List.nodup_append.mp distinct).2.2 label taken label (by simp) rfl
  | @full label limit found _ limited used =>
    have room := admissible.room limit limited
    rw [parts found, List.length_append, List.length_cons] at room
    omega

/-! ### Collecting line by line -/

theorem isSome_find?_iff {entries : List (String × Nat)} :
    ((⟨entries⟩ : Labels).find? label).isSome = true ↔ label ∈ entries.map Prod.fst := by
  constructor
  · intro present
    by_contra absent
    have none : (⟨entries⟩ : Labels).find? label = none := by
      refine List.lookup_eq_none_iff.mpr fun entry member => ?_
      have other : label ≠ entry.1 := by
        rintro rfl
        exact absent (List.mem_map_of_mem member)
      simpa using other
    rw [none] at present
    cases present
  · intro member
    by_contra absent
    have none : (⟨entries⟩ : Labels).find? label = none := by simpa using absent
    exact not_mem_keys none member

/-- A label can be added to those of admissible lines unless its line offends them. -/
theorem add_labelled (admissible : Admissible p capacity earlier)
    (found : (p.read line).found = .ok (.number label)) :
    (∃ failure, (⟨p.labelled earlier⟩ : Labels).add capacity label line = .error failure ∧
        Offends p capacity earlier line failure) ∨
      (⟨p.labelled earlier⟩ : Labels).add capacity label line =
          .ok ⟨p.labelled (earlier ++ [line])⟩ ∧
        Admissible p capacity (earlier ++ [line]) := by
  by_cases taken : label ∈ (p.labelled earlier).map Prod.fst
  · refine .inl ⟨_, ?_, .repeated found taken⟩
    rw [add.eq_def, if_pos (isSome_find?_iff.mpr taken)]
  · rw [add.eq_def, if_neg (mt isSome_find?_iff.mp taken), labelled_number found]
    cases capacity with
    | none => exact .inr ⟨rfl, admissible.snoc_number found taken (by simp)⟩
    | some limit =>
      by_cases used : limit ≤ (p.labelled earlier).length
      · exact .inl ⟨_, if_pos used, .full found taken rfl used⟩
      · refine .inr ⟨if_neg used, admissible.snoc_number found taken ?_⟩
        simpa using used

/-- The outcomes of collecting the labels of lines that follow earlier ones: all of them are
admissible and in the table, or the first that offends those before it has been met. -/
def Decides (p : Program) (capacity : Option Nat) (earlier rest : List Nat) :
    EStateM.Result Failure Cursor Labels → Prop :=
  Leaves
    (fun labels _ => Admissible p capacity (earlier ++ rest) ∧
      labels = ⟨p.labelled (earlier ++ rest)⟩)
    fun failure after => ∃ before line later, rest = before ++ line :: later ∧
      Admissible p capacity (earlier ++ before) ∧
      Offends p capacity (earlier ++ before) line failure ∧ after = .behind (p.read line)

theorem Decides.cons {rest : List Nat} {result : EStateM.Result Failure Cursor Labels}
    (decides : Decides p capacity (earlier ++ [line]) rest result) :
    Decides p capacity earlier (line :: rest) result := by
  refine decides.imp ?_ ?_
  · intro labels _ collected
    rwa [List.append_assoc] at collected
  · rintro failure after ⟨before, offending, later, rfl, admissible, offends, stopped⟩
    rw [List.append_assoc] at admissible offends
    exact ⟨line :: before, offending, later, rfl, admissible, offends, stopped⟩

theorem collectFrom_decides {lines : Nat} {cursor : Cursor}
    (admissible : Admissible p capacity earlier) (inside : cursor.offset ≤ p.length)
    (room : p.length - cursor.offset < lines) :
    Decides p capacity earlier (p.scannedFrom cursor.offset)
      (collectFrom p capacity lines ⟨p.labelled earlier⟩ cursor) := by
  induction lines generalizing earlier cursor with
  | zero => omega
  | succ lines ih =>
    rw [collectFrom]
    change Decides p capacity earlier _ ((Cursor.next p >>= fun _ => _) cursor)
    cases found : (p.read cursor.offset).found with
    | error failure =>
      have failed : Cursor.next p cursor = .error failure (.behind (p.read cursor.offset)) := by
        rw [Cursor.next, found]
      rw [bind_of_error failed, Program.scannedFrom_of_going inside (by simp [found])]
      -- an open quotation mark is all that cannot be read
      obtain rfl := Program.openQuote_of_error found
      exact .error ⟨[], _, _, rfl, by simpa using admissible, .quote found, rfl⟩
    | ok token =>
      have read : Cursor.next p cursor = .ok token (.behind (p.read cursor.offset)) := by
        rw [Cursor.next, found]
      rw [bind_of_ok read]
      have further : ∀ {after : Cursor}, token ≠ .endOfProgram →
          after.offset = p.nextLine cursor.offset →
          Admissible p capacity (earlier ++ [cursor.offset]) →
          Decides p capacity earlier (p.scannedFrom cursor.offset)
            (collectFrom p capacity lines ⟨p.labelled (earlier ++ [cursor.offset])⟩ after) := by
        intro after going onNext admissible
        have taken := Program.start_lt_stop found going
        have forward := p.le_start cursor.offset
        have passed := Program.stop_le_nextLine found going
        rw [Program.scannedFrom_of_going inside (by simp [found, going]), ← onNext]
        exact (ih admissible (onNext ▸ Program.nextLine_le inside) (by omega)).cons
      -- a line without a label leaves the table as it is
      have skips : ∀ {after : Cursor}, token ≠ .endOfProgram →
          (∀ label, token ≠ .number label) → after.offset = p.nextLine cursor.offset →
          Decides p capacity earlier (p.scannedFrom cursor.offset)
            (collectFrom p capacity lines ⟨p.labelled earlier⟩ after) := by
        intro after going other onNext
        have same := further going onNext (admissible.snoc_other found other)
        rwa [labelled_other found other] at same
      cases token with
      | endOfProgram =>
        rw [Program.scannedFrom_of_end found]
        exact .ok (by simpa using admissible)
      | endOfLine =>
        exact skips (by simp) (by simp) (Program.nextLine_of_endOfLine found).symm
      | number label =>
        have onNext := Program.nextLine_of_token found (by simp) (by simp)
        rcases add_labelled admissible found with ⟨failure, refused, offends⟩ | ⟨added, grown⟩
        · simp only [refused]
          rw [Program.scannedFrom_of_going inside (by simp [found])]
          exact .error ⟨[], _, _, rfl, by simpa using admissible, by simpa using offends, rfl⟩
        · simp only [added]
          exact further (by simp) onNext.symm grown
      | delimiter | name | keyword | quoted =>
        have onNext := Program.nextLine_of_token found (by simp) (by simp)
        exact skips (by simp) (by simp) onNext.symm

theorem collect_decides (p : Program) (capacity : Option Nat) (cursor : Cursor) :
    Leaves
      (fun labels after => Admissible p capacity (p.scannedFrom 0) ∧
        labels = ⟨p.labelled (p.scannedFrom 0)⟩ ∧ after = ⟨0, none⟩)
      (fun failure after => ∃ earlier line later, p.scannedFrom 0 = earlier ++ line :: later ∧
        Admissible p capacity earlier ∧ Offends p capacity earlier line failure ∧
        after = .behind (p.read line))
      (collect p capacity cursor) := by
  have start : Cursor.jump p 0 = ⟨0, none⟩ := by rw [Cursor.jump, Nat.zero_min]
  have decides := @collectFrom_decides p capacity [] (p.length + 1) ⟨0, none⟩
    (admissible_nil p capacity) (Nat.zero_le _) (by simp)
  rw [collect, start]
  change Leaves _ _ ((collectFrom p capacity (p.length + 1) {} >>= fun _ => _) ⟨0, none⟩)
  refine Leaves.bind decides ?_
  rintro labels _ ⟨admissible, collected⟩
  exact .ok ⟨admissible, collected, rfl⟩

/-- A label that has been collected is what is read where it points to, and it starts with a
digit. -/
theorem read_of_find? {labels : Labels} {cursor after : Cursor}
    (collected : collect p capacity cursor = .ok labels after)
    (known : labels.find? label = some line) :
    Cursor.next p (.jump p line) = .ok (.number label) (.behind (p.read line)) ∧
      ∃ c ∈ label.toList.head?, c.isDigit = true := by
  obtain ⟨-, labelled⟩ := (collect_surveys p capacity cursor).of_ok collected
  obtain ⟨scanned, found⟩ := (labelled label line).mp known
  have inside : Cursor.jump p line = ⟨line, none⟩ := by
    rw [Cursor.jump, Nat.min_eq_left (scanned.le_length (Nat.zero_le _))]
  refine ⟨?_, (p.read_wellFormed found (by simp) : IsNumeral label.toList).1⟩
  rw [inside, Cursor.next, found]

/-- Collecting labels takes exactly the labels of the lines that are looked at, and puts the
cursor back to the start; or else it fails for the first line that offends those before it, with
the cursor on that line. Every label points to a line that starts with it, and nothing that
starts with another character than a digit is a label. -/
theorem collect_of_lines (p : Program) (capacity : Option Nat) (cursor : Cursor) :
    (Admissible p capacity (p.scannedFrom 0) →
      collect p capacity cursor = .ok ⟨p.labelled (p.scannedFrom 0)⟩ ⟨0, none⟩) ∧
    (¬Admissible p capacity (p.scannedFrom 0) →
      ∃ earlier line later failure, p.scannedFrom 0 = earlier ++ line :: later ∧
        Admissible p capacity earlier ∧ Offends p capacity earlier line failure ∧
        collect p capacity cursor = .error failure (.behind (p.read line)) ∧
        p.lineAt (p.read line).stop = p.lineAt line) ∧
    ∀ labels after, collect p capacity cursor = .ok labels after →
      (∀ label line, labels.find? label = some line →
        Cursor.next p (.jump p line) = .ok (.number label) (.behind (p.read line))) ∧
      ∀ text, (∀ c ∈ text.toList.head?, c.isDigit = false) → labels.find? text = none := by
  have decides := collect_decides p capacity cursor
  refine ⟨?_, ?_, ?_⟩
  · intro admissible
    cases ran : collect p capacity cursor with
    | ok labels after =>
      obtain ⟨-, rfl, rfl⟩ := decides.of_ok ran
      rfl
    | error failure after =>
      -- no line offends admissible ones
      obtain ⟨earlier, line, later, lines, -, offends, -⟩ := decides.of_error ran
      rw [lines] at admissible
      exact absurd admissible (offends.not_admissible later)
  · intro inadmissible
    cases ran : collect p capacity cursor with
    | ok labels after => exact absurd (decides.of_ok ran).1 inadmissible
    | error failure after =>
      obtain ⟨earlier, line, later, lines, admissible, offends, rfl⟩ := decides.of_error ran
      refine ⟨earlier, line, later, failure, lines, admissible, offends, rfl, ?_⟩
      have within : (p.read line).found ≠ .ok .endOfLine := by cases offends <;> simp_all
      rw [Program.lineAt_stop within, Program.lineAt, Program.lineAt, Program.lineEnds_start]
  · intro labels after collected
    refine ⟨fun label line known => (read_of_find? collected known).1, ?_⟩
    intro text other
    cases known : labels.find? text with
    | none => rfl
    | some line =>
      obtain ⟨-, c, first, digit⟩ := read_of_find? collected known
      rw [other c first] at digit
      cases digit

/-- Lines with every kind of end, the fourth of them empty, and one behind the end of the
program. -/
def mixedEnds : Program := .ofString "10 PRINT\r\n  20 \"x\"\r30\n\n40 END\n!\n50"

/-- Four labels are taken where there is room for them. With room for three, the line of the
fourth is where collecting stops. -/
theorem collect_of_lines_mixedEnds :
    mixedEnds.scannedFrom 0 = [0, 10, 19, 22, 23] ∧
      collect mixedEnds (some 4) {} =
        .ok ⟨[("10", 0), ("20", 10), ("30", 19), ("40", 23)]⟩ ⟨0, none⟩ ∧
      ¬Admissible mixedEnds (some 3) (mixedEnds.scannedFrom 0) ∧
      ∃ earlier line later failure, mixedEnds.scannedFrom 0 = earlier ++ line :: later ∧
        Admissible mixedEnds (some 3) earlier ∧ Offends mixedEnds (some 3) earlier line failure ∧
        collect mixedEnds (some 3) {} = .error failure (.behind (mixedEnds.read line)) ∧
        mixedEnds.lineAt (mixedEnds.read line).stop = mixedEnds.lineAt line := by
  have lines : mixedEnds.scannedFrom 0 = [0, 10, 19, 22, 23] := by decide +kernel
  have labels : mixedEnds.labelled [0, 10, 19, 22, 23] =
      [("10", 0), ("20", 10), ("30", 19), ("40", 23)] := by
    decide +kernel
  have admissible : Admissible mixedEnds (some 4) (mixedEnds.scannedFrom 0) := by
    rw [lines]
    exact ⟨by decide +kernel, by rw [labels]; decide, by rw [labels]; simp⟩
  have full : ¬Admissible mixedEnds (some 3) (mixedEnds.scannedFrom 0) := by
    intro admissible
    have room := admissible.room 3 rfl
    rw [lines, labels] at room
    exact absurd room (by decide)
  have taken := (collect_of_lines mixedEnds (some 4) {}).1 admissible
  rw [lines, labels] at taken
  exact ⟨lines, taken, full, (collect_of_lines mixedEnds (some 3) {}).2.1 full⟩

end Labels

end LineBasic
