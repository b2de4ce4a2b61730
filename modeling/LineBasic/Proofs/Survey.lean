import LineBasic.Labels
import LineBasic.Proofs.Lines
import LineBasic.Proofs.Outcomes
import LineBasic.Proofs.ReadingOn

/-!
# Lines, token boundaries and the survey of labels

`Program.Boundary` holds of the offsets where a token may begin or end if a program is
read line by line. Reading a line stops at text that is no token, so what lies behind
such text has no boundaries until the next line begins.

Collecting the labels surveys the lines one by one and looks at the first token of
each, until the program ends at one of them. `Program.Scanned` holds of the lines that
are looked at, and `Program.Surveyed` of the boundaries within them. Reading on from
there, and skipping the rest of a line, never leaves what has been surveyed.
-/

namespace LineBasic

/-! ### Where lines begin -/

theorem lineWidth_le (text : List Char) : lineWidth text ≤ text.length := by
  induction text with
  | nil => simp [lineWidth]
  | cons c text ih =>
    rw [lineWidth]
    split <;> simp only [List.length_cons] <;> omega

/-- A line ends with the last character of its width, unless the text ends first. -/
theorem lineWidth_cases (text : List Char) :
    lineWidth text = text.length ∨
      ∃ count, startsWithLineEnd (text.drop count) = true ∧ lineWidth text = count + 1 := by
  induction text with
  | nil => exact .inl rfl
  | cons c text ih =>
    rw [lineWidth]
    split
    next ends => exact .inr ⟨0, ends, rfl⟩
    next =>
      rcases ih with whole | ⟨count, ends, width⟩
      · exact .inl (by rw [whole, List.length_cons])
      · exact .inr ⟨count + 1, ends, by rw [width]⟩

theorem lineWidth_le_of_ends {text : List Char} {count : Nat}
    (ends : startsWithLineEnd (text.drop count) = true) : lineWidth text ≤ count + 1 := by
  induction text generalizing count with
  | nil => simp [lineWidth]
  | cons c text ih =>
    rw [lineWidth]
    split
    next => omega
    next within =>
      cases count with
      | zero => exact absurd ends within
      | succ count => exact Nat.succ_le_succ (ih ends)

namespace Program

variable {p : Program} {line offset : Nat} {token : Token}

/-- A line begins with the text, and behind each line end. -/
def StartsLine (p : Program) (offset : Nat) : Prop :=
  offset = 0 ∨ ∃ last, p.endsLineAt last = true ∧ offset = last + 1

theorem lt_length_of_endsLineAt (ends : p.endsLineAt offset = true) : offset < p.length := by
  have size := p.length_rest offset
  by_contra outside
  have none : p.rest offset = [] := List.length_eq_zero_iff.mp (by omega)
  rw [endsLineAt, none] at ends
  cases ends

theorem StartsLine.le_length (starts : p.StartsLine line) : line ≤ p.length := by
  rcases starts with rfl | ⟨last, ends, rfl⟩
  · exact Nat.zero_le _
  · exact lt_length_of_endsLineAt ends

/-- The offset where the line behind an offset begins, or the end of the text. -/
def nextLine (p : Program) (offset : Nat) : Nat := offset + lineWidth (p.rest offset)

theorem nextLine_le (inside : offset ≤ p.length) : p.nextLine offset ≤ p.length := by
  have width := lineWidth_le (p.rest offset)
  rw [length_rest] at width
  rw [nextLine]
  omega

theorem startsLine_nextLine (inside : offset ≤ p.length) :
    p.StartsLine (p.nextLine offset) ∨ p.nextLine offset = p.length := by
  rw [nextLine]
  rcases lineWidth_cases (p.rest offset) with whole | ⟨count, ends, width⟩
  · right
    rw [whole, length_rest]
    omega
  · refine .inl (.inr ⟨offset + count, ?_, by omega⟩)
    rw [endsLineAt, rest_add]
    exact ends

theorem stop_le_nextLine (found : (p.read offset).found = .ok token)
    (going : token ≠ .endOfProgram) : (p.read offset).stop ≤ p.nextLine offset := by
  by_cases ends : token = .endOfLine
  · subst ends
    exact Nat.le_of_eq (nextLine_of_endOfLine found).symm
  · rw [nextLine, nextLine_of_token found going ends]
    exact Nat.le_add_right _ _

theorem nextLine_le_of_endsLineAt {place : Nat} (le : offset ≤ place)
    (ends : p.endsLineAt place = true) : p.nextLine offset ≤ place + 1 := by
  obtain ⟨count, rfl⟩ := Nat.exists_eq_add_of_le le
  rw [endsLineAt, rest_add] at ends
  have width := lineWidth_le_of_ends ends
  rw [nextLine]
  omega

/-- Whatever is found is not behind its line. -/
theorem read_stop_le_nextLine (p : Program) (offset : Nat) :
    (p.read offset).stop ≤ p.nextLine offset := by
  cases found : (p.read offset).found with
  | ok token =>
    by_cases ends : token = .endOfProgram
    · subst ends
      rw [stop_of_endOfProgram found, nextLine, nextLine_start]
      exact Nat.le_add_right _ _
    · exact stop_le_nextLine found ends
  | error failure =>
    have shape := p.read_cases offset
    generalize p.read offset = reading at shape found ⊢
    cases shape with
    | token => cases found
    | ends => cases found
    | @opens blanks body behind text blank quotable =>
      -- the string is left open on the line, so its text is part of the line
      have plain : IsPlain ('"' :: body) := by
        intro c member
        rcases List.mem_cons.mp member with rfl | inside
        · decide
        · exact (quotable c inside).2
      have width := lineWidth_plain plain behind
      rw [List.cons_append, List.length_cons] at width
      simp only [nextLine, text, lineWidth_plain (isPlain_of_blank blank), width]
      omega

theorem lineEnds_mono (text : List Char) {few many : Nat} (le : few ≤ many) :
    lineEnds text few ≤ lineEnds text many := by
  obtain ⟨more, rfl⟩ := Nat.exists_eq_add_of_le le
  rw [lineEnds_add]
  exact Nat.le_add_right _ _

theorem lineEnds_succ (ends : p.endsLineAt offset = true) :
    lineEnds p.text (offset + 1) = lineEnds p.text offset + 1 := by
  rw [lineEnds_add, ← Program.rest]
  congr 1
  rw [endsLineAt] at ends
  cases text : p.rest offset with
  | nil =>
    rw [text] at ends
    cases ends
  | cons c rest =>
    rw [text] at ends
    simp [lineEnds, ends]

/-- No two lines have the same number of line ends before them. -/
theorem StartsLine.eq_of_lineEnds {other : Nat} (starts : p.StartsLine line)
    (alsoStarts : p.StartsLine other) (same : lineEnds p.text line = lineEnds p.text other) :
    line = other := by
  -- a line that begins further behind has more line ends before it
  have more : ∀ {first last}, p.StartsLine last → first < last →
      lineEnds p.text first < lineEnds p.text last := by
    rintro first last (rfl | ⟨final, ends, rfl⟩) lt
    · omega
    · rw [lineEnds_succ ends]
      exact Nat.lt_succ_of_le (lineEnds_mono p.text (by omega))
  rcases Nat.lt_trichotomy line other with lt | eq | gt
  · have := more alsoStarts lt
    omega
  · exact eq
  · have := more starts gt
    omega

/-! ### Boundaries of tokens -/

/-- The offsets that reading the tokens of one line comes to, each token counted from where
the blanks before it end. -/
inductive ReadsTo (p : Program) (line : Nat) : Nat → Prop
  | here : ReadsTo p line line
  | start {offset : Nat} {token : Token} (reached : ReadsTo p line offset)
      (found : (p.read offset).found = .ok token) : ReadsTo p line (p.read offset).start
  | stop {offset : Nat} {token : Token} (reached : ReadsTo p line offset)
      (found : (p.read offset).found = .ok token) (within : token ≠ .endOfLine) :
      ReadsTo p line (p.read offset).stop

/-- Where a token may begin or end: what reading comes to from the start of a line, and the
end of the text. -/
def Boundary (p : Program) (offset : Nat) : Prop :=
  offset = p.length ∨ ∃ line, p.StartsLine line ∧ p.ReadsTo line offset

namespace ReadsTo

theorem le_length (reached : p.ReadsTo line offset) (inside : line ≤ p.length) :
    offset ≤ p.length := by
  induction reached with
  | here => exact inside
  | @start offset _ _ _ ih => exact (p.start_le_stop offset).trans (p.stop_le_length offset ih)
  | @stop offset _ _ _ _ ih => exact p.stop_le_length offset ih

theorem le_offset (reached : p.ReadsTo line offset) : line ≤ offset := by
  induction reached with
  | here => exact Nat.le_refl _
  | @start offset _ _ _ ih => exact ih.trans (p.le_start offset)
  | @stop offset _ _ _ _ ih => exact ih.trans ((p.le_start offset).trans (p.start_le_stop offset))

/-- All that reading comes to lies on the same line. -/
theorem lineEnds (reached : p.ReadsTo line offset) :
    LineBasic.lineEnds p.text offset = LineBasic.lineEnds p.text line := by
  induction reached with
  | here => rfl
  | @start offset _ _ _ ih => rw [lineEnds_start, ih]
  | @stop offset token _ found within ih =>
    by_cases ends : token = .endOfProgram
    · subst ends
      rw [stop_of_endOfProgram found, lineEnds_start, ih]
    · rw [lineEnds_stop found ends, if_neg within, ih, Nat.add_zero]

theorem nextLine (reached : p.ReadsTo line offset) : p.nextLine offset = p.nextLine line := by
  induction reached with
  | here => rfl
  | @start offset _ _ _ ih => exact (p.nextLine_start offset).symm.trans ih
  | @stop offset token _ found within ih =>
    by_cases ends : token = .endOfProgram
    · subst ends
      rw [stop_of_endOfProgram found]
      exact (p.nextLine_start offset).symm.trans ih
    · exact (nextLine_of_token found ends within).symm.trans ih

/-- Either the first token of the line is still ahead, or it has been passed. -/
theorem first_token (reached : p.ReadsTo line offset) :
    p.read offset = p.read line ∨
      ∃ token, (p.read line).found = .ok token ∧ token ≠ .endOfProgram := by
  induction reached with
  | here => exact .inl rfl
  | @start offset _ _ _ ih => rwa [p.read_start offset]
  | @stop offset token _ found _ ih =>
    rcases ih with same | passed
    · by_cases ends : token = .endOfProgram
      · subst ends
        rw [stop_of_endOfProgram found, p.read_start offset]
        exact .inl same
      · exact .inr ⟨token, same ▸ found, ends⟩
    · exact .inr passed

end ReadsTo

theorem Boundary.le_length (boundary : p.Boundary offset) : offset ≤ p.length := by
  rcases boundary with rfl | ⟨line, starts, reached⟩
  · exact Nat.le_refl _
  · exact reached.le_length starts.le_length

/-! ### Surveyed lines -/

/-- Looking at the first token of each line comes from one line to the other. -/
inductive Scanned (p : Program) : Nat → Nat → Prop
  | here (line : Nat) : Scanned p line line
  | skip {line last : Nat} {token : Token} (found : (p.read line).found = .ok token)
      (going : token ≠ .endOfProgram) (rest : Scanned p (p.nextLine line) last) :
      Scanned p line last

namespace Scanned

variable {first last : Nat}

theorem next (scanned : p.Scanned first line) (found : (p.read line).found = .ok token)
    (going : token ≠ .endOfProgram) : p.Scanned first (p.nextLine line) := by
  induction scanned with
  | here line => exact .skip found going (.here _)
  | skip passed further _ ih => exact .skip passed further (ih found)

theorem of_endOfProgram (scanned : p.Scanned line last)
    (found : (p.read line).found = .ok .endOfProgram) : last = line := by
  cases scanned with
  | here => rfl
  | skip other going => exact absurd (Except.ok.inj (other.symm.trans found)) going

theorem iff_of_token (found : (p.read line).found = .ok token) (going : token ≠ .endOfProgram) :
    p.Scanned line last ↔ last = line ∨ p.Scanned (p.nextLine line) last := by
  constructor
  · intro scanned
    cases scanned with
    | here => exact .inl rfl
    | skip _ _ rest => exact .inr rest
  · rintro (rfl | rest)
    · exact .here _
    · exact .skip found going rest

theorem le_length (scanned : p.Scanned first last) (inside : first ≤ p.length) :
    last ≤ p.length := by
  induction scanned with
  | here => exact inside
  | skip _ _ _ ih => exact ih (nextLine_le inside)

theorem startsLine (scanned : p.Scanned first last) (inside : first ≤ p.length)
    (starts : p.StartsLine first ∨ first = p.length) : p.StartsLine last ∨ last = p.length := by
  induction scanned with
  | here => exact starts
  | skip _ _ _ ih => exact ih (nextLine_le inside) (startsLine_nextLine inside)

end Scanned

/-- The boundaries within the lines whose first tokens are looked at for labels. -/
def Surveyed (p : Program) (offset : Nat) : Prop :=
  ∃ line, p.Scanned 0 line ∧ p.ReadsTo line offset

namespace Surveyed

theorem of_scanned (scanned : p.Scanned 0 line) : p.Surveyed line := ⟨line, scanned, .here⟩

theorem le_length (surveyed : p.Surveyed offset) : offset ≤ p.length := by
  obtain ⟨line, scanned, reached⟩ := surveyed
  exact reached.le_length (scanned.le_length (Nat.zero_le _))

theorem start (surveyed : p.Surveyed offset) (found : (p.read offset).found = .ok token) :
    p.Surveyed (p.read offset).start := by
  obtain ⟨line, scanned, reached⟩ := surveyed
  exact ⟨line, scanned, reached.start found⟩

/-- The line behind one that can be read has been surveyed, too. -/
theorem nextLine (surveyed : p.Surveyed offset) (found : (p.read offset).found = .ok token)
    (going : token ≠ .endOfProgram) : p.Surveyed (p.nextLine offset) := by
  obtain ⟨line, scanned, reached⟩ := surveyed
  rw [reached.nextLine]
  rcases reached.first_token with same | ⟨passed, foundFirst, notEnd⟩
  · exact .of_scanned (scanned.next (same ▸ found) going)
  · exact .of_scanned (scanned.next foundFirst notEnd)

theorem stop (surveyed : p.Surveyed offset) (found : (p.read offset).found = .ok token) :
    p.Surveyed (p.read offset).stop := by
  by_cases ends : token = .endOfLine
  · subst ends
    rw [← nextLine_of_endOfLine found]
    exact surveyed.nextLine found (by simp)
  · obtain ⟨line, scanned, reached⟩ := surveyed
    exact ⟨line, scanned, reached.stop found ends⟩

/-- Tokens that are passed one after the other do not leave what has been surveyed. -/
theorem passes {tokens : List Token} {last : Reading} (surveyed : p.Surveyed offset)
    (passes : p.Passes (p.read offset) tokens last) :
    ∃ reached, p.Surveyed reached ∧ last = p.read reached := by
  induction tokens generalizing offset with
  | nil =>
    cases passes
    exact ⟨offset, surveyed, rfl⟩
  | cons token tokens ih =>
    cases passes with
    | pass found going rest => exact ih (surveyed.stop found) rest

theorem ahead {cursor : Cursor} (surveyed : p.Surveyed offset)
    (ahead : p.Ahead (p.read offset) cursor) : p.Surveyed cursor.offset := by
  cases ahead with
  | behind passes found =>
    obtain ⟨reached, further, rfl⟩ := surveyed.passes passes
    exact further.stop found
  | before passes found =>
    obtain ⟨reached, further, rfl⟩ := surveyed.passes passes
    exact further.start found

theorem boundary (surveyed : p.Surveyed offset) : p.Boundary offset := by
  obtain ⟨line, scanned, reached⟩ := surveyed
  rcases scanned.startsLine (Nat.zero_le _) (.inl (.inl rfl)) with starts | rfl
  · exact .inr ⟨line, starts, reached⟩
  · -- nothing is read behind the end of the text
    exact .inl (Nat.le_antisymm (reached.le_length (Nat.le_refl _)) reached.le_offset)

end Surveyed

end Program

/-! ### Labels -/

namespace Labels

variable {p : Program} {labels : Labels} {label : String} {offset : Nat}

theorem add_eq_ok {more : Labels} {capacity : Option Nat}
    (added : labels.add capacity label offset = .ok more) :
    labels.find? label = none ∧ more = ⟨labels.entries ++ [(label, offset)]⟩ := by
  unfold add at added
  split at added
  next => cases added
  next missing =>
    refine ⟨by simpa using missing, ?_⟩
    split at added
    · split at added
      · cases added
      · exact (Except.ok.inj added).symm
    · exact (Except.ok.inj added).symm

theorem find?_add {more : Labels} {capacity : Option Nat}
    (added : labels.add capacity label offset = .ok more) (other : String) (line : Nat) :
    more.find? other = some line ↔
      labels.find? other = some line ∨ label = other ∧ offset = line := by
  obtain ⟨absent, rfl⟩ := add_eq_ok added
  rw [find?, List.lookup_append, ← find?]
  by_cases same : label = other
  · subst same
    simp [absent]
  · have differ : (other == label) = false := by simpa using Ne.symm same
    simp [List.lookup_cons, differ, same]

/-- A line that is looked at cannot be passed: its first token cannot be read, or its label
cannot be added to those before. -/
def Blocks (p : Program) (capacity : Option Nat) (line : Nat) (failure : Failure) : Prop :=
  (p.read line).found = .error failure ∨
    ∃ label, (p.read line).found = .ok (.number label) ∧
      ∃ labels : Labels, labels.add capacity label line = .error failure

/-- The outcomes of a survey that begins at a line: exactly the labels of the lines that are
looked at have been added, or one of these lines cannot be passed. -/
def Surveys (p : Program) (capacity : Option Nat) (labels : Labels) (first : Nat) :
    EStateM.Result Failure Cursor Labels → Prop :=
  Leaves
    (fun all _ => ∀ label line, all.find? label = some line ↔
      labels.find? label = some line ∨
        p.Scanned first line ∧ (p.read line).found = .ok (.number label))
    fun failure after => ∃ line, p.Scanned first line ∧ after = .behind (p.read line) ∧
      Blocks p capacity line failure

/-- A survey goes on with the next line, after the label of the first has been added. -/
theorem Surveys.skip {capacity : Option Nat} {more : Labels} {first : Nat} {token : Token}
    {result : EStateM.Result Failure Cursor Labels} (found : (p.read first).found = .ok token)
    (going : token ≠ .endOfProgram)
    (adds : ∀ label line, more.find? label = some line ↔
      labels.find? label = some line ∨ token = .number label ∧ first = line)
    (surveys : Surveys p capacity more (p.nextLine first) result) :
    Surveys p capacity labels first result := by
  refine surveys.imp ?_ ?_
  · intro all _ collected label line
    rw [collected, adds, Program.Scanned.iff_of_token found going]
    constructor
    · rintro ((before | ⟨rfl, rfl⟩) | ⟨scanned, number⟩)
      · exact .inl before
      · exact .inr ⟨.inl rfl, found⟩
      · exact .inr ⟨.inr scanned, number⟩
    · rintro (before | ⟨rfl | scanned, number⟩)
      · exact .inl (.inl before)
      · exact .inl (.inr ⟨Except.ok.inj (found.symm.trans number), rfl⟩)
      · exact .inr ⟨scanned, number⟩
  · rintro failure last ⟨line, scanned, stopped, blocks⟩
    exact ⟨line, .skip found going scanned, stopped, blocks⟩

theorem collectFrom_surveys (capacity : Option Nat) {lines : Nat} (labels : Labels)
    {cursor : Cursor} (room : p.length - cursor.offset < lines) :
    Surveys p capacity labels cursor.offset (collectFrom p capacity lines labels cursor) := by
  induction lines generalizing labels cursor with
  | zero => omega
  | succ lines ih =>
    rw [collectFrom]
    change Surveys p capacity labels _ ((Cursor.next p >>= fun _ => _) cursor)
    cases found : (p.read cursor.offset).found with
    | error failure =>
      have failed : Cursor.next p cursor = .error failure (.behind (p.read cursor.offset)) := by
        rw [Cursor.next, found]
      rw [bind_of_error failed]
      exact .error ⟨cursor.offset, .here _, rfl, .inl found⟩
    | ok token =>
      have read : Cursor.next p cursor = .ok token (.behind (p.read cursor.offset)) := by
        rw [Cursor.next, found]
      rw [bind_of_ok read]
      have further : ∀ {more : Labels} {after : Cursor}, token ≠ .endOfProgram →
          after.offset = p.nextLine cursor.offset →
          Surveys p capacity more (p.nextLine cursor.offset)
            (collectFrom p capacity lines more after) := by
        intro more after going onNext
        -- the next line has fewer characters ahead
        have taken := Program.start_lt_stop found going
        have forward := p.le_start cursor.offset
        have passed := Program.stop_le_nextLine found going
        rw [← onNext]
        exact ih more (by omega)
      cases token with
      | endOfProgram =>
        refine .ok fun label line => ⟨.inl, ?_⟩
        rintro (before | ⟨scanned, number⟩)
        · exact before
        · rw [scanned.of_endOfProgram found, found] at number
          cases number
      | endOfLine =>
        exact .skip found (by simp) (by simp)
          (further (by simp) (Program.nextLine_of_endOfLine found).symm)
      | number label =>
        have onNext := Program.nextLine_of_token found (by simp) (by simp)
        cases added : labels.add capacity label cursor.offset with
        | error failure =>
          simp only [added]
          exact .error ⟨cursor.offset, .here _, rfl, .inr ⟨label, found, labels, added⟩⟩
        | ok more =>
          simp only [added]
          refine .skip found (by simp) ?_ (further (by simp) onNext.symm)
          simpa using find?_add added
      | delimiter | name | keyword | quoted =>
        have onNext := Program.nextLine_of_token found (by simp) (by simp)
        exact .skip found (by simp) (by simp) (further (by simp) onNext.symm)

/-- The labels of a program are those of the lines that are looked at. -/
theorem collect_surveys (p : Program) (capacity : Option Nat) (cursor : Cursor) :
    Leaves
      (fun labels after => after = .jump p 0 ∧ ∀ label line, labels.find? label = some line ↔
        p.Scanned 0 line ∧ (p.read line).found = .ok (.number label))
      (fun failure after => ∃ line, p.Scanned 0 line ∧ after = .behind (p.read line) ∧
        Blocks p capacity line failure)
      (collect p capacity cursor) := by
  have surveys : Surveys p capacity {} (Cursor.jump p 0).offset
      (collectFrom p capacity (p.length + 1) {} (Cursor.jump p 0)) :=
    collectFrom_surveys capacity {} (by omega)
  rw [show (Cursor.jump p 0).offset = 0 from Nat.zero_min _] at surveys
  change Leaves _ _ ((collectFrom p capacity (p.length + 1) {} >>= fun _ => _) (Cursor.jump p 0))
  apply surveys.bind
  intro labels _ collected
  exact .ok ⟨rfl, by simpa [find?] using collected⟩

end Labels

end LineBasic
