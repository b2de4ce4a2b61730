import LineBasic.Proofs.Lines
import LineBasic.Proofs.RoundTrip
import LineBasic.Proofs.Simulation

/-!
# Runs depend on tokens only

The machine has no list of tokens. It reads characters again and again, from offsets
that it has saved, and skips lines by their characters. Still the run of a program
that is read as tokens up to the end of its text depends on these tokens only, and
not even on all of the text of its names.

An offset stands at a token if reading from the start of the program up to it passes
all tokens before that one, `StandsAt`. Two programs whose tokens are alike are
aligned by the offsets that stand at tokens with the same index.
-/

namespace LineBasic

/-! ### Programs as lists of tokens -/

namespace Program

variable {p : Program} {tokens : List Token} {index offset : Nat}

/-- The program is read as these tokens, up to the end of its text. -/
def ReadsWhole (p : Program) (tokens : List Token) : Prop :=
  ∃ last, p.Passes (p.read 0) tokens last ∧ last.start = p.length

/-- The offset is where the token with this index is read next, or the end of the
program if there is no such token. -/
def StandsAt (p : Program) (tokens : List Token) (index offset : Nat) : Prop :=
  index ≤ tokens.length ∧ p.Passes (p.read 0) (tokens.take index) (p.read offset)

theorem Passes.unique {first last other : Reading} (passes : p.Passes first tokens last)
    (also : p.Passes first tokens other) : last = other := by
  induction passes with
  | done => cases also; rfl
  | pass _ _ _ ih => cases also with | pass _ _ rest => exact ih rest

theorem found_at_end (ends : (p.read offset).start = p.length) :
    (p.read offset).found = .ok .endOfProgram := by
  -- a token or a string would need a character behind the end
  have size := p.length_rest offset
  have shape := p.read_cases offset
  generalize p.read offset = reading at shape ends ⊢
  cases shape with
  | ends => rfl
  | token text _ spells =>
    have positive := spells.length_pos
    rw [text] at size
    simp only [List.length_append] at size ends
    omega
  | opens text =>
    rw [text] at size
    simp only [List.length_append, List.length_cons] at size ends
    omega

namespace StandsAt

theorem origin (p : Program) (tokens : List Token) : p.StandsAt tokens 0 0 :=
  ⟨Nat.zero_le _, .done _⟩

theorem inside (stands : p.StandsAt tokens index offset) : offset ≤ p.length :=
  Nat.le_trans (p.le_start offset) (stands.2.start_le_length (Nat.zero_le _))

theorem start (stands : p.StandsAt tokens index offset) :
    p.StandsAt tokens index (p.read offset).start :=
  ⟨stands.1, by rw [p.read_start]; exact stands.2⟩

theorem passes_rest (whole : p.ReadsWhole tokens) (stands : p.StandsAt tokens index offset) :
    ∃ last, p.Passes (p.read offset) (tokens.drop index) last ∧ last.start = p.length := by
  obtain ⟨last, passes, ends⟩ := whole
  rw [← List.take_append_drop index tokens] at passes
  -- passing the same tokens from the start leads to the same reading
  obtain ⟨middle, before, behind⟩ := passes.split
  rw [before.unique stands.2] at behind
  exact ⟨last, behind, ends⟩

theorem ended (whole : p.ReadsWhole tokens) (stands : p.StandsAt tokens index offset)
    (finished : tokens.drop index = []) : (p.read offset).start = p.length := by
  obtain ⟨last, passes, ends⟩ := stands.passes_rest whole
  rw [finished] at passes
  cases passes with
  | done => exact ends

theorem found (whole : p.ReadsWhole tokens) (stands : p.StandsAt tokens index offset)
    {token : Token} {rest : List Token} (more : tokens.drop index = token :: rest) :
    (p.read offset).found = .ok token ∧ token ≠ .endOfProgram := by
  obtain ⟨last, passes, -⟩ := stands.passes_rest whole
  rw [more] at passes
  cases passes with
  | pass found going => exact ⟨found, going⟩

theorem next (whole : p.ReadsWhole tokens) (stands : p.StandsAt tokens index offset)
    {token : Token} {rest : List Token} (more : tokens.drop index = token :: rest) :
    p.StandsAt tokens (index + 1) (p.read offset).stop := by
  obtain ⟨found, going⟩ := stands.found whole more
  have here : tokens[index]? = some token := by rw [← List.head?_drop, more]; rfl
  have inRange : index < tokens.length := (List.getElem?_eq_some_iff.mp here).1
  refine ⟨inRange, ?_⟩
  rw [List.take_add_one, here]
  exact stands.2.append (.single found going)

end StandsAt

end Program

/-! ### Lines as lists of tokens -/

/-- How many tokens there are up to the first that ends a line, or all of them. -/
def lineTokens : List Token → Nat
  | [] => 0
  | token :: rest => if token = .endOfLine then 1 else lineTokens rest + 1

theorem lineTokens_alike {tokens tokens' : List Token}
    (alike : List.Forall₂ Token.Alike tokens tokens') : lineTokens tokens = lineTokens tokens' := by
  induction alike with
  | nil => rfl
  | cons first _ ih =>
    have ends := first.eq_iff .endOfLine (by simp)
    simp only [lineTokens, ih, ends]

theorem count_endOfLine_alike {tokens tokens' : List Token}
    (alike : List.Forall₂ Token.Alike tokens tokens') :
    tokens.count .endOfLine = tokens'.count .endOfLine := by
  induction alike with
  | nil => rfl
  | cons first _ ih =>
    have ends := first.eq_iff .endOfLine (by simp)
    simp only [List.count_cons, ih, beq_iff_eq, ends]

namespace Program

variable {p : Program} {tokens : List Token} {index offset : Nat}

theorem Passes.lineEnds {last : Reading} (passes : p.Passes (p.read offset) tokens last) :
    lineEnds p.text last.start = lineEnds p.text offset + tokens.count .endOfLine := by
  induction tokens generalizing offset with
  | nil =>
    cases passes
    rw [p.lineEnds_start offset]
    rfl
  | cons token tokens ih =>
    cases passes with
    | pass found going rest =>
      rw [ih rest, lineEnds_stop found going, List.count_cons]
      simp only [beq_iff_eq]
      omega

/-- The line of an offset is told by the tokens before it. -/
theorem StandsAt.lineAt (stands : p.StandsAt tokens index offset) :
    p.lineAt offset = 1 + (tokens.take index).count .endOfLine := by
  have counted := stands.2.lineEnds
  rw [p.lineEnds_start offset] at counted
  rw [Program.lineAt, counted, lineEnds_zero, Nat.zero_add]

/-- Skipping a line by its characters is skipping it by its tokens. -/
theorem StandsAt.nextLine (whole : p.ReadsWhole tokens) (stands : p.StandsAt tokens index offset) :
    p.StandsAt tokens (index + lineTokens (tokens.drop index))
      (offset + lineWidth (p.rest offset)) := by
  -- along the tokens ahead, up to the first that ends a line
  induction rest : tokens.drop index generalizing index offset with
  | nil =>
    have ends := stands.ended whole rest
    rw [nextLine_of_end ends, ← ends]
    exact stands.start
  | cons token behind ih =>
    obtain ⟨found, going⟩ := stands.found whole rest
    have next := stands.next whole rest
    by_cases ends : token = .endOfLine
    · subst ends
      rw [nextLine_of_endOfLine found]
      exact next
    · have dropped : tokens.drop (index + 1) = behind := by
        rw [← List.drop_drop, rest]
        rfl
      rw [nextLine_of_token found going ends, lineTokens, if_neg ends, Nat.add_comm (lineTokens _),
        ← Nat.add_assoc]
      exact ih next dropped

end Program

/-! ### Programs with tokens that are alike -/

section Alike

variable {p p' : Program} {tokens tokens' : List Token}

/-- Offsets that stand at tokens with the same index. -/
def StandAlike (p p' : Program) (tokens tokens' : List Token) (offset offset' : Nat) : Prop :=
  ∃ index, p.StandsAt tokens index offset ∧ p'.StandsAt tokens' index offset'

theorem ahead_cases (alike : List.Forall₂ Token.Alike tokens tokens') (index : Nat) :
    (tokens.drop index = [] ∧ tokens'.drop index = []) ∨
    ∃ token rest token' rest', tokens.drop index = token :: rest ∧
      tokens'.drop index = token' :: rest' ∧ Token.Alike token token' ∧
      (token, token') ∈ tokens.zip tokens' := by
  have ahead := List.forall₂_drop index alike
  cases here : tokens.drop index with
  | nil =>
    rw [here] at ahead
    exact .inl ⟨rfl, List.forall₂_nil_left_iff.mp ahead⟩
  | cons token rest =>
    rw [here] at ahead
    obtain ⟨token', rest', both, -, here'⟩ := List.forall₂_cons_left_iff.mp ahead
    have zipped : (tokens.zip tokens').drop index = (token, token') :: rest.zip rest' := by
      rw [List.zip, List.drop_zipWith, here, here']
      rfl
    have member : (token, token') ∈ (tokens.zip tokens').drop index := by
      rw [zipped]
      exact List.mem_cons_self
    exact .inr ⟨token, rest, token', rest', rfl, here', both, List.mem_of_mem_drop member⟩

theorem length_le_min (whole : p.ReadsWhole tokens) (whole' : p'.ReadsWhole tokens')
    (alike : List.Forall₂ Token.Alike tokens tokens') :
    tokens.length ≤ min p.length p'.length := by
  obtain ⟨_, passes, -⟩ := whole
  obtain ⟨_, passes', -⟩ := whole'
  have short := passes.length_le
  have short' := passes'.length_le
  have same := alike.length_eq
  omega

/-- Programs whose tokens are alike are aligned by the indices of their tokens. -/
def alignmentOfTokens (whole : p.ReadsWhole tokens) (whole' : p'.ReadsWhole tokens')
    (alike : List.Forall₂ Token.Alike tokens tokens') : Alignment p p' where
  Alike token token' := Token.Alike token token' ∧
    (token = token' ∨ (token, token') ∈ tokens.zip tokens')
  Place ahead offset offset' := ∃ index, tokens.length - index ≤ ahead ∧
    p.StandsAt tokens index offset ∧ p'.StandsAt tokens' index offset'
  alike both := both.1
  origin := by
    have short := length_le_min whole whole' alike
    exact ⟨0, by omega, .origin p tokens, .origin p' tokens'⟩
  widen := by
    rintro ahead more offset offset' ⟨index, bound, both⟩ le
    exact ⟨index, Nat.le_trans bound le, both⟩
  shorten := by
    rintro ahead offset offset' ⟨index, -, both⟩
    have short := length_le_min whole whole' alike
    exact ⟨index, by omega, both⟩
  inside := by
    rintro ahead offset offset' ⟨index, -, stands, stands'⟩
    exact ⟨stands.inside, stands'.inside⟩
  found := by
    rintro ahead offset offset' ⟨index, -, stands, stands'⟩
    -- at the same index both programs have a token, or both are at their end
    left
    rcases ahead_cases alike index with
      ⟨finished, finished'⟩ | ⟨token, _, token', _, here, here', both, pair⟩
    · exact ⟨.endOfProgram, .endOfProgram, Program.found_at_end (stands.ended whole finished),
        Program.found_at_end (stands'.ended whole' finished'), .same _, .inl rfl⟩
    · exact ⟨token, token', (stands.found whole here).1, (stands'.found whole' here').1, both,
        .inr pair⟩
  start := by
    rintro ahead offset offset' ⟨index, bound, stands, stands'⟩
    exact ⟨index, bound, stands.start, stands'.start⟩
  passed := by
    rintro ahead offset offset' ⟨index, bound, stands, stands'⟩ going
    rcases ahead_cases alike index with ⟨finished, -⟩ | ⟨token, _, token', _, here, here', -, -⟩
    · exact absurd (Program.found_at_end (stands.ended whole finished)) going
    · have next := stands.next whole here
      have more : index + 1 ≤ tokens.length := next.1
      exact ⟨tokens.length - (index + 1), by omega, index + 1, Nat.le_refl _, next,
        stands'.next whole' here'⟩
  nextLine := by
    rintro ahead offset offset' ⟨index, bound, stands, stands'⟩
    -- a line takes as many tokens in one program as in the other
    have same := lineTokens_alike (List.forall₂_drop index alike)
    have skipped' := stands'.nextLine whole'
    rw [← same] at skipped'
    exact ⟨index + lineTokens (tokens.drop index), by omega, stands.nextLine whole, skipped'⟩
  line := by
    rintro ahead offset offset' ⟨index, -, stands, stands'⟩
    rw [stands.lineAt, stands'.lineAt, count_endOfLine_alike (List.forall₂_take index alike)]

end Alike

/-! ### Sources that run alike -/

namespace Listing

/-- The source is taken apart into these tokens, and none of its text is left. -/
structure Whole (source : String) (tokens : List Token) : Prop where
  tokenized : tokenize source = .ok tokens
  reached : (Program.ofString source).ReadsWhole tokens

/-- Machines that cannot be told apart by their consoles, variables, labels, warnings
and lines. All offsets in them stand at tokens with the same index. -/
structure MachinesAlike {σ : Type} (p p' : Program) (tokens tokens' : List Token)
    (machine machine' : Machine σ) : Prop where
  console : machine.console = machine'.console
  store : machine.state.store = machine'.state.store
  warnings : machine.state.warnings = machine'.state.warnings
  lineNumber : machine.lineNumber p = machine'.lineNumber p'
  labels : List.Forall₂ (fun entry entry' => entry.1 = entry'.1 ∧
      StandAlike p p' tokens tokens' entry.2 entry'.2)
    machine.state.labels.entries machine'.state.labels.entries
  forStack : List.Forall₂ (fun frame frame' => frame.letter = frame'.letter ∧
      frame.target = frame'.target ∧ StandAlike p p' tokens tokens' frame.resume frame'.resume)
    machine.state.forStack machine'.state.forStack
  gosubStack : List.Forall₂ (StandAlike p p' tokens tokens') machine.state.gosubStack
    machine'.state.gosubStack
  repeatStack : List.Forall₂ (StandAlike p p' tokens tokens') machine.state.repeatStack
    machine'.state.repeatStack
  cursor : StandAlike p p' tokens tokens' machine.state.cursor.offset machine'.state.cursor.offset
  lastStart : Option.Rel (StandAlike p p' tokens tokens') machine.state.cursor.lastStart
    machine'.state.cursor.lastStart
  statementStart : StandAlike p p' tokens tokens' machine.state.statementStart
    machine'.state.statementStart

/-- The same failure, except for the text of a name that is used as a label and has
another text in the other source. -/
inductive FailuresAlike (tokens tokens' : List Token) : Failure → Failure → Prop
  | same (failure : Failure) : FailuresAlike tokens tokens' failure failure
  | renamed {text text' : String} (pair : (.name text, .name text') ∈ tokens.zip tokens') :
      FailuresAlike tokens tokens' (.undefinedLabel text) (.undefinedLabel text')

/-- Runs of the two sources from fresh machines come to the same, within any number of
steps and on every console. The console records the calls to it, so that the same
console at the end means the same calls with the same texts in the same order. -/
def RunAlike (source source' : String) (tokens tokens' : List Token) : Prop :=
  ∀ (σ : Type) [Console σ] (config : Config) (console : Recorded σ) (steps : Nat),
    let p := Program.ofString source
    let p' := Program.ofString source'
    Agree
      (fun completion machine completion' machine' => completion = completion' ∧
        MachinesAlike p p' tokens tokens' machine machine')
      (fun failure machine failure' machine' => FailuresAlike tokens tokens' failure failure' ∧
        MachinesAlike p p' tokens tokens' machine machine')
      (Machine.run p config steps { console }) (Machine.run p' config steps { console })

section Runs

variable {p p' : Program} {tokens tokens' : List Token} (whole : p.ReadsWhole tokens)
  (whole' : p'.ReadsWhole tokens') (alike : List.Forall₂ Token.Alike tokens tokens')

private theorem standAlike {ahead offset offset' : Nat}
    (place : (alignmentOfTokens whole whole' alike).Place ahead offset offset') :
    StandAlike p p' tokens tokens' offset offset' := by
  obtain ⟨index, -, both⟩ := place
  exact ⟨index, both⟩

private theorem machinesAlike {σ : Type} [Console σ] {config : Config}
    {machine machine' : Machine σ}
    (machines : (alignmentOfTokens whole whole' alike).Machines (.same config σ) machine machine') :
    MachinesAlike p p' tokens tokens' machine machine' := by
  obtain ⟨states, console⟩ := machines
  have place : ∀ {offset offset'}, (alignmentOfTokens whole whole' alike).Same offset offset' →
      StandAlike p p' tokens tokens' offset offset' := standAlike whole whole' alike
  constructor
  case console => exact console
  case store => exact states.store
  case warnings => exact states.warnings
  case lineNumber => exact (alignmentOfTokens whole whole' alike).line states.statementStart
  case labels => exact states.labels.imp fun _ _ entry => ⟨entry.1, place entry.2.1⟩
  case forStack =>
    exact states.forStack.imp fun _ _ frame => ⟨frame.letter, frame.target, place frame.resume⟩
  case gosubStack => exact states.gosubStack.imp fun _ _ same => place same
  case repeatStack => exact states.repeatStack.imp fun _ _ same => place same
  case cursor => exact place states.cursor.offset
  case lastStart => exact states.cursor.lastStart.imp fun _ _ same => place same
  case statementStart => exact place states.statementStart

private theorem failuresAlike {failure failure' : Failure}
    (failures : (alignmentOfTokens whole whole' alike).Failures failure failure') :
    FailuresAlike tokens tokens' failure failure' := by
  cases failures with
  | same => exact .same failure
  | @renamed text text' pair =>
    -- names that differ have been met at the same index
    rcases pair.2 with same | pair
    · cases same
      exact .same _
    · exact .renamed pair

end Runs

theorem runAlike_of_whole {source source' : String} {tokens tokens' : List Token}
    (whole : (Program.ofString source).ReadsWhole tokens)
    (whole' : (Program.ofString source').ReadsWhole tokens')
    (alike : List.Forall₂ Token.Alike tokens tokens') : RunAlike source source' tokens tokens' := by
  intro σ _ config console steps
  let A := alignmentOfTokens whole whole' alike
  let X := Exchange.same config (Recorded σ)
  have settled : A.Settles X Eq
      (Machine.run (Program.ofString source) config steps { console })
      (Machine.run (Program.ofString source') config steps { console }) :=
    Alignment.run_settles rfl steps .nil rfl
  apply settled.imp
  · rintro completion machine _ machine' ⟨rfl, machines⟩
    exact ⟨rfl, machinesAlike whole whole' alike machines⟩
  · rintro failure machine failure' machine' ⟨failures, machines⟩
    exact ⟨failuresAlike whole whole' alike failures, machinesAlike whole whole' alike machines⟩

/-! ### Rendered sources -/

/-- Pieces of a text are read one after the other. -/
theorem passes_of_pieces {p : Program} {pieces : List Piece} {blanks : List Char} {offset : Nat}
    (inside : offset ≤ p.length) (text : p.rest offset = joined pieces blanks)
    (fits : Fits pieces blanks) (blank : ∀ c ∈ blanks, isBlank c = true) :
    ∃ last, p.Passes (p.read offset) (pieces.map Piece.token) last ∧ last.start = p.length := by
  induction pieces generalizing offset with
  | nil =>
    have size := p.length_rest offset
    rw [text, joined] at size
    rw [joined, ← List.append_nil blanks] at text
    have ends := Program.read_of_endsProgram text blank (by simp [EndsProgram])
    refine ⟨_, .done _, ?_⟩
    rw [ends]
    simp only
    omega
  | cons piece pieces ih =>
    obtain ⟨gap, spells, others⟩ := fits
    rw [joined] at text
    have read := Program.read_of_spells text gap spells
    have going := spells.ne_endOfProgram
    have found : (p.read offset).found = .ok piece.token := by rw [read]
    have next : p.rest (p.read offset).stop = joined pieces blanks := by
      rw [read, Program.rest_add, Program.rest_add, text, List.drop_left, List.drop_left]
    obtain ⟨last, passes, ends⟩ := ih (Program.start_lt_stop found going).2 next others
    exact ⟨last, .pass found going passes, ends⟩

theorem readsWhole_render {tokens : List Token}
    (wellFormed : ∀ token ∈ tokens, token.WellFormed) :
    (Program.ofString (render tokens)).ReadsWhole tokens := by
  obtain ⟨cutting, same, emptied⟩ := exists_cutting_render wellFormed
  have whole := cutting.whole
  have fits := cutting.fits
  rw [emptied, List.append_nil] at whole fits
  obtain ⟨last, passes, ends⟩ :=
    @passes_of_pieces (.ofString (render tokens)) _ _ 0 (Nat.zero_le _) whole fits cutting.blank
  rw [← Cutting.tokens, same] at passes
  exact ⟨last, passes, ends⟩

/-- Sources without a rest whose tokens are alike run alike, and so does every such
source with its rendered form. -/
theorem run_of_tokens :
    (∀ source source' tokens tokens', Whole source tokens → Whole source' tokens' →
      List.Forall₂ Token.Alike tokens tokens' → RunAlike source source' tokens tokens') ∧
    ∀ source tokens, Whole source tokens →
      Whole (render tokens) tokens ∧ RunAlike source (render tokens) tokens tokens := by
  constructor
  · intro source source' tokens tokens' whole whole' alike
    exact runAlike_of_whole whole.reached whole'.reached alike
  · intro source tokens whole
    have wellFormed := wellFormed_of_tokenize whole.tokenized
    have rendered := readsWhole_render wellFormed
    have alike : List.Forall₂ Token.Alike tokens tokens :=
      List.forall₂_same.mpr fun token _ => .same token
    exact ⟨⟨tokenize_render_of_wellFormed wellFormed, rendered⟩,
      runAlike_of_whole whole.reached rendered alike⟩

/-- Blanks, line ends, the case of a keyword and all of a name but its first letter
may differ. The label `Loop` does not exist, which both runs report in their own words. -/
theorem run_of_tokens_renamed :
    Whole "x=1\ngoto Loop" [.name "x", .delimiter .equal, .number "1", .endOfLine, .keyword .GOTO,
      .name "Loop"] ∧
    Whole "Xy = 1\r\nGoTo lost " [.name "Xy", .delimiter .equal, .number "1", .endOfLine,
      .keyword .GOTO, .name "lost"] ∧
    RunAlike "x=1\ngoto Loop" "Xy = 1\r\nGoTo lost "
      [.name "x", .delimiter .equal, .number "1", .endOfLine, .keyword .GOTO, .name "Loop"]
      [.name "Xy", .delimiter .equal, .number "1", .endOfLine, .keyword .GOTO, .name "lost"] := by
  have whole : Whole "x=1\ngoto Loop" [.name "x", .delimiter .equal, .number "1", .endOfLine,
      .keyword .GOTO, .name "Loop"] :=
    ⟨by decide +kernel, _,
      .pass (by decide +kernel) (by decide) (.pass (by decide +kernel) (by decide)
        (.pass (by decide +kernel) (by decide) (.pass (by decide +kernel) (by decide)
          (.pass (by decide +kernel) (by decide) (.single (by decide +kernel) (by decide)))))),
      by decide +kernel⟩
  have whole' : Whole "Xy = 1\r\nGoTo lost " [.name "Xy", .delimiter .equal, .number "1",
      .endOfLine, .keyword .GOTO, .name "lost"] :=
    ⟨by decide +kernel, _,
      .pass (by decide +kernel) (by decide) (.pass (by decide +kernel) (by decide)
        (.pass (by decide +kernel) (by decide) (.pass (by decide +kernel) (by decide)
          (.pass (by decide +kernel) (by decide) (.single (by decide +kernel) (by decide)))))),
      by decide +kernel⟩
  have assigned : SameLetter "x" "Xy" := ⟨'x', 'X', by decide +kernel⟩
  have missing : SameLetter "Loop" "lost" := ⟨'L', 'l', by decide +kernel⟩
  exact ⟨whole, whole', run_of_tokens.1 _ _ _ _ whole whole'
    (.cons (.renamed assigned) (.cons (.same _) (.cons (.same _) (.cons (.same _)
      (.cons (.same _) (.cons (.renamed missing) .nil))))))⟩

end Listing

end LineBasic
