import LineBasic.Proofs.Evaluation
import Mathlib.Data.Option.Basic

/-!
# Programs that are read alike

Two programs are aligned if there are places in both that correspond to each
other: the tokens found there are alike, and reading on, skipping a line or going
back to the start of a token leads to places that correspond again. `Alignment`
says what is needed of such places. A place also limits the number of tokens ahead
of it, which bounds everything that reads token after token.

From the places alone it follows that expressions are evaluated alike, whatever
the budgets are as long as they exceed the tokens ahead.
-/

theorem Option.Rel.imp {α : Type} {related weaker : α → α → Prop} {left right : Option α}
    (rel : Option.Rel related left right) (imp : ∀ a b, related a b → weaker a b) :
    Option.Rel weaker left right := by
  cases rel with
  | some holds => exact .some (imp _ _ holds)
  | none => exact .none

namespace LineBasic

/-! ### Tokens that are alike -/

/-- Two names that start with the same letter, in either case. -/
def SameLetter (text text' : String) : Prop :=
  ∃ c c', text.toList.head? = some c ∧ text'.toList.head? = some c' ∧
    c.isAlpha ∧ c'.isAlpha ∧ c.toUpper = c'.toUpper

/-- Tokens that no program can tell apart, except by the text of a name. -/
inductive Token.Alike : Token → Token → Prop
  | same (token : Token) : Alike token token
  | renamed {text text' : String} (letter : SameLetter text text') :
      Alike (.name text) (.name text')

private theorem upper_place {c : Char} (alpha : c.isAlpha) : c.toUpper.toNat - 'A'.toNat < 26 := by
  -- every letter is an ASCII character, and for these it can be checked
  have ascii : ∀ n < 128, (Char.ofNat n).isAlpha →
      (Char.ofNat n).toUpper.toNat - 'A'.toNat < 26 := by
    decide
  have small : c.toNat < 128 := by
    rw [isAlpha_iff] at alpha
    omega
  rw [← Char.ofNat_toNat c] at alpha ⊢
  exact ascii c.toNat small alpha

theorem SameLetter.ofName? {text text' : String} (same : SameLetter text text') :
    ∃ letter, Letter.ofName? text = some letter ∧ Letter.ofName? text' = some letter := by
  obtain ⟨c, c', head, head', alpha, alpha', upper⟩ := same
  refine ⟨⟨c.toUpper.toNat - 'A'.toNat, upper_place alpha⟩, ?_, ?_⟩
  · rw [Letter.ofName?, head, Option.bind_some, Letter.ofChar?]
    exact dif_pos ⟨alpha, upper_place alpha⟩
  · simp only [upper]
    rw [Letter.ofName?, head', Option.bind_some, Letter.ofChar?]
    exact dif_pos ⟨alpha', upper_place alpha'⟩

theorem SameLetter.ne_minus {text text' : String} (same : SameLetter text text') :
    text ≠ "-" ∧ text' ≠ "-" := by
  obtain ⟨c, c', head, head', alpha, alpha', -⟩ := same
  constructor
  · rintro rfl
    cases head
    cases alpha
  · rintro rfl
    cases head'
    cases alpha'

theorem SameLetter.not_isNumeral {text text' : String} (same : SameLetter text text') :
    ¬IsNumeral text.toList ∧ ¬IsNumeral text'.toList := by
  obtain ⟨c, c', head, head', alpha, alpha', -⟩ := same
  -- no character is both a letter and a digit
  have apart : ∀ d : Char, d.isAlpha → d.isDigit → False := by
    intro d letter digit
    have ascii := Text.isAlphabetic_ascii d (by
      rw [Char.isDigit_iff_toNat] at digit
      exact Nat.lt_of_le_of_lt digit.2 (by decide))
    rw [isAlphabetic_of_isDigit digit] at ascii
    exact Bool.false_ne_true (ascii.trans letter)
  constructor
  · rintro ⟨⟨d, first, digit⟩, -⟩
    cases Option.some.inj (first.symm.trans head)
    exact apart _ alpha digit
  · rintro ⟨⟨d, first, digit⟩, -⟩
    cases Option.some.inj (first.symm.trans head')
    exact apart _ alpha' digit

/-! The operators of expressions do not tell them apart either. -/

namespace Token.Alike

variable {token token' : Token}

theorem comparison? (alike : Alike token token') :
    Expression.comparison? token = Expression.comparison? token' := by
  cases alike <;> rfl

theorem additive? (alike : Alike token token') :
    Expression.additive? token = Expression.additive? token' := by
  cases alike <;> rfl

theorem multiplicative? (alike : Alike token token') :
    Expression.multiplicative? token = Expression.multiplicative? token' := by
  cases alike <;> rfl

theorem power? (alike : Alike token token') :
    Expression.power? token = Expression.power? token' := by
  cases alike <;> rfl

theorem sign? (alike : Alike token token') :
    Expression.sign? token = Expression.sign? token' := by
  cases alike with
  | same => rfl
  | renamed letter =>
    simp [Expression.sign?, lexeme, letter.ne_minus.1, letter.ne_minus.2]

theorem atom? (alike : Alike token token') (store : Store) :
    Expression.atom? store token = Expression.atom? store token' := by
  cases alike with
  | same => rfl
  | renamed letter =>
    obtain ⟨meant, known, known'⟩ := letter.ofName?
    simp [Expression.atom?, known, known']

/-- Only names can differ. -/
theorem eq_iff (alike : Alike token token') (other : Token) (unnamed : ∀ text, other ≠ .name text) :
    token = other ↔ token' = other := by
  cases alike with
  | same => exact Iff.rfl
  | renamed letter => exact iff_of_false (unnamed _).symm (unnamed _).symm

theorem endsLine_eq (alike : Alike token token') : token.endsLine = token'.endsLine := by
  cases alike <;> rfl

end Token.Alike

/-! ### Places -/

/-- Pairs of offsets in two programs, the places, from which the programs are read
alike. `Place ahead offset offset'` says that no more than `ahead` tokens follow. -/
structure Alignment (p p' : Program) where
  Alike : Token → Token → Prop
  Place : (ahead : Nat) → (offset offset' : Nat) → Prop
  alike : ∀ {token token'}, Alike token token' → Token.Alike token token'
  origin : Place (min p.length p'.length) 0 0
  widen : ∀ {ahead more offset offset'}, Place ahead offset offset' → ahead ≤ more →
    Place more offset offset'
  /-- A token takes a character, so there are not more of them than characters. -/
  shorten : ∀ {ahead offset offset'}, Place ahead offset offset' →
    Place (min p.length p'.length) offset offset'
  inside : ∀ {ahead offset offset'}, Place ahead offset offset' →
    offset ≤ p.length ∧ offset' ≤ p'.length
  found : ∀ {ahead offset offset'}, Place ahead offset offset' →
    (∃ token token', (p.read offset).found = .ok token ∧ (p'.read offset').found = .ok token' ∧
      Alike token token') ∨
    ∃ failure, (p.read offset).found = .error failure ∧ (p'.read offset').found = .error failure
  start : ∀ {ahead offset offset'}, Place ahead offset offset' →
    Place ahead (p.read offset).start (p'.read offset').start
  /-- Every token but the end of the program leads on. -/
  passed : ∀ {ahead offset offset'}, Place ahead offset offset' →
    (p.read offset).found ≠ .ok .endOfProgram →
    ∃ fewer < ahead, Place fewer (p.read offset).stop (p'.read offset').stop
  nextLine : ∀ {ahead offset offset'}, Place ahead offset offset' →
    Place ahead (offset + lineWidth (p.rest offset)) (offset' + lineWidth (p'.rest offset'))
  line : ∀ {ahead offset offset'}, Place ahead offset offset' →
    p.lineAt offset = p'.lineAt offset'

namespace Alignment

variable {p p' : Program} (A : Alignment p p') {ahead more : Nat}

/-- More tokens than this follow no place. -/
def far (_ : Alignment p p') : Nat := min p.length p'.length

theorem far_lt : A.far < p.length + 1 ∧ A.far < p'.length + 1 :=
  ⟨Nat.lt_succ_of_le (Nat.min_le_left _ _), Nat.lt_succ_of_le (Nat.min_le_right _ _)⟩

/-- Corresponding offsets, however many tokens follow. -/
def Same (offset offset' : Nat) : Prop := A.Place A.far offset offset'

theorem stop {offset offset' : Nat} (place : A.Place ahead offset offset') :
    A.Place ahead (p.read offset).stop (p'.read offset').stop := by
  -- the end of the program takes no characters, and every other token leads on
  by_cases ends : (p.read offset).found = .ok .endOfProgram
  · have ends' : (p'.read offset').found = .ok .endOfProgram := by
      rcases A.found place with ⟨token, token', found, found', alike⟩ | ⟨failure, found, -⟩
      · have final : token = .endOfProgram := Except.ok.inj (found.symm.trans ends)
        rw [found', ((A.alike alike).eq_iff _ (by simp)).mp final]
      · cases found.symm.trans ends
    rw [Program.stop_of_endOfProgram ends, Program.stop_of_endOfProgram ends']
    exact A.start place
  · obtain ⟨fewer, less, further⟩ := A.passed place ends
    exact A.widen further (Nat.le_of_lt less)

/-- Readings at corresponding places. -/
def Readings (ahead : Nat) (reading reading' : Reading) : Prop :=
  ∃ offset offset', A.Place ahead offset offset' ∧
    reading = p.read offset ∧ reading' = p'.read offset'

theorem Readings.widen {A : Alignment p p'} {reading reading' : Reading}
    (readings : A.Readings ahead reading reading') (le : ahead ≤ more) :
    A.Readings more reading reading' := by
  obtain ⟨offset, offset', place, rfl, rfl⟩ := readings
  exact ⟨offset, offset', A.widen place le, rfl, rfl⟩

/-! ### Rules side by side -/

/-- The outcomes of two rules agree, and no more than `ahead` tokens follow. -/
def Outcomes {α : Type} (ahead : Nat) (values : α → α → Prop) :
    EStateM.Result Failure Reading α → EStateM.Result Failure Reading α → Prop :=
  Agree (fun value reading value' reading' => values value value' ∧
      A.Readings ahead reading reading')
    fun failure reading failure' reading' => failure = failure' ∧
      A.Readings ahead reading reading'

/-- The rules agree wherever fewer than `bound` tokens follow. -/
def RulesAgree (bound : Nat) (rule rule' : Expression.Rule Float) : Prop :=
  ∀ ⦃ahead reading reading'⦄, ahead < bound → A.Readings ahead reading reading' →
    A.Outcomes ahead Eq (rule reading) (rule' reading')

variable {A}

theorem Outcomes.widen {α : Type} {values : α → α → Prop}
    {result result' : EStateM.Result Failure Reading α}
    (outcomes : A.Outcomes ahead values result result') (le : ahead ≤ more) :
    A.Outcomes more values result result' := by
  apply Agree.imp outcomes
  · exact fun _ _ _ _ holds => ⟨holds.1, holds.2.widen le⟩
  · exact fun _ _ _ _ holds => ⟨holds.1, holds.2.widen le⟩

open Expression

section Rules

variable {reading reading' : Reading} {bound : Nat} {operand operand' : Rule Float}

theorem current_agrees (readings : A.Readings ahead reading reading') :
    Agree (fun token last token' last' => A.Alike token token' ∧ last = reading ∧ last' = reading' ∧
        reading.found = .ok token)
      (fun failure last failure' last' => failure = failure' ∧ A.Readings ahead last last')
      (current reading) (current reading') := by
  obtain ⟨offset, offset', place, rfl, rfl⟩ := readings
  rcases A.found place with ⟨token, token', found, found', alike⟩ | ⟨failure, found, found'⟩
  · rw [current_ok found, current_ok found']
    exact .ok ⟨alike, rfl, rfl, found⟩
  · rw [current, current, found, found']
    exact .error ⟨rfl, offset, offset', place, rfl, rfl⟩

theorem advance_agrees {token : Token} (readings : A.Readings ahead reading reading')
    (found : reading.found = .ok token) (going : token ≠ .endOfProgram) :
    ∃ fewer < ahead, A.Outcomes fewer Eq (advance p reading) (advance p' reading') := by
  obtain ⟨offset, offset', place, rfl, rfl⟩ := readings
  obtain ⟨fewer, less, further⟩ := A.passed place (by rw [found]; simpa using going)
  refine ⟨fewer, less, ?_⟩
  rw [advance_eq, advance_eq]
  rcases A.found further with ⟨_, _, next, next', _⟩ | ⟨failure, next, next'⟩
  · rw [next, next']
    exact .ok ⟨rfl, _, _, further, rfl, rfl⟩
  · rw [next, next']
    exact .error ⟨rfl, _, _, further, rfl, rfl⟩

/-- Behind a token that is passed there are fewer tokens ahead. -/
theorem advance_then {token : Token} {rule rule' : Rule Float}
    (readings : A.Readings ahead reading reading') (found : reading.found = .ok token)
    (going : token ≠ .endOfProgram)
    (goes : ∀ fewer < ahead, ∀ next next', A.Readings fewer next next' →
      A.Outcomes fewer Eq (rule next) (rule' next')) :
    A.Outcomes ahead Eq ((advance p >>= fun _ => rule) reading)
      ((advance p' >>= fun _ => rule') reading') := by
  obtain ⟨fewer, less, moved⟩ := advance_agrees readings found going
  apply Outcomes.widen _ (Nat.le_of_lt less)
  refine Agree.bind moved ?_
  rintro _ next _ next' ⟨-, further⟩
  exact goes fewer less next next' further

theorem rightChain_agrees {operation : Token → Option (Float → Float → Float)}
    (same : ∀ token token', A.Alike token token' → operation token = operation token')
    (ends : operation .endOfProgram = none) (agree : A.RulesAgree bound operand operand')
    {links links' : Nat} (room : ahead < bound) (long : ahead < links) (long' : ahead < links')
    (readings : A.Readings ahead reading reading') :
    A.Outcomes ahead Eq (rightChain p operation links operand reading)
      (rightChain p' operation links' operand' reading') := by
  induction links generalizing links' ahead reading reading' with
  | zero => omega
  | succ links ih =>
    obtain ⟨links', rfl⟩ : ∃ shorter, links' = shorter + 1 := ⟨links' - 1, by omega⟩
    rw [rightChain, rightChain]
    refine (agree room readings).bind ?_
    rintro left middle _ middle' ⟨rfl, between⟩
    refine (current_agrees between).bind ?_
    rintro token _ token' _ ⟨alike, rfl, rfl, found⟩
    rw [← same token token' alike]
    cases known : operation token with
    | none => exact .ok ⟨rfl, between⟩
    | some apply =>
      have going : token ≠ .endOfProgram := by
        rintro rfl
        cases known.symm.trans ends
      -- the operator has been passed, so the shorter budgets still exceed what is ahead
      refine advance_then between found going ?_
      intro fewer less next next' further
      refine Agree.bind (ih (by omega) (by omega) (by omega) further) ?_
      rintro right last _ last' ⟨rfl, behind⟩
      exact .ok ⟨rfl, behind⟩

theorem leftChainFrom_agrees {operation : Token → Option Operation}
    (same : ∀ token token', A.Alike token token' → operation token = operation token')
    (ends : operation .endOfProgram = none) (agree : A.RulesAgree bound operand operand')
    {links links' : Nat} (value : Float) (room : ahead < bound) (long : ahead < links)
    (long' : ahead < links') (readings : A.Readings ahead reading reading') :
    A.Outcomes ahead Eq (leftChainFrom p operation operand links value reading)
      (leftChainFrom p' operation operand' links' value reading') := by
  induction links generalizing links' ahead reading reading' value with
  | zero => omega
  | succ links ih =>
    obtain ⟨links', rfl⟩ : ∃ shorter, links' = shorter + 1 := ⟨links' - 1, by omega⟩
    rw [leftChainFrom, leftChainFrom]
    refine (current_agrees readings).bind ?_
    rintro token _ token' _ ⟨alike, rfl, rfl, found⟩
    rw [← same token token' alike]
    cases known : operation token with
    | none => exact .ok ⟨rfl, readings⟩
    | some apply =>
      have going : token ≠ .endOfProgram := by
        rintro rfl
        cases known.symm.trans ends
      refine advance_then readings found going ?_
      intro fewer less next next' further
      refine Agree.bind (agree (by omega) further) ?_
      rintro right last _ last' ⟨rfl, behind⟩
      -- an operation may fail on its operands, and then does so on both sides
      cases applied : apply value right with
      | error failure => exact .error ⟨rfl, behind⟩
      | ok result => exact ih result (by omega) (by omega) (by omega) behind

theorem leftChain_agrees {operation : Token → Option Operation}
    (same : ∀ token token', A.Alike token token' → operation token = operation token')
    (ends : operation .endOfProgram = none) (agree : A.RulesAgree bound operand operand')
    {links links' : Nat} (enough : bound ≤ links) (enough' : bound ≤ links') :
    A.RulesAgree bound (leftChain p operation links operand)
      (leftChain p' operation links' operand') := by
  intro ahead reading reading' room readings
  rw [leftChain, leftChain]
  refine Agree.bind (agree room readings) ?_
  rintro value last _ last' ⟨rfl, behind⟩
  exact leftChainFrom_agrees same ends agree value room (by omega) (by omega) behind

theorem primary_agrees (store : Store) {inner inner' : Rule Float}
    (agree : A.RulesAgree bound inner inner') :
    A.RulesAgree (bound + 1) (primary p store inner) (primary p' store inner') := by
  intro ahead reading reading' room readings
  rw [primary, primary]
  refine (current_agrees readings).bind ?_
  rintro token _ token' _ ⟨alike, rfl, rfl, found⟩
  have opens := (A.alike alike).eq_iff (.delimiter .leftParen) (by simp)
  by_cases group : token = .delimiter .leftParen
  · rw [if_pos group, if_pos (opens.mp group)]
    -- the parenthesis takes one from the bound, as it does from the budgets
    refine advance_then readings found (by simp [group]) ?_
    intro fewer less next next' further
    refine Agree.bind (agree (by omega) further) ?_
    rintro value middle _ middle' ⟨rfl, between⟩
    refine (current_agrees between).bind ?_
    rintro closing _ closing' _ ⟨alikeClosing, rfl, rfl, foundClosing⟩
    have closes := (A.alike alikeClosing).eq_iff (.delimiter .rightParen) (by simp)
    by_cases closed : closing = .delimiter .rightParen
    · rw [if_pos closed, if_pos (closes.mp closed)]
      refine advance_then between foundClosing (by simp [closed]) ?_
      intro least lesser last last' behind
      exact .ok ⟨rfl, behind⟩
    · rw [if_neg closed, if_neg (mt closes.mpr closed)]
      exact .error ⟨rfl, between⟩
  · rw [if_neg group, if_neg (mt opens.mpr group), ← (A.alike alike).atom? store]
    cases known : atom? store token with
    | none => exact .error ⟨rfl, readings⟩
    | some value =>
      have going : token ≠ .endOfProgram := by
        rintro rfl
        cases known
      refine advance_then readings found going ?_
      intro fewer less last last' behind
      exact .ok ⟨rfl, behind⟩

theorem signed_agrees (agree : A.RulesAgree bound operand operand') :
    A.RulesAgree bound (signed p operand) (signed p' operand') := by
  intro ahead reading reading' room readings
  rw [signed, signed]
  refine (current_agrees readings).bind ?_
  rintro token _ token' _ ⟨alike, rfl, rfl, found⟩
  rw [← (A.alike alike).sign?]
  cases known : sign? token with
  | none => exact agree room readings
  | some negative =>
    have going : token ≠ .endOfProgram := by
      rintro rfl
      cases known
    refine advance_then readings found going ?_
    intro fewer less next next' further
    refine Agree.bind (agree (by omega) further) ?_
    rintro value last _ last' ⟨rfl, behind⟩
    exact .ok ⟨rfl, behind⟩

end Rules

/-- An expression is evaluated alike with any two budgets that exceed the tokens ahead. -/
theorem expression_agrees (A : Alignment p p') (store : Store) {bound budget budget' : Nat}
    (enough : bound ≤ budget) (enough' : bound ≤ budget') :
    A.RulesAgree bound (expression p store budget) (expression p' store budget') := by
  -- on the bound, which falls by one with each pair of parentheses
  induction bound generalizing budget budget' with
  | zero => intro ahead _ _ room; omega
  | succ bound ih =>
    obtain ⟨budget, rfl⟩ : ∃ smaller, budget = smaller + 1 := ⟨budget - 1, by omega⟩
    obtain ⟨budget', rfl⟩ : ∃ smaller, budget' = smaller + 1 := ⟨budget' - 1, by omega⟩
    have inner : A.RulesAgree bound (expression p store budget) (expression p' store budget') :=
      ih (by omega) (by omega)
    -- from the strongest rule to the weakest, each with the one before as its operand
    have operand := signed_agrees (primary_agrees store inner)
    have power : A.RulesAgree (bound + 1) (powerRule p store budget (budget + 1))
        (powerRule p' store budget' (budget' + 1)) := fun ahead _ _ room readings =>
      rightChain_agrees (fun _ _ alike => (A.alike alike).power?) rfl operand room (by omega)
        (by omega) readings
    have product : A.RulesAgree (bound + 1) (productRule p store budget)
        (productRule p' store budget') :=
      leftChain_agrees (fun _ _ alike => (A.alike alike).multiplicative?) rfl power enough enough'
    have sum : A.RulesAgree (bound + 1) (sumRule p store budget) (sumRule p' store budget') :=
      leftChain_agrees (fun _ _ alike => (A.alike alike).additive?) rfl product enough enough'
    intro ahead reading reading' room readings
    exact rightChain_agrees (fun _ _ alike => (A.alike alike).comparison?) rfl sum room (by omega)
      (by omega) readings

theorem start_agrees (store : Store) {reading reading' : Reading}
    (short : ahead ≤ A.far) (readings : A.Readings ahead reading reading') :
    A.Outcomes ahead Eq (Expression.start p store reading)
      (Expression.start p' store reading') := by
  rw [Expression.start, Expression.start]
  refine (current_agrees readings).bind ?_
  rintro token _ token' _ ⟨alike, rfl, rfl, found⟩
  have ends := (A.alike alike).eq_iff .endOfProgram (by simp)
  by_cases final : token = .endOfProgram
  · rw [if_pos final, if_pos (ends.mp final)]
    exact .error ⟨rfl, readings⟩
  · rw [if_neg final, if_neg (mt ends.mpr final)]
    have bounds := A.far_lt
    have agree : A.RulesAgree (ahead + 1) (expression p store (p.length + 1))
        (expression p' store (p'.length + 1)) := A.expression_agrees store (by omega) (by omega)
    exact agree (by omega) readings

/-! ### Cursors side by side -/

/-- Cursors at corresponding places. No more than `ahead` tokens follow them, and no
more than `before` follow the start of the token read last. -/
structure Cursors (A : Alignment p p') (ahead before : Nat) (cursor cursor' : Cursor) : Prop where
  offset : A.Place ahead cursor.offset cursor'.offset
  lastStart : Option.Rel (A.Place before) cursor.lastStart cursor'.lastStart

section Cursors

variable {before : Nat} {cursor cursor' : Cursor}

theorem cursors_before {reading reading' : Reading} (readings : A.Readings ahead reading reading') :
    A.Cursors ahead before (.before reading) (.before reading') := by
  obtain ⟨offset, offset', place, rfl, rfl⟩ := readings
  exact ⟨A.start place, .none⟩

theorem cursors_behind {reading reading' : Reading} (readings : A.Readings ahead reading reading') :
    A.Cursors ahead ahead (.behind reading) (.behind reading') := by
  obtain ⟨offset, offset', place, rfl, rfl⟩ := readings
  exact ⟨A.stop place, .some (A.start place)⟩

theorem evaluate_agrees (store : Store) (short : ahead ≤ A.far)
    (place : A.Place ahead cursor.offset cursor'.offset) :
    Agree (fun value last value' last' => value = value' ∧ A.Cursors ahead A.far last last')
      (fun failure last failure' last' => failure = failure' ∧ A.Cursors ahead ahead last last')
      (evaluate p store cursor) (evaluate p' store cursor') := by
  have started := start_agrees store short ⟨_, _, place, rfl, rfl⟩
  rw [evaluate, evaluate]
  generalize Expression.start p store (p.read cursor.offset) = result at started ⊢
  generalize Expression.start p' store (p'.read cursor'.offset) = result' at started ⊢
  cases started with
  | ok holds => exact .ok ⟨holds.1, cursors_before holds.2⟩
  | error holds => exact .error ⟨holds.1, cursors_behind holds.2⟩

theorem next_agrees (place : A.Place ahead cursor.offset cursor'.offset) :
    Agree (fun token last token' last' => (p.read cursor.offset).found = .ok token ∧
        A.Alike token token' ∧ A.Cursors ahead ahead last last' ∧
        (token ≠ .endOfProgram → ∃ fewer < ahead, A.Cursors fewer ahead last last'))
      (fun failure last failure' last' => failure = failure' ∧ A.Cursors ahead ahead last last')
      (Cursor.next p cursor) (Cursor.next p' cursor') := by
  have behind : A.Cursors ahead ahead (.behind (p.read cursor.offset))
      (.behind (p'.read cursor'.offset)) := cursors_behind ⟨_, _, place, rfl, rfl⟩
  rw [Cursor.next, Cursor.next]
  rcases A.found place with ⟨token, token', found, found', alike⟩ | ⟨failure, found, found'⟩
  · simp only [found, found']
    refine .ok ⟨rfl, alike, behind, ?_⟩
    -- the last start stays where it is while the offset moves on
    intro going
    obtain ⟨fewer, less, further⟩ := A.passed place (by rw [found]; simpa using going)
    exact ⟨fewer, less, further, behind.lastStart⟩
  · simp only [found, found']
    exact .error ⟨rfl, behind⟩

theorem Cursors.widen {more more' : Nat} (cursors : A.Cursors ahead before cursor cursor')
    (le : ahead ≤ more) (le' : before ≤ more') : A.Cursors more more' cursor cursor' where
  offset := A.widen cursors.offset le
  lastStart := cursors.lastStart.imp fun _ _ place => A.widen place le'

theorem Cursors.shorten (cursors : A.Cursors ahead before cursor cursor') :
    A.Cursors A.far A.far cursor cursor' where
  offset := A.shorten cursors.offset
  lastStart := cursors.lastStart.imp fun _ _ place => A.shorten place

theorem giveBack_agrees (cursors : A.Cursors ahead before cursor cursor') (le : ahead ≤ before) :
    A.Cursors before more cursor.giveBack cursor'.giveBack := by
  obtain ⟨place, last⟩ := cursors
  refine ⟨?_, .none⟩
  rw [Cursor.giveBack, Cursor.giveBack]
  generalize cursor.lastStart = start at last ⊢
  generalize cursor'.lastStart = start' at last ⊢
  cases last with
  | some place => exact place
  | none => exact A.widen place le

theorem jump_agrees {target target' : Nat} (place : A.Place ahead target target') :
    A.Cursors ahead before (Cursor.jump p target) (Cursor.jump p' target') := by
  obtain ⟨inside, inside'⟩ := A.inside place
  rw [Cursor.jump, Cursor.jump, Nat.min_eq_left inside, Nat.min_eq_left inside']
  exact ⟨place, .none⟩

theorem skipLine_agrees (place : A.Place ahead cursor.offset cursor'.offset) :
    A.Cursors ahead before (cursor.skipLine p) (cursor'.skipLine p') :=
  ⟨A.nextLine place, .none⟩

end Cursors

end Alignment

end LineBasic
