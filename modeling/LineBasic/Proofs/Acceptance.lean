import LineBasic.Proofs.Evaluation

/-!
# Only expressions are evaluated

Whatever a rule of `Expression` accepts is the tokens of a syntax tree, and the
result is the value of that tree (`Accepts`). With the evaluation of every tree
this makes the evaluator exactly as wide as its grammar, `evaluate_iff_tree`.

The chains of operators come first, for operands of any kind. A chain gets on
by at least one token with each operand, so a budget that exceeds the characters
ahead is never used up.
-/

namespace LineBasic.Expression

open Grammar

variable {p : Program} {store : Store}

/-! ### Only trees are accepted -/

/-- Where the rule succeeds, it has passed the tokens of a tree and computed its
value, and a token of the given kind is in hand. The budget exceeds the characters
ahead. -/
def Accepts {Tree : Type} (p : Program) (rule : Rule Float) (budget : Nat)
    (yield : Tree → List Token) (value : Tree → Except Failure Float) (ends : Token → Prop) :
    Prop :=
  ∀ ⦃first last : Reading⦄ ⦃x : Float⦄, p.IsReading first → p.length - first.start < budget →
    rule first = .ok x last →
      ∃ tree, p.Passes first (yield tree) last ∧ value tree = .ok x ∧
        ∃ token, last.found = .ok token ∧ ends token

section Chains

variable {Operand Chain Rest : Type} {operand : Rule Float} {budget : Nat}
  {yield : Operand → List Token} {value : Operand → Except Failure Float} {ends : Token → Prop}

theorem rightChain_accepts {operation : Token → Option (Float → Float → Float)}
    {chainYield : Chain → List Token} {chainValue : Chain → Except Failure Float}
    (accepts : Accepts p operand budget yield value ends)
    (going : ∀ token apply, operation token = some apply → token ≠ .endOfProgram)
    (single : ∀ tree, ∃ chain, chainYield chain = yield tree ∧ chainValue chain = value tree)
    (more : ∀ tree token apply chain, operation token = some apply →
      ∃ longer, chainYield longer = yield tree ++ token :: chainYield chain ∧
        chainValue longer = do
          let x ← value tree
          let y ← chainValue chain
          pure (apply x y))
    (links : Nat) :
    Accepts p (rightChain p operation links operand) budget chainYield chainValue
      fun token => ends token ∧ operation token = none := by
  -- on the links of the chain; without any the rule fails
  induction links with
  | zero => intro first last x _ _ ran; cases ran
  | succ links ih =>
    intro first last x reading room ran
    rw [rightChain] at ran
    obtain ⟨left, middle, ranLeft, ran⟩ := exists_of_bind_ok ran
    obtain ⟨tree, before, leftValue, token, found, ended⟩ := accepts reading room ranLeft
    rw [bind_of_ok (current_ok found)] at ran
    cases known : operation token with
    | none =>
      simp only [known] at ran
      cases ran
      obtain ⟨chain, sameYield, sameValue⟩ := single tree
      exact ⟨chain, sameYield ▸ before, sameValue.trans leftValue, token, found, ended, known⟩
    | some apply =>
      simp only [known] at ran
      obtain ⟨_, next, moved, ranRest⟩ := exists_of_bind_ok ran
      obtain ⟨rfl, _⟩ := advance_eq_ok moved
      obtain ⟨right, stop, ranRight, applied⟩ := exists_of_bind_ok ranRest
      cases applied
      -- the operator has been passed, so there is less ahead
      have forward := before.start_le reading
      obtain ⟨offset, rfl⟩ := before.isReading reading
      have taken := Program.start_lt_stop found (going token apply known)
      have gap := p.le_start (p.read offset).stop
      obtain ⟨chain, behind, rightValue, last⟩ := ih ⟨_, rfl⟩ (by omega) ranRight
      obtain ⟨longer, sameYield, sameValue⟩ := more tree token apply chain known
      refine ⟨longer, ?_, ?_, last⟩
      · rw [sameYield]
        exact before.append (.pass found (going token apply known) behind)
      · rw [sameValue, leftValue, rightValue]
        rfl

theorem leftChainFrom_accepts {operation : Token → Option Operation}
    {restYield : Rest → List Token} {restValue : Rest → Float → Except Failure Float}
    (accepts : Accepts p operand budget yield value ends)
    (going : ∀ token apply, operation token = some apply → token ≠ .endOfProgram)
    (empty : ∃ rest, restYield rest = [] ∧ ∀ x, restValue rest x = .ok x)
    (more : ∀ token apply tree rest, operation token = some apply →
      ∃ longer, restYield longer = token :: (yield tree ++ restYield rest) ∧
        ∀ x, restValue longer x = do
          let y ← value tree
          restValue rest (← apply x y))
    {links : Nat} {first last : Reading} {token : Token} {x result : Float}
    (reading : p.IsReading first) (found : first.found = .ok token) (ended : ends token)
    (room : p.length - first.start < links) (enough : links ≤ budget)
    (ran : leftChainFrom p operation operand links x first = .ok result last) :
    ∃ rest, p.Passes first (restYield rest) last ∧ restValue rest x = .ok result ∧
      ∃ token, last.found = .ok token ∧ ends token ∧ operation token = none := by
  induction links generalizing first token x with
  | zero => omega
  | succ links ih =>
    rw [leftChainFrom, bind_of_ok (current_ok found)] at ran
    cases known : operation token with
    | none =>
      simp only [known] at ran
      cases ran
      obtain ⟨rest, sameYield, sameValue⟩ := empty
      exact ⟨rest, sameYield ▸ .done _, sameValue _, token, found, ended, known⟩
    | some apply =>
      simp only [known] at ran
      obtain ⟨_, next, moved, ranRest⟩ := exists_of_bind_ok ran
      obtain ⟨rfl, _⟩ := advance_eq_ok moved
      obtain ⟨y, middle, ranOperand, ranFurther⟩ := exists_of_bind_ok ranRest
      obtain ⟨offset, rfl⟩ := reading
      have taken := Program.start_lt_stop found (going token apply known)
      have gap := p.le_start (p.read offset).stop
      -- the operand starts behind the operator, and the chain goes on behind the operand
      obtain ⟨tree, before, operandValue, other, otherFound, otherEnded⟩ :=
        accepts ⟨_, rfl⟩ (by omega) ranOperand
      have forward := before.start_le ⟨_, rfl⟩
      cases applied : apply x y with
      | error failure =>
        simp only [applied] at ranFurther
        cases ranFurther
      | ok z =>
        simp only [applied] at ranFurther
        obtain ⟨rest, behind, restResult, last⟩ := ih (before.isReading ⟨_, rfl⟩) otherFound
          otherEnded (by omega) (by omega) ranFurther
        obtain ⟨longer, sameYield, sameValue⟩ := more token apply tree rest known
        refine ⟨longer, ?_, ?_, last⟩
        · rw [sameYield]
          exact .pass found (going token apply known) (before.append behind)
        · rw [sameValue, operandValue]
          change (apply x y >>= fun z => restValue rest z) = .ok result
          rw [applied]
          exact restResult

theorem leftChain_accepts {operation : Token → Option Operation}
    {restYield : Rest → List Token} {restValue : Rest → Float → Except Failure Float}
    {chainYield : Chain → List Token} {chainValue : Chain → Except Failure Float}
    (accepts : Accepts p operand budget yield value ends)
    (going : ∀ token apply, operation token = some apply → token ≠ .endOfProgram)
    (empty : ∃ rest, restYield rest = [] ∧ ∀ x, restValue rest x = .ok x)
    (more : ∀ token apply tree rest, operation token = some apply →
      ∃ longer, restYield longer = token :: (yield tree ++ restYield rest) ∧
        ∀ x, restValue longer x = do
          let y ← value tree
          restValue rest (← apply x y))
    (whole : ∀ tree rest, ∃ chain, chainYield chain = yield tree ++ restYield rest ∧
      chainValue chain = value tree >>= restValue rest) :
    Accepts p (leftChain p operation budget operand) budget chainYield chainValue
      fun token => ends token ∧ operation token = none := by
  intro first last x reading room ran
  rw [leftChain] at ran
  obtain ⟨head, middle, ranHead, ranRest⟩ := exists_of_bind_ok ran
  obtain ⟨tree, before, headValue, token, found, ended⟩ := accepts reading room ranHead
  have forward := before.start_le reading
  obtain ⟨rest, behind, restResult, last⟩ := leftChainFrom_accepts accepts going empty more
    (before.isReading reading) found ended (by omega) (Nat.le_refl _) ranRest
  obtain ⟨chain, sameYield, sameValue⟩ := whole tree rest
  refine ⟨chain, ?_, ?_, last⟩
  · rw [sameYield]
    exact before.append behind
  · rw [sameValue, headValue]
    exact restResult

end Chains

/-! ### Operators and signs that are met -/

theorem exists_relation {token : Token} {apply : Float → Float → Float}
    (known : comparison? token = some apply) :
    ∃ relation : Relation, token = relation.token ∧ apply = relation.apply := by
  unfold comparison? at known
  split at known <;> cases known
  · exact ⟨.less, rfl, rfl⟩
  · exact ⟨.lessEqual, rfl, rfl⟩
  · exact ⟨.greater, rfl, rfl⟩
  · exact ⟨.greaterEqual, rfl, rfl⟩
  · exact ⟨.equal, rfl, rfl⟩
  · exact ⟨.unequal, rfl, rfl⟩

theorem exists_additive {token : Token} {apply : Operation}
    (known : additive? token = some apply) :
    ∃ sign : Additive, token = sign.token ∧ apply = sign.apply := by
  unfold additive? at known
  split at known <;> cases known
  · exact ⟨.plus, rfl, rfl⟩
  · exact ⟨.minus, rfl, rfl⟩

theorem exists_multiplicative {token : Token} {apply : Operation}
    (known : multiplicative? token = some apply) :
    ∃ sign : Multiplicative, token = sign.token ∧ apply = sign.apply := by
  unfold multiplicative? at known
  split at known <;> cases known
  · exact ⟨.times, rfl, rfl⟩
  · exact ⟨.divide, rfl, rfl⟩
  · exact ⟨.modulo, rfl, rfl⟩

theorem caret_of_power {token : Token} {apply : Float → Float → Float}
    (known : power? token = some apply) :
    token = .delimiter .caret ∧ apply = Number.power := by
  unfold power? at known
  split at known <;> cases known
  exact ⟨rfl, rfl⟩

theorem exists_sign {token : Token} {negative : Bool} (wellFormed : token.WellFormed)
    (known : sign? token = some negative) :
    ∃ sign : Sign, token = sign.token ∧
      ∀ x : Float, (if negative then -x else x) = sign.apply x := by
  unfold sign? at known
  split at known
  next reads =>
    cases known
    -- apart from the sign itself, only a string can read like a minus sign
    cases token with
    | delimiter sign =>
      have minus : sign = .minus := by revert reads; cases sign <;> decide
      exact ⟨.minus, by rw [minus]; rfl, fun _ => rfl⟩
    | name text => exact absurd reads (ne_minus_of_isRun wellFormed.1.2)
    | number text => exact absurd reads (ne_minus_of_isRun wellFormed.2)
    | keyword word => exact absurd reads (by cases word <;> decide)
    | quoted text => exact ⟨.quotedMinus, by rw [show text = "-" from reads]; rfl, fun _ => rfl⟩
    | endOfLine => exact absurd reads (by decide)
    | endOfProgram => exact absurd reads (by decide)
  next =>
    split at known
    next plus => cases known; exact ⟨.plus, plus, fun _ => rfl⟩
    next => cases known

theorem isOperator_eq_false_iff (token : Token) :
    isOperator token = false ↔ power? token = none ∧ multiplicative? token = none ∧
      additive? token = none ∧ comparison? token = none := by
  cases token with
  | delimiter sign => cases sign <;> simp [isOperator, power?, multiplicative?, additive?,
      comparison?]
  | _ => simp [isOperator, power?, multiplicative?, additive?, comparison?]

/-! ### Rules -/

theorem primary_accepts {inner : Rule Float} {budget : Nat} {ends : Token → Prop}
    (accepts : Accepts p inner budget Comparison.yield (Comparison.value store) ends) :
    Accepts p (primary p store inner) (budget + 1) Primary.yield (Primary.value store)
      fun _ => True := by
  intro first last x reading room ran
  rw [primary] at ran
  obtain ⟨token, _, isCurrent, ranRest⟩ := exists_of_bind_ok ran
  obtain ⟨found, rfl⟩ := current_eq_ok isCurrent
  split at ranRest
  next opens =>
    subst opens
    obtain ⟨_, _, moved, ranInner⟩ := exists_of_bind_ok ranRest
    obtain ⟨rfl, _⟩ := advance_eq_ok moved
    obtain ⟨value, middle, gave, ranBehind⟩ := exists_of_bind_ok ranInner
    obtain ⟨closing, _, isClosing, ranClosing⟩ := exists_of_bind_ok ranBehind
    obtain ⟨foundClosing, rfl⟩ := current_eq_ok isClosing
    split at ranClosing
    next closes =>
      subst closes
      obtain ⟨_, _, movedOn, ended⟩ := exists_of_bind_ok ranClosing
      obtain ⟨rfl, other, foundOther⟩ := advance_eq_ok movedOn
      cases ended
      -- the inner expression starts behind the parenthesis, so there is room for it
      obtain ⟨offset, rfl⟩ := reading
      have taken := Program.start_lt_stop found (by simp)
      have gap := p.le_start (p.read offset).stop
      obtain ⟨tree, inside, treeValue, _⟩ := accepts ⟨_, rfl⟩ (by omega) gave
      refine ⟨.group tree, ?_, ?_, other, foundOther, trivial⟩
      · rw [Primary.yield]
        exact .pass found (by simp) (inside.append (.single foundClosing (by simp)))
      · rw [Primary.value]
        exact treeValue
    next => cases ranClosing
  next =>
    cases known : atom? store token with
    | none =>
      simp only [known] at ranRest
      cases ranRest
    | some value =>
      simp only [known] at ranRest
      obtain ⟨_, _, moved, ended⟩ := exists_of_bind_ok ranRest
      obtain ⟨rfl, other, foundOther⟩ := advance_eq_ok moved
      cases ended
      unfold atom? at known
      split at known
      next text _ =>
        refine ⟨.number text, ?_, ?_, other, foundOther, trivial⟩
        · rw [Primary.yield]
          exact .single found (by simp)
        · rw [Primary.value]
          exact congrArg valueOf known
      next text _ =>
        refine ⟨.name text, ?_, ?_, other, foundOther, trivial⟩
        · rw [Primary.yield]
          exact .single found (by simp)
        · rw [Primary.value]
          exact congrArg valueOf known
      next => cases known

theorem signed_accepts {operand : Rule Float} {budget : Nat} {ends : Token → Prop}
    (accepts : Accepts p operand budget Primary.yield (Primary.value store) ends) :
    Accepts p (signed p operand) budget Signed.yield (Signed.value store) ends := by
  intro first last x reading room ran
  rw [signed] at ran
  obtain ⟨token, _, isCurrent, ranRest⟩ := exists_of_bind_ok ran
  obtain ⟨found, rfl⟩ := current_eq_ok isCurrent
  cases known : sign? token with
  | none =>
    simp only [known] at ranRest
    obtain ⟨tree, passes, treeValue, ended⟩ := accepts reading room ranRest
    refine ⟨.bare tree, ?_, ?_, ended⟩
    · rw [Signed.yield]
      exact passes
    · rw [Signed.value]
      exact treeValue
  | some negative =>
    simp only [known] at ranRest
    obtain ⟨_, _, moved, ranOperand⟩ := exists_of_bind_ok ranRest
    obtain ⟨rfl, _⟩ := advance_eq_ok moved
    obtain ⟨value, stop, gave, applied⟩ := exists_of_bind_ok ranOperand
    cases applied
    obtain ⟨offset, rfl⟩ := reading
    have going : token ≠ .endOfProgram := by
      rintro rfl
      cases known
    -- a token that has been read and reads like a sign is one
    have taken := Program.start_lt_stop found going
    have gap := p.le_start (p.read offset).stop
    obtain ⟨sign, rfl, same⟩ := exists_sign (p.read_wellFormed found going) known
    obtain ⟨tree, passes, treeValue, ended⟩ := accepts ⟨_, rfl⟩ (by omega) gave
    refine ⟨.signed sign tree, ?_, ?_, ended⟩
    · rw [Signed.yield]
      exact .pass found going passes
    · rw [Signed.value, treeValue, same]
      rfl

section Strengths

variable {budget : Nat} {ends : Token → Prop}

theorem power_accepts (links : Nat)
    (accepts : Accepts p (operandRule p store budget) (budget + 1) Signed.yield
      (Signed.value store) ends) :
    Accepts p (powerRule p store budget links) (budget + 1) Power.yield (Power.value store)
      fun token => ends token ∧ power? token = none := by
  refine rightChain_accepts accepts ?going ?single ?more links
  case going =>
    intro token apply known
    obtain ⟨rfl, _⟩ := caret_of_power known
    simp
  case single =>
    exact fun base => ⟨.single base, Power.yield.eq_1 base, Power.value.eq_1 store base⟩
  case more =>
    intro base token apply exponent known
    obtain ⟨rfl, rfl⟩ := caret_of_power known
    exact ⟨.raise base exponent, Power.yield.eq_2 base exponent,
      Power.value.eq_2 store base exponent⟩

theorem product_accepts
    (accepts : Accepts p (powerRule p store budget (budget + 1)) (budget + 1) Power.yield
      (Power.value store) ends) :
    Accepts p (productRule p store budget) (budget + 1) Product.yield (Product.value store)
      fun token => ends token ∧ multiplicative? token = none := by
  refine @leftChain_accepts p _ _ Factors _ _ _ _ _ _ Factors.yield (Factors.value store) _ _
    accepts ?going ?empty ?more ?whole
  case going =>
    intro token apply known
    obtain ⟨sign, rfl, _⟩ := exists_multiplicative known
    cases sign <;> simp [Multiplicative.token]
  case empty => exact ⟨.none, Factors.yield.eq_1, Factors.value.eq_1 store⟩
  case more =>
    intro token apply factor rest known
    obtain ⟨sign, rfl, rfl⟩ := exists_multiplicative known
    exact ⟨.more sign factor rest, Factors.yield.eq_2 sign factor rest,
      fun x => Factors.value.eq_2 store x sign factor rest⟩
  case whole =>
    exact fun first rest => ⟨.of first rest, Product.yield.eq_1 first rest,
      Product.value.eq_1 store first rest⟩

theorem sum_accepts
    (accepts : Accepts p (productRule p store budget) (budget + 1) Product.yield
      (Product.value store) ends) :
    Accepts p (sumRule p store budget) (budget + 1) Sum.yield (Sum.value store)
      fun token => ends token ∧ additive? token = none := by
  refine @leftChain_accepts p _ _ Terms _ _ _ _ _ _ Terms.yield (Terms.value store) _ _
    accepts ?going ?empty ?more ?whole
  case going =>
    intro token apply known
    obtain ⟨sign, rfl, _⟩ := exists_additive known
    cases sign <;> simp [Additive.token]
  case empty => exact ⟨.none, Terms.yield.eq_1, Terms.value.eq_1 store⟩
  case more =>
    intro token apply term rest known
    obtain ⟨sign, rfl, rfl⟩ := exists_additive known
    exact ⟨.more sign term rest, Terms.yield.eq_2 sign term rest,
      fun x => Terms.value.eq_2 store x sign term rest⟩
  case whole =>
    exact fun first rest => ⟨.of first rest, Sum.yield.eq_1 first rest,
      Sum.value.eq_1 store first rest⟩

theorem comparison_accepts (links : Nat)
    (accepts : Accepts p (sumRule p store budget) (budget + 1) Sum.yield (Sum.value store) ends) :
    Accepts p (comparisonRule p store budget links) (budget + 1) Comparison.yield
      (Comparison.value store) fun token => ends token ∧ comparison? token = none := by
  refine rightChain_accepts accepts ?going ?single ?more links
  case going =>
    intro token apply known
    obtain ⟨relation, rfl, _⟩ := exists_relation known
    cases relation <;> simp [Relation.token]
  case single =>
    exact fun left => ⟨.single left, Comparison.yield.eq_1 left, Comparison.value.eq_1 store left⟩
  case more =>
    intro left token apply right known
    obtain ⟨relation, rfl, rfl⟩ := exists_relation known
    exact ⟨.compare left relation right, Comparison.yield.eq_2 left relation right,
      Comparison.value.eq_2 store left relation right⟩

end Strengths

theorem expression_accepts (p : Program) (store : Store) (budget : Nat) :
    Accepts p (expression p store budget) budget Comparison.yield (Comparison.value store)
      fun token => isOperator token = false := by
  -- each pair of parentheses takes one off the budget
  induction budget with
  | zero => intro first last x _ _ ran; cases ran
  | succ budget ih =>
    have operand : Accepts p (operandRule p store budget) (budget + 1) Signed.yield
        (Signed.value store) fun _ => True := signed_accepts (primary_accepts ih)
    have accepts := comparison_accepts (budget + 1)
      (sum_accepts (product_accepts (power_accepts (budget + 1) operand)))
    intro first last x reading room ran
    obtain ⟨tree, passes, treeValue, token, found, ends⟩ := accepts reading room ran
    obtain ⟨⟨⟨⟨_, noPower⟩, noProduct⟩, noSum⟩, noComparison⟩ := ends
    exact ⟨tree, passes, treeValue, token, found,
      (isOperator_eq_false_iff token).mpr ⟨noPower, noProduct, noSum, noComparison⟩⟩

/-! ### The evaluator and its grammar -/

theorem start_gives {tree : Comparison} {offset : Nat} {last : Reading} {token : Token}
    (passes : p.Passes (p.read offset) tree.yield last) (following : last.found = .ok token)
    (ends : isOperator token = false) :
    Gives (start p store (p.read offset)) (tree.value store) last := by
  obtain ⟨noPower, noProduct, noSum, noComparison⟩ := (isOperator_eq_false_iff token).mp ends
  -- every token takes a character, so the budget is large enough
  have short := passes.length_le
  have gives : Gives (expression p store (p.length + 1) (p.read offset)) (tree.value store) last :=
    comparison_gives tree (by omega) (by omega) ⟨_, rfl⟩ passes following noPower noProduct noSum
      noComparison
  cases shape : tree.yield with
  | nil => exact absurd shape tree.yield_ne_nil
  | cons head tokens =>
    rw [shape] at passes
    cases passes with
    | pass found going =>
      rw [start, bind_of_ok (current_ok found), if_neg going]
      exact gives

theorem start_accepts {offset : Nat} {last : Reading} {x : Float}
    (ran : start p store (p.read offset) = .ok x last) :
    ∃ tree : Comparison, p.Passes (p.read offset) tree.yield last ∧ tree.value store = .ok x ∧
      ∃ token, last.found = .ok token ∧ isOperator token = false := by
  rw [start] at ran
  obtain ⟨token, _, isCurrent, ranRest⟩ := exists_of_bind_ok ran
  obtain ⟨found, rfl⟩ := current_eq_ok isCurrent
  split at ranRest
  next => cases ranRest
  next => exact expression_accepts p store (p.length + 1) ⟨offset, rfl⟩ (by omega) ranRest

theorem next_before {offset : Nat} {token : Token} (found : (p.read offset).found = .ok token) :
    Cursor.next p (Cursor.before (p.read offset)) = .ok token (Cursor.behind (p.read offset)) := by
  rw [Cursor.next, Cursor.before, p.read_start offset, found]

/-- An expression has a value exactly if the tokens ahead are those of a syntax tree that has it,
up to a token that is no operator. That token is read next. A tree without a value makes the
evaluation fail as its value does. -/
theorem evaluate_iff_tree (p : Program) (store : Store) (cursor : Cursor) :
    (∀ value behind, evaluate p store cursor = .ok value behind ↔
      ∃ (tree : Comparison) (last : Reading) (token : Token),
        p.Passes (p.read cursor.offset) tree.yield last ∧ tree.value store = .ok value ∧
        last.found = .ok token ∧ isOperator token = false ∧ behind = Cursor.before last ∧
        Cursor.next p behind = .ok token (Cursor.behind last)) ∧
    ∀ (tree : Comparison) (last : Reading) (token : Token) (failure : Failure),
      p.Passes (p.read cursor.offset) tree.yield last → tree.value store = .error failure →
      last.found = .ok token → isOperator token = false →
      ∃ stuck, evaluate p store cursor = .error failure stuck := by
  constructor
  · intro value behind
    constructor
    · intro ran
      rw [evaluate] at ran
      split at ran
      next x last started =>
        cases ran
        obtain ⟨tree, passes, treeValue, token, found, ends⟩ := start_accepts started
        obtain ⟨offset, rfl⟩ := passes.isReading ⟨_, rfl⟩
        exact ⟨tree, _, token, passes, treeValue, found, ends, rfl, next_before found⟩
      next => cases ran
    · rintro ⟨tree, last, token, passes, treeValue, found, ends, rfl, -⟩
      have gives : Gives (start p store (p.read cursor.offset)) (tree.value store) last :=
        start_gives passes found ends
      rw [treeValue] at gives
      rw [evaluate, gives]
  · intro tree last token failure passes treeValue found ends
    have gives : Gives (start p store (p.read cursor.offset)) (tree.value store) last :=
      start_gives passes found ends
    rw [treeValue] at gives
    obtain ⟨stuck, failed⟩ := gives
    exact ⟨Cursor.behind stuck, by rw [evaluate, failed]⟩

/-- A sign in quotation marks before a variable, and a number that cannot be one. -/
theorem evaluate_signed_and_malformed :
    evaluate (.ofString "\"-\"Bee THEN") Store.initial {} =
      .ok (-(Store.initial.get 1)) { offset := 7 } ∧
    ∃ stuck, evaluate (.ofString "1x )") Store.initial {} = .error .malformed stuck := by
  let negated : Primary → Comparison := fun operand =>
    .single (.of (.of (.single (.signed .quotedMinus operand)) .none) .none)
  let plain : Primary → Comparison := fun operand =>
    .single (.of (.of (.single (.bare operand)) .none) .none)
  constructor
  · have next : ((Program.ofString "\"-\"Bee THEN").read 6).found = .ok (.keyword .THEN) := by
      decide +kernel
    have stands : ({ offset := 7 } : Cursor) =
        Cursor.before ((Program.ofString "\"-\"Bee THEN").read 6) := by decide +kernel
    rw [stands]
    refine ((evaluate_iff_tree _ _ _).1 _ _).mpr ⟨negated (.name "Bee"), _, .keyword .THEN,
      .pass ?sign (by decide) (.single ?name (by decide)), rfl, next, rfl, rfl, next_before next⟩
    case sign => decide +kernel
    case name => decide +kernel
  · refine (evaluate_iff_tree _ _ _).2 (plain (.number "1x")) _ (.delimiter .rightParen) _
      (.single ?number (by decide)) rfl ?closes rfl
    case number => decide +kernel
    case closes => decide +kernel

end LineBasic.Expression
