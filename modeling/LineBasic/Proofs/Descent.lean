import LineBasic.Proofs.OneProgram
import LineBasic.Proofs.ReadingOn
import Mathlib.Logic.Relation

/-!
# Every rule ends

The rules of expressions call each other in a cycle, and a chain of operators that groups to
the left goes on for as long as there are operators. A `Turn` is what one rule does between
the calls that it makes, without any budget. The rules of `Expression` are the solution of
these turns, `run_turn`.

A rule calls a stronger one with the same token in hand, or it has passed tokens before it
calls (`Below`). Whatever leads back to a rule has therefore passed a token, and the turns
need not be unrolled further than there are rules for each character. What the calls left
over would give does not matter then: the budgets of the rules are never used up.

`evaluate_descends` says so, together with how far the cursor of an evaluation can get.
-/

namespace LineBasic

namespace Expression

open Grammar

/-! ### Turns -/

/-- The rules from the weakest to the strongest. A chain that groups to the left has a rule
for its first operand, and one that goes on behind a value, no stronger than the first. -/
inductive Level
  | comparison
  | sum
  | furtherSum (value : Float)
  | product
  | furtherProduct (value : Float)
  | power
  | signed
  | primary

def Level.strength : Level → Nat
  | comparison => 0
  | sum | furtherSum _ => 1
  | product | furtherProduct _ => 2
  | power => 3
  | signed => 4
  | primary => 5

/-- What a rule does up to its end: it calls rules, each with a token in hand, and goes on
with the value and the token that they leave. -/
inductive Turn
  | ends (outcome : EStateM.Result Failure Reading Float)
  | calls (level : Level) (first : Reading) (goes : Float → Reading → Turn)

namespace Turn

/-- Goes on behind something that can fail. -/
def after {α : Type} (ran : EStateM.Result Failure Reading α) (goes : α → Reading → Turn) :
    Turn :=
  match ran with
  | .ok value last => goes value last
  | .error failure last => .ends (.error failure last)

/-- Calls a rule and leaves what it leaves. -/
def leads (level : Level) (first : Reading) : Turn :=
  .calls level first fun value last => .ends (.ok value last)

/-- The outcome, for given rules that are called. -/
def run (rules : Level → Rule Float) : Turn → EStateM.Result Failure Reading Float
  | ends outcome => outcome
  | calls level first goes =>
    match rules level first with
    | .ok value last => (goes value last).run rules
    | .error failure last => .error failure last

/-- The calls that are made, for given rules that are called. -/
inductive Makes (rules : Level → Rule Float) : Turn → Level × Reading → Prop
  | now {level : Level} {first : Reading} {goes : Float → Reading → Turn} :
      Makes rules (.calls level first goes) (level, first)
  | later {level : Level} {first last : Reading} {goes : Float → Reading → Turn} {value : Float}
      {call : Level × Reading} (ran : rules level first = .ok value last)
      (made : Makes rules (goes value last) call) : Makes rules (.calls level first goes) call

end Turn

/-- A chain that groups to the right. Behind an operator the whole chain is called again. -/
def rightTurn (p : Program) (operation : Token → Option (Float → Float → Float))
    (operand whole : Level) (first : Reading) : Turn :=
  .calls operand first fun left middle =>
  .after (current middle) fun token middle =>
  match operation token with
  | none => .ends (.ok left middle)
  | some apply =>
    .after (advance p middle) fun _ next =>
    .calls whole next fun right last => .ends (.ok (apply left right) last)

/-- A chain that groups to the left, behind a value. -/
def leftTurn (p : Program) (operation : Token → Option Operation) (operand : Level)
    (further : Float → Level) (value : Float) (first : Reading) : Turn :=
  .after (current first) fun token first =>
  match operation token with
  | none => .ends (.ok value first)
  | some apply =>
    .after (advance p first) fun _ next =>
    .calls operand next fun right last =>
    match apply value right with
    | .ok value => .leads (further value) last
    | .error failure => .ends (.error failure last)

def signedTurn (p : Program) (first : Reading) : Turn :=
  .after (current first) fun token first =>
  match sign? token with
  | none => .leads .primary first
  | some negative =>
    .after (advance p first) fun _ next =>
    .calls .primary next fun value last => .ends (.ok (if negative then -value else value) last)

def primaryTurn (p : Program) (store : Store) (first : Reading) : Turn :=
  .after (current first) fun token first =>
  if token = .delimiter .leftParen then
    .after (advance p first) fun _ next =>
    .calls .comparison next fun value middle =>
    .after (current middle) fun closing middle =>
    if closing = .delimiter .rightParen then
      .after (advance p middle) fun _ last => .ends (.ok value last)
    else .ends (.error .unbalancedParentheses middle)
  else
    match atom? store token with
    | some value => .after (advance p first) fun _ last => .ends (.ok value last)
    | none => .ends (.error .malformed first)

/-- What each rule does. -/
def turn (p : Program) (store : Store) : Level → Reading → Turn
  | .comparison => rightTurn p comparison? .sum .comparison
  | .sum => fun first => .calls .product first fun value middle => .leads (.furtherSum value) middle
  | .furtherSum value => leftTurn p additive? .product .furtherSum value
  | .product => fun first =>
    .calls .power first fun value middle => .leads (.furtherProduct value) middle
  | .furtherProduct value => leftTurn p multiplicative? .power .furtherProduct value
  | .power => rightTurn p power? .signed .power
  | .signed => signedTurn p
  | .primary => primaryTurn p store

/-- The rules of expressions, with budgets that exceed the characters of the program. -/
def rules (p : Program) (store : Store) : Level → Rule Float
  | .comparison => expression p store (p.length + 1)
  | .sum => sumRule p store p.length
  | .furtherSum value =>
    leftChainFrom p additive? (productRule p store p.length) (p.length + 1) value
  | .product => productRule p store p.length
  | .furtherProduct value =>
    leftChainFrom p multiplicative? (powerRule p store p.length (p.length + 1)) (p.length + 1) value
  | .power => powerRule p store p.length (p.length + 1)
  | .signed => operandRule p store p.length
  | .primary => primary p store (expression p store p.length)

variable {p : Program} {store : Store}

/-! ### Operands pass tokens -/

/-- Where the rule succeeds, it has passed at least one token. -/
def PassesSome (p : Program) (rule : Rule Float) : Prop :=
  ∀ ⦃first last : Reading⦄ ⦃value : Float⦄, p.IsReading first → rule first = .ok value last →
    ∃ tokens, tokens ≠ [] ∧ p.Passes first tokens last

theorem Accepts.passesSome {Tree : Type} {rule : Rule Float} {yield : Tree → List Token}
    {value : Tree → Except Failure Float} {ends : Token → Prop}
    (accepts : Accepts p rule (p.length + 1) yield value ends) (some : ∀ tree, yield tree ≠ []) :
    PassesSome p rule := by
  intro first last value reading ran
  obtain ⟨tree, passes, -⟩ := accepts reading (by omega) ran
  exact ⟨yield tree, some tree, passes⟩

theorem passesSome_operands (p : Program) (store : Store) :
    PassesSome p (rules p store .signed) ∧ PassesSome p (rules p store .power) ∧
      PassesSome p (rules p store .product) ∧ PassesSome p (rules p store .sum) := by
  -- from the strongest rule to the weakest, as they accept the trees of their operands
  have signed := signed_accepts (primary_accepts (expression_accepts p store p.length))
  have power := power_accepts (p.length + 1) signed
  have product := product_accepts power
  have sum := sum_accepts product
  exact ⟨signed.passesSome Signed.yield_ne_nil, power.passesSome Power.yield_ne_nil,
    product.passesSome Product.yield_ne_nil, sum.passesSome Sum.yield_ne_nil⟩

/-! ### Budgets -/

section Budgets

variable {operand : Rule Float} {first : Reading} {links other : Nat}

theorem going_of_operation {α : Type} {operation : Token → Option α} {token : Token} {apply : α}
    (none : operation .endOfProgram = none) (known : operation token = some apply) :
    token ≠ .endOfProgram := by
  rintro rfl
  cases known.symm.trans none

/-- Chains do not depend on budgets that exceed the characters ahead. -/
theorem rightChain_links {operation : Token → Option (Float → Float → Float)}
    (passes : PassesSome p operand) (none : operation .endOfProgram = none)
    (reading : p.IsReading first) (enough : p.length - first.start < links)
    (alsoEnough : p.length - first.start < other) :
    rightChain p operation links operand first = rightChain p operation other operand first := by
  induction links generalizing other first with
  | zero => omega
  | succ links ih =>
    obtain ⟨other, rfl⟩ : ∃ shorter, other = shorter + 1 := ⟨other - 1, by omega⟩
    rw [rightChain, rightChain]
    refine bind_congr_of_ok rfl fun left middle ran => ?_
    refine bind_congr_of_ok rfl fun token here holds => ?_
    obtain ⟨found, rfl⟩ := current_eq_ok holds
    cases known : operation token with
    | none => rfl
    | some apply =>
      refine bind_congr_of_ok rfl fun _ next moved => ?_
      obtain ⟨rfl, -⟩ := advance_eq_ok moved
      -- the operand and the operator have been passed, so there is less ahead
      obtain ⟨tokens, -, before⟩ := passes reading ran
      have passed := before.append (.single found (going_of_operation none known))
      have less := passed.ahead_lt (by simp) reading
      exact bind_congr_of_ok (ih ⟨_, rfl⟩ (by omega) (by omega)) fun _ _ _ => rfl

theorem leftChainFrom_links {operation : Token → Option Operation}
    (passes : PassesSome p operand) (none : operation .endOfProgram = none) (value : Float)
    (reading : p.IsReading first) (enough : p.length - first.start < links)
    (alsoEnough : p.length - first.start < other) :
    leftChainFrom p operation operand links value first =
      leftChainFrom p operation operand other value first := by
  induction links generalizing other first value with
  | zero => omega
  | succ links ih =>
    obtain ⟨other, rfl⟩ : ∃ shorter, other = shorter + 1 := ⟨other - 1, by omega⟩
    rw [leftChainFrom, leftChainFrom]
    refine bind_congr_of_ok rfl fun token here holds => ?_
    obtain ⟨found, rfl⟩ := current_eq_ok holds
    cases known : operation token with
    | none => rfl
    | some apply =>
      refine bind_congr_of_ok rfl fun _ next moved => ?_
      obtain ⟨rfl, -⟩ := advance_eq_ok moved
      refine bind_congr_of_ok rfl fun right last ran => ?_
      cases apply value right with
      | error failure => rfl
      | ok result =>
        -- the operator and its operand have been passed
        obtain ⟨tokens, -, behind⟩ := passes ⟨_, rfl⟩ ran
        have passed := Program.Passes.pass found (going_of_operation none known) behind
        have less := passed.ahead_lt (by simp) reading
        exact ih result (behind.isReading ⟨_, rfl⟩) (by omega) (by omega)

/-- Behind a token the budget of the whole program is not needed any more. -/
theorem expression_behind {token : Token} (reading : p.IsReading first)
    (found : first.found = .ok token) (going : token ≠ .endOfProgram) :
    expression p store (p.length + 1) (p.read first.stop) =
      expression p store p.length (p.read first.stop) := by
  obtain ⟨offset, rfl⟩ := reading
  have taken := Program.start_lt_stop found going
  have readings : (Alignment.identity p).Readings (p.length - (p.read offset).stop)
      (p.read (p.read offset).stop) (p.read (p.read offset).stop) :=
    ⟨_, _, ⟨rfl, taken.2, Nat.le_refl _⟩, rfl, rfl⟩
  have agree : (Alignment.identity p).RulesAgree p.length (expression p store (p.length + 1))
      (expression p store p.length) :=
    (Alignment.identity p).expression_agrees store (Nat.le_succ _) (Nat.le_refl _)
  exact Alignment.eq_of_outcomes (agree (by omega) readings)

end Budgets

/-! ### The rules solve their turns -/

section Turns

variable {given : Level → Rule Float} {level : Level} {first : Reading} {α : Type}

theorem Turn.run_after {rule : Rule α} {goes : α → Reading → Turn} {next : α → Rule Float}
    (same : ∀ value last, rule first = .ok value last →
      (goes value last).run given = next value last) :
    (after (rule first) goes).run given = (rule >>= next) first := by
  cases ran : rule first with
  | ok value last => rw [bind_of_ok ran, ← same value last ran, after]
  | error failure last => rw [bind_of_error ran, after, run]

theorem Turn.run_calls {rule : Rule Float} {goes : Float → Reading → Turn}
    {next : Float → Rule Float} (called : given level first = rule first)
    (same : ∀ value last, rule first = .ok value last →
      (goes value last).run given = next value last) :
    (calls level first goes).run given = (rule >>= next) first := by
  rw [run, called]
  cases ran : rule first with
  | ok value last => rw [bind_of_ok ran, ← same value last ran]
  | error failure last => rw [bind_of_error ran]

theorem Turn.run_leads (given : Level → Rule Float) (level : Level) (first : Reading) :
    (leads level first).run given = given level first := by
  rw [leads, run]
  cases given level first <;> rfl

theorem run_rightTurn {operation : Token → Option (Float → Float → Float)} {operand whole : Level}
    {links : Nat} (passes : PassesSome p (given operand)) (none : operation .endOfProgram = none)
    (chain : given whole = rightChain p operation (links + 1) (given operand))
    (reading : p.IsReading first) (enough : p.length ≤ links) :
    (rightTurn p operation operand whole first).run given =
      rightChain p operation (links + 1) (given operand) first := by
  rw [rightTurn, rightChain]
  refine Turn.run_calls rfl fun left middle ran => Turn.run_after fun token here holds => ?_
  obtain ⟨found, rfl⟩ := current_eq_ok holds
  cases known : operation token with
  | none => rfl
  | some apply =>
    refine Turn.run_after fun _ next moved => ?_
    obtain ⟨rfl, -⟩ := advance_eq_ok moved
    obtain ⟨tokens, -, before⟩ := passes reading ran
    have passed := before.append (.single found (going_of_operation none known))
    have less := passed.ahead_lt (by simp) reading
    refine Turn.run_calls ?_ fun _ _ _ => rfl
    rw [chain]
    exact rightChain_links passes none ⟨_, rfl⟩ (by omega) (by omega)

theorem run_leftTurn {operation : Token → Option Operation} {operand : Level}
    {further : Float → Level} {links : Nat} (passes : PassesSome p (given operand))
    (none : operation .endOfProgram = none)
    (chain : ∀ value, given (further value) =
      leftChainFrom p operation (given operand) (links + 1) value)
    (reading : p.IsReading first) (enough : p.length ≤ links) (value : Float) :
    (leftTurn p operation operand further value first).run given =
      leftChainFrom p operation (given operand) (links + 1) value first := by
  rw [leftTurn, leftChainFrom]
  refine Turn.run_after fun token here holds => ?_
  obtain ⟨found, rfl⟩ := current_eq_ok holds
  cases known : operation token with
  | none => rfl
  | some apply =>
    refine Turn.run_after fun _ next moved => ?_
    obtain ⟨rfl, -⟩ := advance_eq_ok moved
    refine Turn.run_calls rfl fun right last ran => ?_
    cases apply value right with
    | error failure => rfl
    | ok result =>
      obtain ⟨tokens, -, behind⟩ := passes ⟨_, rfl⟩ ran
      have passed := Program.Passes.pass found (going_of_operation none known) behind
      have less := passed.ahead_lt (by simp) reading
      simp only [Turn.run_leads, chain]
      exact leftChainFrom_links passes none result (behind.isReading ⟨_, rfl⟩) (by omega)
        (by omega)

theorem run_signedTurn (p : Program) (given : Level → Rule Float) (first : Reading) :
    (signedTurn p first).run given = signed p (given .primary) first := by
  rw [signedTurn, signed]
  refine Turn.run_after fun token _ _ => ?_
  cases sign? token with
  | none => exact Turn.run_leads given .primary _
  | some negative => exact Turn.run_after fun _ _ _ => Turn.run_calls rfl fun _ _ _ => rfl

theorem run_primaryTurn {inner : Rule Float}
    (same : ∀ token, first.found = .ok token → token ≠ .endOfProgram →
      given .comparison (p.read first.stop) = inner (p.read first.stop)) :
    (primaryTurn p store first).run given = primary p store inner first := by
  rw [primaryTurn, primary]
  refine Turn.run_after fun token here holds => ?_
  obtain ⟨found, rfl⟩ := current_eq_ok holds
  by_cases opens : token = .delimiter .leftParen
  · rw [if_pos opens, if_pos opens]
    refine Turn.run_after fun _ next moved => ?_
    obtain ⟨rfl, -⟩ := advance_eq_ok moved
    refine Turn.run_calls (same token found (by simp [opens])) fun value middle _ => ?_
    refine Turn.run_after fun closing _ _ => ?_
    by_cases closes : closing = .delimiter .rightParen
    · rw [if_pos closes, if_pos closes]
      exact Turn.run_after fun _ _ _ => rfl
    · rw [if_neg closes, if_neg closes]
      rfl
  · rw [if_neg opens, if_neg opens]
    cases atom? store token with
    | none => rfl
    | some value => exact Turn.run_after fun _ _ _ => rfl

/-- What the rules of expressions come to is what their turns come to, if these call the rules
again. -/
theorem run_turn (p : Program) (store : Store) (level : Level) (offset : Nat) :
    (turn p store level (p.read offset)).run (rules p store) =
      rules p store level (p.read offset) := by
  obtain ⟨signed, power, product, sum⟩ := passesSome_operands p store
  have reading : p.IsReading (p.read offset) := ⟨offset, rfl⟩
  cases level with
  | comparison => exact run_rightTurn sum rfl rfl reading (Nat.le_refl _)
  | sum => exact Turn.run_calls rfl fun _ _ _ => Turn.run_leads _ _ _
  | furtherSum value => exact run_leftTurn product rfl (fun _ => rfl) reading (Nat.le_refl _) value
  | product => exact Turn.run_calls rfl fun _ _ _ => Turn.run_leads _ _ _
  | furtherProduct value =>
    exact run_leftTurn power rfl (fun _ => rfl) reading (Nat.le_refl _) value
  | power => exact run_rightTurn signed rfl rfl reading (Nat.le_refl _)
  | signed => exact run_signedTurn p (rules p store) _
  | primary => exact run_primaryTurn fun token found going => expression_behind reading found going

end Turns

/-! ### Calls descend -/

/-- Tokens are passed from the one point to the other, or else the rule there is stronger. -/
def Below (p : Program) (outer inner : Level × Reading) : Prop :=
  ∃ tokens, p.Passes outer.2 tokens inner.2 ∧
    (tokens = [] → outer.1.strength < inner.1.strength)

/-- A rule calls another one. -/
def Calls (p : Program) (store : Store) (outer inner : Level × Reading) : Prop :=
  (turn p store outer.1 outer.2).Makes (rules p store) inner

theorem Below.trans {outer between inner : Level × Reading} (below : Below p outer between)
    (further : Below p between inner) : Below p outer inner := by
  obtain ⟨tokens, passes, stronger⟩ := below
  obtain ⟨others, behind, alsoStronger⟩ := further
  refine ⟨tokens ++ others, passes.append behind, fun none => ?_⟩
  obtain ⟨rfl, rfl⟩ := List.append_eq_nil_iff.mp none
  exact (stronger rfl).trans (alsoStronger rfl)

section Calls

variable {given : Level → Rule Float} {level : Level} {first : Reading} {call : Level × Reading}
  {α : Type}

theorem below_here {other : Level} (stronger : level.strength < other.strength) :
    Below p (level, first) (other, first) :=
  ⟨[], .done first, fun _ => stronger⟩

theorem below_behind {tokens : List Token} {last : Reading} {other : Level} (some : tokens ≠ [])
    (passes : p.Passes first tokens last) : Below p (level, first) (other, last) :=
  ⟨tokens, passes, fun none => absurd none some⟩

theorem Turn.Makes.exists_of_after {ran : EStateM.Result Failure Reading α}
    {goes : α → Reading → Turn} (made : (Turn.after ran goes).Makes given call) :
    ∃ value last, ran = .ok value last ∧ (goes value last).Makes given call := by
  cases ran with
  | ok value last => exact ⟨value, last, rfl, made⟩
  | error failure last => cases made

theorem Turn.Makes.eq_of_leads (made : (Turn.leads level first).Makes given call) :
    call = (level, first) := by
  cases made with
  | now => rfl
  | later _ made => cases made

theorem rightTurn_below {operation : Token → Option (Float → Float → Float)}
    {operand whole : Level} (passes : PassesSome p (given operand))
    (none : operation .endOfProgram = none) (stronger : level.strength < operand.strength)
    (reading : p.IsReading first)
    (made : (rightTurn p operation operand whole first).Makes given call) :
    Below p (level, first) call := by
  cases made with
  | now => exact below_here stronger
  | later ran behind =>
    obtain ⟨token, _, holds, chosen⟩ := behind.exists_of_after
    obtain ⟨found, rfl⟩ := current_eq_ok holds
    cases known : operation token with
    | none =>
      simp only [known] at chosen
      cases chosen
    | some apply =>
      simp only [known] at chosen
      obtain ⟨_, next, moved, called⟩ := chosen.exists_of_after
      obtain ⟨rfl, -⟩ := advance_eq_ok moved
      obtain ⟨tokens, -, before⟩ := passes reading ran
      cases called with
      | now =>
        exact below_behind (by simp)
          (before.append (.single found (going_of_operation none known)))
      | later _ ended => cases ended

theorem leftTurn_below {operation : Token → Option Operation} {operand : Level}
    {further : Float → Level} {value : Float} (passes : PassesSome p (given operand))
    (none : operation .endOfProgram = none)
    (made : (leftTurn p operation operand further value first).Makes given call) :
    Below p (level, first) call := by
  obtain ⟨token, _, holds, chosen⟩ := made.exists_of_after
  obtain ⟨found, rfl⟩ := current_eq_ok holds
  cases known : operation token with
  | none =>
    simp only [known] at chosen
    cases chosen
  | some apply =>
    simp only [known] at chosen
    obtain ⟨_, next, moved, called⟩ := chosen.exists_of_after
    obtain ⟨rfl, -⟩ := advance_eq_ok moved
    have operator := going_of_operation none known
    cases called with
    | now => exact below_behind (by simp) (.single found operator)
    | @later _ _ _ _ right _ ran led =>
      obtain ⟨tokens, -, behind⟩ := passes ⟨_, rfl⟩ ran
      cases applied : apply value right with
      | error failure =>
        simp only [applied] at led
        cases led
      | ok result =>
        simp only [applied] at led
        cases led.eq_of_leads
        exact below_behind (by simp) (.pass found operator behind)

/-- A chain that groups to the left goes on behind its first operand. -/
theorem operand_below {operand : Level} {further : Float → Level}
    (passes : PassesSome p (given operand)) (stronger : level.strength < operand.strength)
    (reading : p.IsReading first)
    (made : (Turn.calls operand first fun value middle => .leads (further value) middle).Makes
      given call) : Below p (level, first) call := by
  cases made with
  | now => exact below_here stronger
  | later ran made =>
    obtain ⟨tokens, some, before⟩ := passes reading ran
    cases made.eq_of_leads
    exact below_behind some before

theorem signedTurn_below (stronger : level.strength < Level.primary.strength)
    (made : (signedTurn p first).Makes given call) : Below p (level, first) call := by
  obtain ⟨token, _, holds, chosen⟩ := made.exists_of_after
  obtain ⟨found, rfl⟩ := current_eq_ok holds
  cases known : sign? token with
  | none =>
    simp only [known] at chosen
    cases chosen.eq_of_leads
    exact below_here stronger
  | some negative =>
    simp only [known] at chosen
    obtain ⟨_, next, moved, called⟩ := chosen.exists_of_after
    obtain ⟨rfl, -⟩ := advance_eq_ok moved
    cases called with
    | now => exact below_behind (by simp) (.single found (going_of_operation rfl known))
    | later _ ended => cases ended

theorem primaryTurn_below (made : (primaryTurn p store first).Makes given call) :
    Below p (level, first) call := by
  obtain ⟨token, _, holds, chosen⟩ := made.exists_of_after
  obtain ⟨found, rfl⟩ := current_eq_ok holds
  by_cases opens : token = .delimiter .leftParen
  · rw [if_pos opens] at chosen
    obtain ⟨_, next, moved, called⟩ := chosen.exists_of_after
    obtain ⟨rfl, -⟩ := advance_eq_ok moved
    cases called with
    | now => exact below_behind (by simp) (.single found (by simp [opens]))
    | later _ behind =>
      -- nothing is called behind the expression in parentheses
      obtain ⟨closing, _, -, closed⟩ := behind.exists_of_after
      split at closed
      next =>
        obtain ⟨_, _, -, ended⟩ := closed.exists_of_after
        cases ended
      next => cases closed
  · rw [if_neg opens] at chosen
    split at chosen
    next =>
      obtain ⟨_, _, -, ended⟩ := chosen.exists_of_after
      cases ended
    next => cases chosen

/-- Each call leads to a stronger rule, or behind a token. -/
theorem Calls.below {inner : Level × Reading} (reading : p.IsReading first)
    (calls : Calls p store (level, first) inner) : Below p (level, first) inner := by
  obtain ⟨signed, power, product, sum⟩ := passesSome_operands p store
  cases level with
  | comparison => exact rightTurn_below sum rfl (by decide) reading calls
  | sum => exact operand_below product (by decide) reading calls
  | furtherSum value => exact leftTurn_below product rfl calls
  | product => exact operand_below power (by decide) reading calls
  | furtherProduct value => exact leftTurn_below power rfl calls
  | power => exact rightTurn_below signed rfl (by decide) reading calls
  | signed => exact signedTurn_below (by decide) calls
  | primary => exact primaryTurn_below calls

/-- So does each chain of calls. -/
theorem below_of_transGen {inner : Level × Reading} (reading : p.IsReading first)
    (chain : Relation.TransGen (Calls p store) (level, first) inner) :
    Below p (level, first) inner := by
  induction chain with
  | single calls => exact calls.below reading
  | tail _ calls ih =>
    have ⟨tokens, passes, _⟩ := ih
    exact ih.trans (calls.below (passes.isReading reading))

end Calls

/-! ### Turns end -/

/-- The turns, unrolled. What is left over when they are used up, other rules do. -/
def unrolled (p : Program) (store : Store) (others : Level → Rule Float) :
    (turns : Nat) → Level → Rule Float
  | 0 => others
  | turns + 1 => fun level first => (turn p store level first).run (unrolled p store others turns)

/-- There are six strengths for each character ahead. -/
def height (p : Program) (call : Level × Reading) : Nat :=
  6 * (p.length - call.2.start) + (5 - call.1.strength)

theorem Level.strength_le (level : Level) : level.strength ≤ 5 := by
  cases level <;> simp [strength]

theorem Below.height_lt {outer inner : Level × Reading} (below : Below p outer inner)
    (reading : p.IsReading outer.2) : height p inner < height p outer := by
  obtain ⟨level, first⟩ := outer
  obtain ⟨other, last⟩ := inner
  obtain ⟨tokens, passes, stronger⟩ := below
  have bound := level.strength_le
  have otherBound := other.strength_le
  simp only [height] at passes stronger ⊢
  by_cases none : tokens = []
  · have rises := stronger none
    have forward := passes.start_le reading
    omega
  · have less := passes.ahead_lt none reading
    omega

/-- A turn depends on nothing but the calls that it makes. -/
theorem Turn.run_congr {given others : Level → Rule Float} {turn : Turn}
    (same : ∀ level first, turn.Makes given (level, first) →
      others level first = given level first) :
    turn.run others = turn.run given := by
  induction turn with
  | ends outcome => rfl
  | calls level first goes ih =>
    rw [run, run, same level first .now]
    cases ran : given level first with
    | ok value last =>
      exact ih value last fun level first made => same level first (.later ran made)
    | error failure last => rfl

/-- Unrolled far enough, the turns come to what the rules do, and nothing is left over. -/
theorem unrolled_eq (others : Level → Rule Float) {turns : Nat} {level : Level} {first : Reading}
    (reading : p.IsReading first) (enough : height p (level, first) < turns) :
    unrolled p store others turns level first = rules p store level first := by
  induction turns generalizing level first with
  | zero => omega
  | succ turns ih =>
    obtain ⟨offset, rfl⟩ := reading
    rw [← run_turn, unrolled]
    refine Turn.run_congr fun other next made => ?_
    have below := Calls.below ⟨offset, rfl⟩ made
    have ⟨tokens, passes, _⟩ := below
    have lower := below.height_lt ⟨offset, rfl⟩
    exact ih (passes.isReading ⟨offset, rfl⟩) (by omega)

/-- Where a cursor stands once a rule has ended. -/
def stands : EStateM.Result Failure Reading Float → EStateM.Result Failure Cursor Float
  | .ok value reading => .ok value (.before reading)
  | .error failure reading => .error failure (.behind reading)

theorem evaluate_eq_stands (p : Program) (store : Store) (cursor : Cursor) :
    evaluate p store cursor = stands (start p store (p.read cursor.offset)) := rfl

/-- Evaluates an expression by a rule for what starts with the token in hand. -/
def evaluateBy (p : Program) (rule : Rule Float) : Scan Float := fun cursor =>
  let started : Rule Float := do
    if (← current) = .endOfProgram then throw .noExpression
    else rule
  stands (started (p.read cursor.offset))

theorem evaluateBy_eq {rule : Rule Float} {cursor : Cursor}
    (same : rule (p.read cursor.offset) = rules p store .comparison (p.read cursor.offset)) :
    evaluateBy p rule cursor = evaluate p store cursor := by
  rw [evaluate_eq_stands]
  refine congrArg stands (bind_congr_of_ok rfl fun token here holds => ?_)
  obtain ⟨-, rfl⟩ := current_eq_ok holds
  split
  · rfl
  · exact same

theorem evaluateBy_unrolled (p : Program) (store : Store) (others : Level → Rule Float)
    {turns : Nat} (cursor : Cursor) (enough : 6 * (p.length + 1) ≤ turns) :
    evaluateBy p (unrolled p store others turns .comparison) cursor = evaluate p store cursor := by
  apply evaluateBy_eq
  apply unrolled_eq others ⟨_, rfl⟩
  rw [height]
  omega

end Expression

/-! ### How far an evaluation gets -/

namespace Program

variable {p : Program} {offset place : Nat} {last : Reading}

/-- Nothing that ends a line lies between tokens of one line. -/
theorem Follows.exists_plain (follows : p.Follows (p.read offset) last) :
    ∃ between behind, p.rest offset = between ++ behind ∧ IsPlain between ∧
      last.start = offset + between.length := by
  obtain ⟨tokens, passes, within⟩ := follows
  induction tokens generalizing offset with
  | nil =>
    cases passes
    obtain ⟨blanks, rest, text, blank, gap⟩ := p.exists_gap offset
    exact ⟨blanks, rest, text, isPlain_of_blank blank, gap⟩
  | cons token tokens ih =>
    simp only [List.mem_cons, not_or] at within
    cases passes with
    | pass found going rest =>
      obtain ⟨between, further, behindText, plain, starts⟩ := ih rest within.2
      have shape := p.read_cases offset
      generalize p.read offset = reading at shape found behindText starts
      cases shape with
      | ends => exact absurd (Except.ok.inj found).symm going
      | opens => cases found
      | @token _ blanks raw behind text blank spells =>
        cases Except.ok.inj found
        rw [rest_add, rest_add, text, List.drop_left, List.drop_left] at behindText
        refine ⟨blanks ++ (raw ++ between), further, ?_, ?_, ?_⟩
        · rw [text, behindText, List.append_assoc, List.append_assoc]
        · intro c member
          rcases List.mem_append.mp member with inBlanks | inRest
          · exact isPlain_of_blank blank c inBlanks
          · rcases List.mem_append.mp inRest with inRaw | inBetween
            · exact spells.isPlain (Ne.symm within.1) c inRaw
            · exact plain c inBetween
        · rw [starts]
          simp only [List.length_append]
          omega

theorem Follows.start_le_lineEnd (follows : p.Follows (p.read offset) last) (le : offset ≤ place)
    (ends : p.charAt? place = some '\r' ∨ p.charAt? place = some '\n') : last.start ≤ place := by
  obtain ⟨between, behind, text, plain, starts⟩ := follows.exists_plain
  by_contra before
  have inside : place - offset < between.length := by omega
  have char : p.charAt? place = some between[place - offset] := by
    have same : p.charAt? place = (p.rest offset)[place - offset]? := by
      rw [charAt?, rest, List.getElem?_drop, Nat.add_sub_cancel' le]
    rw [same, text, List.getElem?_append_left inside, List.getElem?_eq_getElem inside]
  obtain ⟨noReturn, noFeed⟩ := plain _ (List.getElem_mem inside)
  rw [char] at ends
  rcases ends with returns | feeds
  · exact noReturn (Option.some.inj returns)
  · exact noFeed (Option.some.inj feeds)

end Program

namespace Expression

variable {p : Program} {store : Store} {cursor : Cursor}

theorem offset_lt_of_evaluate {value : Float} {after : Cursor}
    (ran : evaluate p store cursor = .ok value after) : cursor.offset < after.offset := by
  rw [evaluate] at ran
  split at ran
  next x last started =>
    cases ran
    obtain ⟨tree, passes, -⟩ := start_accepts started
    have gap := p.le_start cursor.offset
    exact Nat.lt_of_le_of_lt gap (passes.start_lt tree.yield_ne_nil ⟨_, rfl⟩)
  next => cases ran

/-- An evaluation stays on the line, in front of its end if there is a value. -/
theorem evaluate_reach (p : Program) (store : Store) (cursor : Cursor) :
    Leaves
      (fun _ after => cursor.offset < after.offset ∧
        (cursor.offset ≤ p.length → after.offset ≤ p.length) ∧
        ∀ place, cursor.offset ≤ place →
          p.charAt? place = some '\r' ∨ p.charAt? place = some '\n' → after.offset ≤ place)
      (fun _ after => cursor.offset ≤ after.offset ∧
        (cursor.offset ≤ p.length → after.offset ≤ p.length) ∧
        ∀ place, cursor.offset ≤ place → p.endsLineAt place = true → after.offset ≤ place + 1)
      (evaluate p store cursor) := by
  have follows := evaluate_follows p store cursor
  cases ran : evaluate p store cursor with
  | ok value after =>
    obtain ⟨last, token, behind, found, rfl⟩ := follows.of_ok ran
    have ⟨tokens, passes, _⟩ := behind
    refine .ok ⟨offset_lt_of_evaluate ran, passes.start_le_length, fun place le ends => ?_⟩
    exact behind.start_le_lineEnd le ends
  | error failure after =>
    obtain ⟨last, behind, rfl⟩ := follows.of_error ran
    have ⟨tokens, passes, _⟩ := behind
    have sameLine := behind.nextLine
    have forward := passes.start_le ⟨_, rfl⟩
    have gap := p.le_start cursor.offset
    -- what stops an evaluation is read where it starts, and stops on the same line
    have again : p.read last.start = last := by
      obtain ⟨offset, rfl⟩ := passes.isReading ⟨_, rfl⟩
      exact p.read_start offset
    have within := p.start_le_stop last.start
    have bound := p.read_stop_le_nextLine last.start
    rw [again] at within bound
    refine .error ⟨by simp only [Cursor.behind]; omega, fun inside => ?_, fun place le ends => ?_⟩
    · have stops := p.stop_le_length last.start (passes.start_le_length inside)
      rw [again] at stops
      exact stops
    · have lineEnds := Program.nextLine_le_of_endsLineAt le ends
      rw [Program.nextLine, sameLine] at lineEnds
      exact bound.trans lineEnds

/-! ### Every evaluation ends -/

/-- The rules of expressions are what their turns come to. A chain of calls that leads back to a
rule, or to a weaker one, passes tokens of the program on its way, and whatever stands for the
calls left over does not matter once there are six turns for each character. An evaluation
therefore ends, on its line, and gets on if it has a value. -/
theorem evaluate_descends (p : Program) (store : Store) :
    (∀ level offset, (turn p store level (p.read offset)).run (rules p store) =
      rules p store level (p.read offset)) ∧
    (∀ level offset inner, Relation.TransGen (Calls p store) (level, p.read offset) inner →
      inner.1.strength ≤ level.strength →
      ∃ tokens, tokens ≠ [] ∧ p.Passes (p.read offset) tokens inner.2) ∧
    (∀ others turns cursor, 6 * (p.length + 1) ≤ turns →
      evaluateBy p (unrolled p store others turns .comparison) cursor =
        evaluate p store cursor) ∧
    ∀ cursor, Leaves
      (fun _ after => cursor.offset < after.offset ∧
        (cursor.offset ≤ p.length → after.offset ≤ p.length) ∧
        ∀ place, cursor.offset ≤ place →
          p.charAt? place = some '\r' ∨ p.charAt? place = some '\n' → after.offset ≤ place)
      (fun _ after => cursor.offset ≤ after.offset ∧
        (cursor.offset ≤ p.length → after.offset ≤ p.length) ∧
        ∀ place, cursor.offset ≤ place → p.endsLineAt place = true → after.offset ≤ place + 1)
      (evaluate p store cursor) := by
  refine ⟨run_turn p store, ?calls, ?ends, evaluate_reach p store⟩
  case calls =>
    intro level offset inner chain back
    obtain ⟨tokens, passes, stronger⟩ := below_of_transGen ⟨offset, rfl⟩ chain
    exact ⟨tokens, fun none => Nat.not_lt.mpr back (stronger none), passes⟩
  case ends => exact fun others _ cursor enough => evaluateBy_unrolled p store others cursor enough

/-- A number in parentheses, on a line. -/
def grouped : Program := .ofString "(1)\n2"

/-- From the parenthesis on, each rule calls the next stronger one, up to the expression inside. -/
theorem evaluate_descends_grouped :
    Relation.TransGen (Calls grouped Store.initial) (.comparison, grouped.read 0)
      (.comparison, grouped.read (grouped.read 0).stop) ∧
    (∃ tokens, tokens ≠ [] ∧
      grouped.Passes (grouped.read 0) tokens (grouped.read (grouped.read 0).stop)) ∧
    (∃ others, evaluateBy grouped (unrolled grouped Store.initial others 36 .comparison) {} =
      evaluate grouped Store.initial {}) ∧
    Leaves (fun _ after => 0 < after.offset ∧ after.offset ≤ 5 ∧ after.offset ≤ 3)
      (fun _ after => 0 ≤ after.offset ∧ after.offset ≤ 5 ∧ after.offset ≤ 4)
      (evaluate grouped Store.initial {}) := by
  have opens : (grouped.read 0).found = .ok (.delimiter .leftParen) := by decide +kernel
  have inside : (grouped.read (grouped.read 0).stop).found = .ok (.number "1") := by
    decide +kernel
  have signed : Relation.TransGen (Calls grouped Store.initial) (.comparison, grouped.read 0)
      (.signed, grouped.read 0) := by
    have sum : Calls grouped Store.initial (.comparison, grouped.read 0) (.sum, grouped.read 0) :=
      .now
    have product : Calls grouped Store.initial (.sum, grouped.read 0) (.product, grouped.read 0) :=
      .now
    have power : Calls grouped Store.initial (.product, grouped.read 0) (.power, grouped.read 0) :=
      .now
    exact .tail (.tail (.tail (.single sum) product) power) .now
  have primary : Calls grouped Store.initial (.signed, grouped.read 0)
      (.primary, grouped.read 0) := by
    simp only [Calls, turn, signedTurn, current_ok opens, Turn.after]
    exact .now
  have comparison : Calls grouped Store.initial (.primary, grouped.read 0)
      (.comparison, grouped.read (grouped.read 0).stop) := by
    simp only [Calls, turn, primaryTurn, current_ok opens, Turn.after, if_pos,
      advance_ok inside]
    exact .now
  have chain := (signed.tail primary).tail comparison
  obtain ⟨-, calls, ends, reach⟩ := evaluate_descends grouped Store.initial
  have back := calls .comparison 0 _ chain (Nat.le_refl _)
  refine ⟨chain, back, ⟨fun _ => throw .malformed, ends _ _ _ ?_⟩, (reach {}).imp ?_ ?_⟩
  · decide +kernel
  · rintro _ after ⟨forward, within, line⟩
    exact ⟨forward, within (by decide +kernel), line 3 (by decide) (.inr (by decide +kernel))⟩
  · rintro _ after ⟨forward, within, line⟩
    exact ⟨forward, within (by decide +kernel), line 3 (by decide) (by decide +kernel)⟩

end Expression

end LineBasic
