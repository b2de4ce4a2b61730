import LineBasic.Expression
import LineBasic.Proofs.Grammar
import LineBasic.Proofs.Outcomes
import LineBasic.Proofs.Readings

/-!
# Evaluation follows the grammar

The rules of `Expression` compute while they read. Here they are compared with
the syntax trees: a rule that reads the tokens of a tree gives the value of the
tree, or fails with the failure of that value (`Gives`), and whatever a rule
accepts is the tokens of a tree (`Accepts`).

Both directions go through the chains of operators first, for operands of any
kind. The budget of a chain only has to exceed the tokens ahead.
-/

namespace LineBasic.Expression

open Grammar

variable {p : Program} {store : Store}

/-! ### Single steps of rules -/

theorem current_ok {reading : Reading} {token : Token} (found : reading.found = .ok token) :
    current reading = .ok token reading := by
  rw [current, found]

theorem advance_eq (p : Program) (reading : Reading) :
    advance p reading = match (p.read reading.stop).found with
      | .ok _ => .ok () (p.read reading.stop)
      | .error failure => .error failure (p.read reading.stop) := by
  have moved : advance p reading = (discard current : Rule Unit) (p.read reading.stop) := rfl
  cases found : (p.read reading.stop).found with
  | ok token =>
    rw [moved]
    simp [discard, Functor.discard, Functor.mapConst, EStateM.map, current, found]
  | error failure =>
    rw [moved]
    simp [discard, Functor.discard, Functor.mapConst, EStateM.map, current, found]

theorem advance_ok {reading : Reading} {token : Token}
    (found : (p.read reading.stop).found = .ok token) :
    advance p reading = .ok () (p.read reading.stop) := by
  rw [advance_eq, found]

theorem current_eq_ok {reading last : Reading} {token : Token}
    (ran : current reading = .ok token last) : reading.found = .ok token ∧ last = reading := by
  unfold current at ran
  split at ran
  next found => cases ran; exact ⟨found, rfl⟩
  · cases ran

theorem advance_eq_ok {reading last : Reading} (ran : advance p reading = .ok () last) :
    last = p.read reading.stop ∧ ∃ token, last.found = .ok token := by
  rw [advance_eq] at ran
  split at ran
  next token found => cases ran; exact ⟨rfl, token, found⟩
  · cases ran

/-! ### Rules that give the value of a tree -/

/-- The rule ended as the value says: with `last` in hand, or with the failure of
the value. -/
def Gives (outcome : EStateM.Result Failure Reading Float) (value : Except Failure Float)
    (last : Reading) : Prop :=
  match value with
  | .ok x => outcome = .ok x last
  | .error failure => ∃ stuck, outcome = .error failure stuck

theorem gives_bind {rule : Rule Float} {next : Float → Rule Float} {value : Except Failure Float}
    {further : Float → Except Failure Float} {first middle last : Reading}
    (ran : Gives (rule first) value middle)
    (goes : ∀ x, value = .ok x → Gives (next x middle) (further x) last) :
    Gives ((rule >>= next) first) (value >>= further) last := by
  cases value with
  | ok x =>
    rw [bind_of_ok ran]
    exact goes x rfl
  | error failure =>
    obtain ⟨stuck, failed⟩ := ran
    exact ⟨stuck, bind_of_error failed⟩

section Chains

variable {operand : Rule Float} {first middle last : Reading} {token : Token}

theorem rightChain_single {operation : Token → Option (Float → Float → Float)}
    {value : Except Failure Float} (chain : Nat) (ran : Gives (operand first) value last)
    (following : last.found = .ok token) (ends : operation token = none) :
    Gives (rightChain p operation (chain + 1) operand first) value last := by
  rw [rightChain, ← bind_pure value]
  refine gives_bind ran fun x _ => ?_
  -- the token behind the operand is no operator of this chain
  rw [bind_of_ok (current_ok following), ends]
  rfl

theorem rightChain_more {operation : Token → Option (Float → Float → Float)}
    {apply : Float → Float → Float} {left right : Except Failure Float} {other : Token}
    {chain : Nat} (ran : Gives (operand first) left middle)
    (found : middle.found = .ok token) (known : operation token = some apply)
    (next : (p.read middle.stop).found = .ok other)
    (rest : Gives (rightChain p operation chain operand (p.read middle.stop)) right last) :
    Gives (rightChain p operation (chain + 1) operand first)
      (do let x ← left; let y ← right; pure (apply x y)) last := by
  rw [rightChain]
  refine gives_bind ran fun x _ => ?_
  rw [bind_of_ok (current_ok found), known]
  change Gives ((advance p >>= fun _ => _) middle) _ last
  rw [bind_of_ok (advance_ok next)]
  exact gives_bind rest fun y _ => rfl

theorem leftChainFrom_none {operation : Token → Option Operation} (chain : Nat) (x : Float)
    (following : last.found = .ok token) (ends : operation token = none) :
    Gives (leftChainFrom p operation operand chain x last) (.ok x) last := by
  cases chain with
  | zero => rfl
  | succ chain =>
    rw [leftChainFrom, bind_of_ok (current_ok following), ends]
    rfl

theorem leftChainFrom_more {operation : Token → Option Operation} {apply : Operation}
    {value : Except Failure Float} {rest : Float → Except Failure Float} {other : Token}
    {chain : Nat} {x : Float} (found : first.found = .ok token)
    (known : operation token = some apply) (next : (p.read first.stop).found = .ok other)
    (ran : Gives (operand (p.read first.stop)) value middle)
    (goes : ∀ z, Gives (leftChainFrom p operation operand chain z middle) (rest z) last) :
    Gives (leftChainFrom p operation operand (chain + 1) x first)
      (do let y ← value; rest (← apply x y)) last := by
  rw [leftChainFrom, bind_of_ok (current_ok found), known]
  change Gives ((advance p >>= fun _ => _) first) _ last
  rw [bind_of_ok (advance_ok next)]
  refine gives_bind ran fun y _ => ?_
  -- the chain goes on with the result, unless the operation has none
  cases apply x y with
  | ok z => exact goes z
  | error failure => exact ⟨middle, rfl⟩

theorem leftChain_of {operation : Token → Option Operation} {value : Except Failure Float}
    {rest : Float → Except Failure Float} {chain : Nat}
    (ran : Gives (operand first) value middle)
    (goes : ∀ x, Gives (leftChainFrom p operation operand chain x middle) (rest x) last) :
    Gives (leftChain p operation chain operand first) (value >>= rest) last := by
  rw [leftChain]
  exact gives_bind ran fun x _ => goes x

end Chains

/-! ### Operators and signs -/

theorem comparison?_token (relation : Relation) :
    comparison? relation.token = some relation.apply := by
  cases relation <;> rfl

theorem additive?_token (sign : Additive) : additive? sign.token = some sign.apply := by
  cases sign <;> rfl

theorem multiplicative?_token (sign : Multiplicative) :
    multiplicative? sign.token = some sign.apply := by
  cases sign <;> rfl

theorem sign?_token (sign : Sign) :
    ∃ negative, sign? sign.token = some negative ∧
      ∀ x : Float, (if negative then -x else x) = sign.apply x := by
  cases sign with
  | plus => exact ⟨false, rfl, fun _ => rfl⟩
  | minus => exact ⟨true, rfl, fun _ => rfl⟩
  | quotedMinus => exact ⟨true, rfl, fun _ => rfl⟩

theorem ne_minus_of_isRun {text : String} (run : IsRun text.toList) : text ≠ "-" := by
  rintro rfl
  exact absurd (run '-' (by decide)) (by decide)

/-! ### The rules by their strength -/

def operandRule (p : Program) (store : Store) (budget : Nat) : Rule Float :=
  signed p (primary p store (expression p store budget))

def powerRule (p : Program) (store : Store) (budget chain : Nat) : Rule Float :=
  rightChain p power? chain (operandRule p store budget)

def productRule (p : Program) (store : Store) (budget : Nat) : Rule Float :=
  leftChain p multiplicative? (budget + 1) (powerRule p store budget (budget + 1))

def sumRule (p : Program) (store : Store) (budget : Nat) : Rule Float :=
  leftChain p additive? (budget + 1) (productRule p store budget)

def comparisonRule (p : Program) (store : Store) (budget chain : Nat) : Rule Float :=
  rightChain p comparison? chain (sumRule p store budget)

theorem expression_succ (p : Program) (store : Store) (budget : Nat) :
    expression p store (budget + 1) = comparisonRule p store budget (budget + 1) := rfl

/-! ### Every tree is evaluated -/

theorem primary_atom {budget : Nat} {first : Reading} {token other : Token}
    (found : first.found = .ok token) (plain : token ≠ .delimiter .leftParen)
    (next : (p.read first.stop).found = .ok other) :
    Gives (primary p store (expression p store budget) first) (valueOf (atom? store token))
      (p.read first.stop) := by
  rw [primary, bind_of_ok (current_ok found), if_neg plain]
  cases atom? store token with
  | none => exact ⟨first, rfl⟩
  | some x =>
    change (advance p >>= fun _ => pure x) first = .ok x (p.read first.stop)
    rw [bind_of_ok (advance_ok next)]
    rfl

theorem primary_group {inner : Rule Float} {value : Except Failure Float}
    {first middle : Reading} {other another : Token}
    (found : first.found = .ok (.delimiter .leftParen))
    (next : (p.read first.stop).found = .ok other)
    (ran : Gives (inner (p.read first.stop)) value middle)
    (closes : middle.found = .ok (.delimiter .rightParen))
    (behind : (p.read middle.stop).found = .ok another) :
    Gives (primary p store inner first) value (p.read middle.stop) := by
  rw [primary, bind_of_ok (current_ok found), if_pos rfl, bind_of_ok (advance_ok next),
    ← bind_pure value]
  refine gives_bind ran fun x _ => ?_
  rw [bind_of_ok (current_ok closes), if_pos rfl, bind_of_ok (advance_ok behind)]
  rfl

theorem signed_bare {operand : Rule Float} {first : Reading} {token : Token}
    (found : first.found = .ok token) (unsigned : sign? token = none) :
    signed p operand first = operand first := by
  rw [signed, bind_of_ok (current_ok found), unsigned]

private theorem primary_unsigned {tree : Primary} {first last : Reading}
    (reading : p.IsReading first) (passes : p.Passes first tree.yield last) :
    ∃ head, first.found = .ok head ∧ sign? head = none := by
  obtain ⟨offset, rfl⟩ := reading
  cases tree with
  | group inner =>
    rw [Primary.yield] at passes
    cases passes with
    | pass found => exact ⟨_, found, by decide⟩
  | number text =>
    rw [Primary.yield] at passes
    cases passes with
    | pass found going =>
      -- a number that reads like a sign cannot have been read
      have shape : IsNumeral text.toList := p.read_wellFormed found going
      exact ⟨_, found, by simp [sign?, Token.lexeme, ne_minus_of_isRun shape.2]⟩
  | name text =>
    rw [Primary.yield] at passes
    cases passes with
    | pass found going =>
      have shape : IsWord text.toList := (p.read_wellFormed found going).1
      exact ⟨_, found, by simp [sign?, Token.lexeme, ne_minus_of_isRun shape.2]⟩

private theorem terms_follow {rest : Terms} {middle last : Reading} {token : Token}
    (passes : p.Passes middle rest.yield last) (following : last.found = .ok token)
    (noPower : power? token = none) (noProduct : multiplicative? token = none) :
    ∃ token, middle.found = .ok token ∧ power? token = none ∧ multiplicative? token = none := by
  -- the operand is followed by a sign of the sum, or by what follows the sum
  cases rest with
  | none =>
    rw [Terms.yield] at passes
    cases passes with
    | done => exact ⟨token, following, noPower, noProduct⟩
  | more sign term rest =>
    rw [Terms.yield] at passes
    cases passes with
    | pass found => exact ⟨_, found, by cases sign <;> rfl, by cases sign <;> rfl⟩

private theorem factors_follow {rest : Factors} {middle last : Reading} {token : Token}
    (passes : p.Passes middle rest.yield last) (following : last.found = .ok token)
    (noPower : power? token = none) :
    ∃ token, middle.found = .ok token ∧ power? token = none := by
  cases rest with
  | none =>
    rw [Factors.yield] at passes
    cases passes with
    | done => exact ⟨token, following, noPower⟩
  | more sign factor rest =>
    rw [Factors.yield] at passes
    cases passes with
    | pass found => exact ⟨_, found, by cases sign <;> rfl⟩

mutual

theorem comparison_gives (tree : Comparison) {budget chain : Nat} {first last : Reading}
    {token : Token} (room : tree.yield.length ≤ budget) (long : tree.yield.length < chain)
    (reading : p.IsReading first) (passes : p.Passes first tree.yield last)
    (following : last.found = .ok token) (noPower : power? token = none)
    (noProduct : multiplicative? token = none) (noSum : additive? token = none)
    (noComparison : comparison? token = none) :
    Gives (comparisonRule p store budget chain first) (tree.value store) last := by
  obtain ⟨chain, rfl⟩ : ∃ shorter, chain = shorter + 1 := ⟨chain - 1, by omega⟩
  match tree with
  | .single left =>
    rw [Comparison.yield] at room passes
    rw [Comparison.value]
    exact rightChain_single chain
      (sum_gives left room reading passes following noPower noProduct noSum)
      following noComparison
  | .compare left relation right =>
    rw [Comparison.yield] at room long passes
    simp only [List.length_append, List.length_cons] at room long
    obtain ⟨middle, before, behind⟩ := passes.split
    cases behind with
    | pass found going rest =>
      obtain ⟨other, next⟩ := rest.exists_found following
      rw [Comparison.value]
      -- a relation is no operator of a stronger rule, so it ends the sum before it
      refine rightChain_more ?_ found (comparison?_token relation) next ?_
      · exact sum_gives left (by omega) reading before found (by cases relation <;> rfl)
          (by cases relation <;> rfl) (by cases relation <;> rfl)
      · exact comparison_gives right (by omega) (by omega) ⟨_, rfl⟩ rest following noPower
          noProduct noSum noComparison

theorem sum_gives (tree : Sum) {budget : Nat} {first last : Reading} {token : Token}
    (room : tree.yield.length ≤ budget) (reading : p.IsReading first)
    (passes : p.Passes first tree.yield last) (following : last.found = .ok token)
    (noPower : power? token = none) (noProduct : multiplicative? token = none)
    (noSum : additive? token = none) :
    Gives (sumRule p store budget first) (tree.value store) last := by
  match tree with
  | .of term rest =>
    rw [Sum.yield] at room passes
    simp only [List.length_append] at room
    obtain ⟨middle, before, behind⟩ := passes.split
    obtain ⟨other, found, otherPower, otherProduct⟩ :=
      terms_follow behind following noPower noProduct
    rw [Sum.value]
    refine leftChain_of (product_gives term (by omega) reading before found otherPower
      otherProduct) fun x => ?_
    exact terms_gives rest (by omega) (by omega) behind following noPower noProduct noSum

theorem terms_gives (tree : Terms) {budget chain : Nat} {x : Float} {first last : Reading}
    {token : Token} (room : tree.yield.length ≤ budget) (long : tree.yield.length ≤ chain)
    (passes : p.Passes first tree.yield last)
    (following : last.found = .ok token) (noPower : power? token = none)
    (noProduct : multiplicative? token = none) (noSum : additive? token = none) :
    Gives (leftChainFrom p additive? (productRule p store budget) chain x first)
      (tree.value store x) last := by
  match tree with
  | .none =>
    rw [Terms.yield] at passes
    rw [Terms.value]
    cases passes with
    | done => exact leftChainFrom_none chain x following noSum
  | .more sign term rest =>
    rw [Terms.yield] at room long passes
    simp only [List.length_append, List.length_cons] at room long
    obtain ⟨chain, rfl⟩ : ∃ shorter, chain = shorter + 1 := ⟨chain - 1, by omega⟩
    cases passes with
    | pass found going further =>
      obtain ⟨next, starts⟩ := further.exists_found following
      obtain ⟨middle, before, behind⟩ := further.split
      obtain ⟨other, ends, otherPower, otherProduct⟩ :=
        terms_follow behind following noPower noProduct
      rw [Terms.value]
      refine leftChainFrom_more found (additive?_token sign) starts
        (product_gives term (by omega) ⟨_, rfl⟩ before ends otherPower otherProduct) fun z => ?_
      exact terms_gives rest (by omega) (by omega) behind following noPower noProduct noSum

theorem product_gives (tree : Product) {budget : Nat} {first last : Reading} {token : Token}
    (room : tree.yield.length ≤ budget) (reading : p.IsReading first)
    (passes : p.Passes first tree.yield last) (following : last.found = .ok token)
    (noPower : power? token = none) (noProduct : multiplicative? token = none) :
    Gives (productRule p store budget first) (tree.value store) last := by
  match tree with
  | .of factor rest =>
    rw [Product.yield] at room passes
    simp only [List.length_append] at room
    obtain ⟨middle, before, behind⟩ := passes.split
    obtain ⟨other, found, otherPower⟩ := factors_follow behind following noPower
    rw [Product.value]
    refine leftChain_of (power_gives factor (by omega) (by omega) reading before found
      otherPower) fun x => ?_
    exact factors_gives rest (by omega) (by omega) behind following noPower noProduct

theorem factors_gives (tree : Factors) {budget chain : Nat} {x : Float} {first last : Reading}
    {token : Token} (room : tree.yield.length ≤ budget) (long : tree.yield.length ≤ chain)
    (passes : p.Passes first tree.yield last)
    (following : last.found = .ok token) (noPower : power? token = none)
    (noProduct : multiplicative? token = none) :
    Gives (leftChainFrom p multiplicative? (powerRule p store budget (budget + 1)) chain x first)
      (tree.value store x) last := by
  match tree with
  | .none =>
    rw [Factors.yield] at passes
    rw [Factors.value]
    cases passes with
    | done => exact leftChainFrom_none chain x following noProduct
  | .more sign factor rest =>
    rw [Factors.yield] at room long passes
    simp only [List.length_append, List.length_cons] at room long
    obtain ⟨chain, rfl⟩ : ∃ shorter, chain = shorter + 1 := ⟨chain - 1, by omega⟩
    cases passes with
    | pass found going further =>
      obtain ⟨next, starts⟩ := further.exists_found following
      obtain ⟨middle, before, behind⟩ := further.split
      obtain ⟨other, ends, otherPower⟩ := factors_follow behind following noPower
      rw [Factors.value]
      refine leftChainFrom_more found (multiplicative?_token sign) starts
        (power_gives factor (by omega) (by omega) ⟨_, rfl⟩ before ends otherPower) fun z => ?_
      exact factors_gives rest (by omega) (by omega) behind following noPower noProduct

theorem power_gives (tree : Power) {budget chain : Nat} {first last : Reading} {token : Token}
    (room : tree.yield.length ≤ budget) (long : tree.yield.length < chain)
    (reading : p.IsReading first) (passes : p.Passes first tree.yield last)
    (following : last.found = .ok token) (noPower : power? token = none) :
    Gives (powerRule p store budget chain first) (tree.value store) last := by
  obtain ⟨chain, rfl⟩ : ∃ shorter, chain = shorter + 1 := ⟨chain - 1, by omega⟩
  match tree with
  | .single base =>
    rw [Power.yield] at room passes
    rw [Power.value]
    exact rightChain_single chain (signed_gives base room reading passes following) following
      noPower
  | .raise base exponent =>
    rw [Power.yield] at room long passes
    simp only [List.length_append, List.length_cons] at room long
    obtain ⟨middle, before, behind⟩ := passes.split
    cases behind with
    | pass found going rest =>
      obtain ⟨other, next⟩ := rest.exists_found following
      rw [Power.value]
      refine rightChain_more (signed_gives base (by omega) reading before found) found rfl next ?_
      exact power_gives exponent (by omega) (by omega) ⟨_, rfl⟩ rest following noPower

theorem signed_gives (tree : Signed) {budget : Nat} {first last : Reading} {token : Token}
    (room : tree.yield.length ≤ budget) (reading : p.IsReading first)
    (passes : p.Passes first tree.yield last) (following : last.found = .ok token) :
    Gives (operandRule p store budget first) (tree.value store) last := by
  match tree with
  | .bare operand =>
    rw [Signed.yield] at room passes
    rw [Signed.value, operandRule]
    obtain ⟨head, found, unsigned⟩ := primary_unsigned reading passes
    rw [signed_bare found unsigned]
    exact primary_gives operand room passes following
  | .signed sign operand =>
    rw [Signed.yield] at room passes
    simp only [List.length_cons] at room
    cases passes with
    | pass found going rest =>
      obtain ⟨other, next⟩ := rest.exists_found following
      obtain ⟨negative, known, same⟩ := sign?_token sign
      rw [Signed.value, operandRule, signed, bind_of_ok (current_ok found), known]
      change Gives ((advance p >>= fun _ => _) first) _ last
      rw [bind_of_ok (advance_ok next)]
      refine gives_bind (primary_gives operand (by omega) rest following) fun x _ => ?_
      rw [← same x]
      rfl

theorem primary_gives (tree : Primary) {budget : Nat} {first last : Reading} {token : Token}
    (room : tree.yield.length ≤ budget)
    (passes : p.Passes first tree.yield last) (following : last.found = .ok token) :
    Gives (primary p store (expression p store budget) first) (tree.value store) last := by
  match tree with
  | .group inner =>
    rw [Primary.yield] at room passes
    simp only [List.length_cons, List.length_append, List.length_nil] at room
    -- two tokens are parentheses, so what is inside fits the smaller budget
    obtain ⟨budget, rfl⟩ : ∃ smaller, budget = smaller + 1 := ⟨budget - 1, by omega⟩
    cases passes with
    | pass found going further =>
      obtain ⟨other, next⟩ := further.exists_found following
      obtain ⟨middle, before, behind⟩ := further.split
      cases behind with
      | pass closes _ rest =>
        cases rest with
        | done =>
          rw [Primary.value]
          refine primary_group found next ?_ closes following
          rw [expression_succ]
          exact comparison_gives inner (by omega) (by omega) ⟨_, rfl⟩ before closes rfl rfl rfl rfl
  | .number text =>
    rw [Primary.yield] at passes
    cases passes with
    | pass found going rest =>
      cases rest with
      | done => exact primary_atom found (by simp) following
  | .name text =>
    rw [Primary.yield] at passes
    cases passes with
    | pass found going rest =>
      cases rest with
      | done => exact primary_atom found (by simp) following

end

end LineBasic.Expression
