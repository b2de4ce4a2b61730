import LineBasic.Cursor
import LineBasic.Number.Arithmetic
import LineBasic.Number.Literal
import LineBasic.Store

/-!
# Expressions

An expression is evaluated while it is read, one rule for each strength of
binding, the weakest first:

| Rule         | Operators                  | Groups       |
|--------------|----------------------------|--------------|
| `comparison` | `<` `<=` `>` `>=` `=` `<>` | to the right |
| `sum`        | `+` `-`                    | to the left  |
| `product`    | `*` `/` `%`                | to the left  |
| `power`      | `^`                        | to the right |
| `signed`     | a leading `+` or `-`       |              |
| `primary`    | `( … )`, number, variable  |              |

The rules run over the readings of a program. The state of a rule is the token
in hand: a rule starts with its first token in hand and stops with the token
behind its part of the expression in hand. No rule steps over the end of a line.

Each turn of a rule passes at least one token before it comes back to itself, and
a token takes at least one character. A budget that exceeds the characters ahead
therefore bounds the operands of a chain as well as the depth of parentheses.
-/

namespace LineBasic.Expression

/-- A computation that passes tokens, with the token in hand as its state. A
failure keeps the token that caused it in hand. -/
abbrev Rule := EStateM Failure Reading

/-! ### Passing tokens -/

/-- The token in hand. -/
def current : Rule Token := fun reading =>
  match reading.found with
  | .ok token => .ok token reading
  | .error failure => .error failure reading

/-- Passes the token in hand, and takes the next one. -/
def advance (p : Program) : Rule Unit := do
  modify fun reading => p.read reading.stop
  discard current

/-! ### Chains of operators -/

/-- What an operator makes of its two operands. -/
abbrev Operation := Float → Float → Except Failure Float

/-- Goes on behind an operand of a chain that groups to the left. -/
def leftChainFrom (p : Program) (operation : Token → Option Operation) (operand : Rule Float) :
    (budget : Nat) → Float → Rule Float
  | 0, value => pure value
  | budget + 1, value => do
    match operation (← current) with
    | none => pure value
    | some apply =>
      advance p
      match apply value (← operand) with
      | .ok value => leftChainFrom p operation operand budget value
      | .error failure => throw failure

/-- Operands with operators between them, grouped to the left. -/
def leftChain (p : Program) (operation : Token → Option Operation) (budget : Nat)
    (operand : Rule Float) : Rule Float := do
  leftChainFrom p operation operand budget (← operand)

/-- Operands with operators between them, grouped to the right. -/
def rightChain (p : Program) (operation : Token → Option (Float → Float → Float)) :
    (budget : Nat) → (operand : Rule Float) → Rule Float
  | 0, _ => throw .malformed
  | budget + 1, operand => do
    let left ← operand
    match operation (← current) with
    | none => pure left
    | some apply =>
      advance p
      let right ← rightChain p operation budget operand
      pure (apply left right)

/-! ### Operators -/

/-- The number that stands for a truth value. -/
def truth (holds : Bool) : Float := if holds then 1.0 else 0.0

def comparison? : Token → Option (Float → Float → Float)
  | .delimiter .less => some fun x y => truth (x < y)
  | .delimiter .lessEqual => some fun x y => truth (x ≤ y)
  | .delimiter .greater => some fun x y => truth (x > y)
  | .delimiter .greaterEqual => some fun x y => truth (x ≥ y)
  | .delimiter .equal => some fun x y => truth (x == y)
  | .delimiter .notEqual => some fun x y => truth (x != y)
  | _ => none

def additive? : Token → Option Operation
  | .delimiter .plus => some fun x y => .ok (x + y)
  | .delimiter .minus => some fun x y => .ok (x - y)
  | _ => none

def multiplicative? : Token → Option Operation
  | .delimiter .star => some fun x y => .ok (x * y)
  | .delimiter .slash => some fun x y =>
    if y == 0.0 then .error .divisionByZero else .ok (x / y)
  | .delimiter .percent => some fun x y =>
    if y == 0.0 then .error .divisionByZero else .ok (Number.remainder x y)
  | _ => none

def power? : Token → Option (Float → Float → Float)
  | .delimiter .caret => some Number.power
  | _ => none

/-- A sign in front of an operand: whether it is a minus sign. Every token that
reads `-` is one, also a string. -/
def sign? (token : Token) : Option Bool :=
  if token.lexeme = "-" then some true
  else if token = .delimiter .plus then some false
  else none

/-! ### Rules -/

/-- The value of a number or a variable. -/
def atom? (store : Store) : Token → Option Float
  | .number text => Number.parse? text.toList
  | .name text => (Letter.ofName? text).map store.get
  | _ => none

def primary (p : Program) (store : Store) (inner : Rule Float) : Rule Float := do
  let token ← current
  if token = .delimiter .leftParen then
    advance p
    let value ← inner
    if (← current) = .delimiter .rightParen then
      advance p
      pure value
    else throw .unbalancedParentheses
  else
    match atom? store token with
    | some value =>
      advance p
      pure value
    | none => throw .malformed

def signed (p : Program) (operand : Rule Float) : Rule Float := do
  match sign? (← current) with
  | none => operand
  | some negative =>
    advance p
    let value ← operand
    pure (if negative then -value else value)

/-- A whole expression, for a budget that exceeds the number of characters from
the token in hand on. A parenthesis takes one of them, so that what is left of
the budget serves the expression inside. -/
def expression (p : Program) (store : Store) : (budget : Nat) → Rule Float
  | 0 => throw .malformed
  | budget + 1 =>
    let operand := signed p (primary p store (expression p store budget))
    let power := rightChain p power? (budget + 1) operand
    let product := leftChain p multiplicative? (budget + 1) power
    let sum := leftChain p additive? (budget + 1) product
    rightChain p comparison? (budget + 1) sum

/-- The expression that starts with the token in hand. -/
def start (p : Program) (store : Store) : Rule Float := do
  if (← current) = .endOfProgram then throw .noExpression
  else expression p store (p.length + 1)

/-- Evaluates the expression at a cursor. The cursor then stands in front of the
token behind the expression, or behind the token at which evaluation failed. -/
def evaluate (p : Program) (store : Store) : Scan Float := fun cursor =>
  match start p store (p.read cursor.offset) with
  | .ok value reading => .ok value (Cursor.before reading)
  | .error failure reading => .error failure (Cursor.behind reading)

end LineBasic.Expression
