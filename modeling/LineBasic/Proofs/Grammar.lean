import LineBasic.Number.Arithmetic
import LineBasic.Number.Literal
import LineBasic.Store
import LineBasic.Token

/-!
# The grammar of expressions

    comparison  ::=  sum  |  sum relation comparison
    sum         ::=  product { (+ | -) product }
    product     ::=  power { (* | / | %) power }
    power       ::=  signed  |  signed ^ power
    signed      ::=  [ + | - | "-" ] primary
    primary     ::=  ( comparison )  |  number  |  variable

A syntax tree has a type for each line of the grammar. Its `yield` is the tokens
it is written with, and its `value` is computed from the values of its parts, the
first part first. The braces stand for a list of further operands; they are
worked off from the left.
-/

namespace LineBasic.Grammar

/-! ### Operators -/

inductive Relation where
  | less | lessEqual | greater | greaterEqual | equal | unequal
deriving DecidableEq, Repr

inductive Additive where
  | plus | minus
deriving DecidableEq, Repr

inductive Multiplicative where
  | times | divide | modulo
deriving DecidableEq, Repr

/-- A sign in front of an operand. A string that holds a minus sign is one too. -/
inductive Sign where
  | plus | minus | quotedMinus
deriving DecidableEq, Repr

namespace Relation

def token : Relation → Token
  | less => .delimiter .less
  | lessEqual => .delimiter .lessEqual
  | greater => .delimiter .greater
  | greaterEqual => .delimiter .greaterEqual
  | equal => .delimiter .equal
  | unequal => .delimiter .notEqual

def holds : Relation → Float → Float → Bool
  | less, x, y => x < y
  | lessEqual, x, y => x ≤ y
  | greater, x, y => x > y
  | greaterEqual, x, y => x ≥ y
  | equal, x, y => x == y
  | unequal, x, y => x != y

/-- A relation has the value one where it holds, and zero elsewhere. -/
def apply (relation : Relation) (x y : Float) : Float := if relation.holds x y then 1.0 else 0.0

end Relation

namespace Additive

def token : Additive → Token
  | plus => .delimiter .plus
  | minus => .delimiter .minus

def apply : Additive → Float → Float → Except Failure Float
  | plus, x, y => .ok (x + y)
  | minus, x, y => .ok (x - y)

end Additive

namespace Multiplicative

def token : Multiplicative → Token
  | times => .delimiter .star
  | divide => .delimiter .slash
  | modulo => .delimiter .percent

def apply : Multiplicative → Float → Float → Except Failure Float
  | times, x, y => .ok (x * y)
  | divide, x, y => if y == 0.0 then .error .divisionByZero else .ok (x / y)
  | modulo, x, y => if y == 0.0 then .error .divisionByZero else .ok (Number.remainder x y)

end Multiplicative

namespace Sign

def token : Sign → Token
  | plus => .delimiter .plus
  | minus => .delimiter .minus
  | quotedMinus => .quoted "-"

def apply : Sign → Float → Float
  | plus, x => x
  | minus, x => -x
  | quotedMinus, x => -x

end Sign

/-- The operators that join two operands, whatever their strength. -/
def isOperator : Token → Bool
  | .delimiter .less | .delimiter .lessEqual | .delimiter .greater
  | .delimiter .greaterEqual | .delimiter .equal | .delimiter .notEqual
  | .delimiter .plus | .delimiter .minus
  | .delimiter .star | .delimiter .slash | .delimiter .percent
  | .delimiter .caret => true
  | _ => false

/-! ### Syntax trees -/

mutual

inductive Comparison where
  | single (left : Sum)
  | compare (left : Sum) (relation : Relation) (right : Comparison)

inductive Sum where
  | of (first : Product) (rest : Terms)

/-- The operands of a sum behind the first one. -/
inductive Terms where
  | none
  | more (sign : Additive) (term : Product) (rest : Terms)

inductive Product where
  | of (first : Power) (rest : Factors)

/-- The operands of a product behind the first one. -/
inductive Factors where
  | none
  | more (sign : Multiplicative) (factor : Power) (rest : Factors)

inductive Power where
  | single (base : Signed)
  | raise (base : Signed) (exponent : Power)

inductive Signed where
  | bare (operand : Primary)
  | signed (sign : Sign) (operand : Primary)

inductive Primary where
  | group (inner : Comparison)
  | number (text : String)
  | name (text : String)

end

/-! ### The tokens of a tree -/

mutual

def Comparison.yield : Comparison → List Token
  | .single left => left.yield
  | .compare left relation right => left.yield ++ relation.token :: right.yield

def Sum.yield : Sum → List Token
  | .of first rest => first.yield ++ rest.yield

def Terms.yield : Terms → List Token
  | .none => []
  | .more sign term rest => sign.token :: (term.yield ++ rest.yield)

def Product.yield : Product → List Token
  | .of first rest => first.yield ++ rest.yield

def Factors.yield : Factors → List Token
  | .none => []
  | .more sign factor rest => sign.token :: (factor.yield ++ rest.yield)

def Power.yield : Power → List Token
  | .single base => base.yield
  | .raise base exponent => base.yield ++ .delimiter .caret :: exponent.yield

def Signed.yield : Signed → List Token
  | .bare operand => operand.yield
  | .signed sign operand => sign.token :: operand.yield

def Primary.yield : Primary → List Token
  | .group inner => .delimiter .leftParen :: (inner.yield ++ [.delimiter .rightParen])
  | .number text => [.number text]
  | .name text => [.name text]

end

/-! A tree is written with at least one token: its first primary expression is. -/

theorem Primary.yield_ne_nil (tree : Primary) : tree.yield ≠ [] := by
  cases tree <;> simp [Primary.yield]

theorem Signed.yield_ne_nil (tree : Signed) : tree.yield ≠ [] := by
  cases tree <;> simp [Signed.yield, Primary.yield_ne_nil]

theorem Power.yield_ne_nil (tree : Power) : tree.yield ≠ [] := by
  cases tree <;> simp [Power.yield, Signed.yield_ne_nil]

theorem Product.yield_ne_nil (tree : Product) : tree.yield ≠ [] := by
  cases tree; simp [Product.yield, Power.yield_ne_nil]

theorem Sum.yield_ne_nil (tree : Sum) : tree.yield ≠ [] := by
  cases tree; simp [Sum.yield, Product.yield_ne_nil]

theorem Comparison.yield_ne_nil (tree : Comparison) : tree.yield ≠ [] := by
  cases tree <;> simp [Comparison.yield, Sum.yield_ne_nil]

/-! ### The value of a tree -/

/-- The value of a number or a variable, which a text need not have. -/
def valueOf (value : Option Float) : Except Failure Float :=
  match value with
  | some value => .ok value
  | none => .error .malformed

mutual

def Comparison.value (store : Store) : Comparison → Except Failure Float
  | .single left => left.value store
  | .compare left relation right => do
    let x ← left.value store
    let y ← right.value store
    pure (relation.apply x y)

def Sum.value (store : Store) : Sum → Except Failure Float
  | .of first rest => do rest.value store (← first.value store)

/-- The value of a sum whose operands so far have the value `x`. -/
def Terms.value (store : Store) : Terms → (x : Float) → Except Failure Float
  | .none, x => pure x
  | .more sign term rest, x => do
    let y ← term.value store
    rest.value store (← sign.apply x y)

def Product.value (store : Store) : Product → Except Failure Float
  | .of first rest => do rest.value store (← first.value store)

/-- The value of a product whose operands so far have the value `x`. -/
def Factors.value (store : Store) : Factors → (x : Float) → Except Failure Float
  | .none, x => pure x
  | .more sign factor rest, x => do
    let y ← factor.value store
    rest.value store (← sign.apply x y)

def Power.value (store : Store) : Power → Except Failure Float
  | .single base => base.value store
  | .raise base exponent => do
    let x ← base.value store
    let y ← exponent.value store
    pure (Number.power x y)

def Signed.value (store : Store) : Signed → Except Failure Float
  | .bare operand => operand.value store
  | .signed sign operand => do
    let x ← operand.value store
    pure (sign.apply x)

def Primary.value (store : Store) : Primary → Except Failure Float
  | .group inner => inner.value store
  | .number text => valueOf (Number.parse? text.toList)
  | .name text => valueOf ((Letter.ofName? text).map store.values.get)

end

end LineBasic.Grammar
