import LineBasic.Failure

/-!
# Variables

A program has twenty-six variables, one for each letter. A name means the
variable of its first letter, in either case; a name that starts with any other
character means none.
-/

namespace LineBasic

/-- The variable of a letter, counted from `A`. -/
abbrev Letter := Fin 26

namespace Letter

def ofChar? (c : Char) : Option Letter :=
  let place := c.toUpper.toNat - 'A'.toNat
  if h : c.isAlpha ∧ place < 26 then some ⟨place, h.2⟩ else none

/-- The variable at a place, counted round the alphabet. -/
def ofNat (place : Nat) : Letter := ⟨place % 26, Nat.mod_lt _ (by decide)⟩

/-- The variable that a name means. -/
def ofName? (name : String) : Option Letter := name.toList.head?.bind ofChar?

/-- The variable that a name means, or the failure to mean one. -/
def ofName (name : String) : Except Failure Letter :=
  match ofName? name with
  | some letter => .ok letter
  | none => .error (.notAVariable name)

def toChar (letter : Letter) : Char := Char.ofNat ('A'.toNat + letter.val)

end Letter

structure Store where
  values : Vector Float 26

namespace Store

/-- Every variable is zero before a program assigns to it. -/
def initial : Store := ⟨Vector.replicate 26 0.0⟩

def get (store : Store) (letter : Letter) : Float := store.values[letter]

def set (store : Store) (letter : Letter) (value : Float) : Store :=
  ⟨store.values.set letter value⟩

theorem get_set (store : Store) (letter other : Letter) (value : Float) :
    (store.set letter value).get other = if other = letter then value else store.get other := by
  by_cases same : other = letter
  · simp [get, set, same]
  · have apart : letter.val ≠ other.val := fun equal => same (Fin.ext equal.symm)
    simp [get, set, same, apart]

/-- The variables with their letters, in the order of the alphabet. -/
def toList (store : Store) : List (Letter × Float) :=
  (List.finRange 26).map fun letter => (letter, store.get letter)

end Store

end LineBasic
