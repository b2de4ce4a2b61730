import LineBasic.Proofs.Outcomes
import LineBasic.Run

/-!
# Machines that note what is fetched

A statement fetches tokens from the program, one behind the other as the cursor moves. A
`Fetching` is a machine beside the offsets at which this has happened. Statements run on it
as they are written, since it has all operations that they are made of.

All tokens are fetched by `next` and within expressions. An expression holds one token at
a time and fetches the one behind it, up to the token it holds at its end.

What a computation does to the machine does not depend on what has been noted, `Erases`.
-/

namespace LineBasic

/-- The offsets of the tokens from an offset on, up to the token that starts at `last`. -/
def Program.offsetsUpTo (p : Program) (last : Nat) : (tokens : Nat) → (offset : Nat) → List Nat
  | 0, _ => []
  | tokens + 1, offset =>
    if (p.read offset).start < last then
      offset :: offsetsUpTo p last tokens (p.read offset).stop
    else [offset]

/-- A machine beside the offsets at which tokens have been fetched. -/
structure Fetching (σ : Type) where
  machine : Machine σ
  fetched : List Nat

namespace Fetching

open Exec

variable {σ α β : Type}

/-- A computation that fetches the tokens at some offsets. -/
def noting (offsets : Machine σ → List Nat) (exec : Exec σ α) : ExecOn (Fetching σ) α :=
  fun ⟨machine, fetched⟩ =>
    match exec machine with
    | .ok value after => .ok value ⟨after, fetched ++ offsets machine⟩
    | .error failure after => .error failure ⟨after, fetched ++ offsets machine⟩

/-- A computation that fetches no token. -/
def quiet (exec : Exec σ α) : ExecOn (Fetching σ) α := noting (fun _ => []) exec

instance : Executes (Fetching σ) where
  getState := quiet getState
  modifyState change := quiet (modifyState change)
  next p := noting (fun machine => [machine.state.cursor.offset]) (next p)
  giveBack := quiet giveBack
  skipLine p := quiet (skipLine p)
  evaluate p :=
    noting (fun ⟨state, _⟩ =>
      match Expression.start p state.store (p.read state.cursor.offset) with
      | .ok _ last | .error _ last =>
        p.offsetsUpTo last.start (p.length + 1) state.cursor.offset) (evaluate p)

instance [Console σ] : Converses (Fetching σ) where
  write text := quiet (write text)
  flush := quiet flush
  readLine := quiet readLine

/-- The offsets at which a computation fetches tokens from a machine on. -/
def fetchedBy (exec : ExecOn (Fetching σ) α) (machine : Machine σ) : List Nat :=
  (finalState (exec ⟨machine, []⟩)).fetched

/-! ### Without the note -/

/-- An outcome without what has been noted. -/
def erased : EStateM.Result Failure (Fetching σ) α → EStateM.Result Failure (Machine σ) α
  | .ok value after => .ok value after.machine
  | .error failure after => .error failure after.machine

/-- The first computation does to the machine what the second one does. -/
def Erases (noted : ExecOn (Fetching σ) α) (exec : Exec σ α) : Prop :=
  ∀ before, erased (noted before) = exec before.machine

theorem erases_noting (offsets : Machine σ → List Nat) (exec : Exec σ α) :
    Erases (noting offsets exec) exec := by
  rintro ⟨machine, fetched⟩
  rw [noting]
  cases exec machine <;> rfl

theorem Erases.bind {noted : ExecOn (Fetching σ) α} {exec : Exec σ α}
    {next : α → ExecOn (Fetching σ) β} {next' : α → Exec σ β} (erases : Erases noted exec)
    (goes : ∀ value, Erases (next value) (next' value)) :
    Erases (noted >>= next) (exec >>= next') := by
  intro before
  have first := erases before
  cases ran : noted before with
  | ok value between =>
    rw [ran] at first
    rw [bind_of_ok ran, bind_of_ok first.symm]
    exact goes value between
  | error failure between =>
    rw [ran] at first
    rw [bind_of_error ran, bind_of_error first.symm]
    rfl

/-! ### What a sequence fetches -/

theorem mem_fetched_noting {offsets : Machine σ → List Nat} {exec : Exec σ α}
    {before : Fetching σ} {offset : Nat} :
    offset ∈ (finalState (noting offsets exec before)).fetched ↔
      offset ∈ before.fetched ∨ offset ∈ offsets before.machine := by
  obtain ⟨machine, fetched⟩ := before
  rw [noting]
  cases exec machine <;> exact List.mem_append

end Fetching

end LineBasic
