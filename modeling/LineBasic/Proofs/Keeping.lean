import LineBasic.Proofs.Outcomes
import LineBasic.Proofs.ReadingOn

/-!
# What computations keep

Most of what a statement is made of moves the cursor and does nothing else, whether it succeeds
or fails. So each relation between machines that holds across moves of the cursor, `Exec.Kept`,
holds between the machines before and after such a part, `Exec.Keeps`.
-/

namespace LineBasic.Exec

open Statement

variable {σ α β : Type}

/-- A relation between machines that moves of the cursor keep, one after the other. -/
structure Kept (related : Machine σ → Machine σ → Prop) : Prop where
  moved : ∀ machine cursor, related machine (machine.withCursor cursor)
  trans : ∀ {before between after}, related before between → related between after →
    related before after

/-- However the computation ends, the machines before and after it are related. -/
def Keeps (related : Machine σ → Machine σ → Prop) (exec : Exec σ α) : Prop :=
  ∀ machine, Leaves (fun _ => related machine) (fun _ => related machine) (exec machine)

namespace Kept

variable {related : Machine σ → Machine σ → Prop} (kept : Kept related) {p : Program}

include kept

theorem refl (machine : Machine σ) : related machine machine :=
  kept.moved machine machine.state.cursor

theorem bind {exec : Exec σ α} {next : α → Exec σ β} (keeps : Keeps related exec)
    (goes : ∀ value, Keeps related (next value)) : Keeps related (exec >>= next) := by
  intro machine
  apply (keeps machine).bind
  intro value between before
  exact (goes value between).imp (fun _ _ => kept.trans before) fun _ _ => kept.trans before

theorem pure (value : α) : Keeps related (Pure.pure value) :=
  fun machine => .ok (kept.refl machine)

theorem throw (failure : Failure) : Keeps related (MonadExcept.throw failure : Exec σ α) :=
  fun machine => .error (kept.refl machine)

theorem getState : Keeps related getState :=
  fun machine => .ok (kept.refl machine)

theorem ofExcept (result : Except Failure α) :
    Keeps related (MonadExcept.ofExcept result : Exec σ α) := by
  cases result with
  | ok value => exact kept.pure value
  | error failure => exact kept.throw failure

theorem require {condition : Prop} [Decidable condition] {next : Unit → Exec σ α}
    (failure : Failure) (goes : Keeps related (next ())) :
    Keeps related (if condition then next () else MonadExcept.throw failure >>= next) := by
  by_cases met : condition
  · rw [if_pos met]
    exact goes
  · rw [if_neg met]
    exact fun machine => .error (kept.refl machine)

theorem onCursor (scan : Scan α) : Keeps related (onCursor scan) := by
  intro machine
  rw [Exec.onCursor]
  cases scan machine.state.cursor with
  | ok value cursor => exact .ok (kept.moved machine cursor)
  | error failure cursor => exact .error (kept.moved machine cursor)

theorem next : Keeps related (next p) := kept.onCursor _

theorem giveBack : Keeps related giveBack := kept.onCursor _

theorem evaluate : Keeps related (evaluate p) :=
  fun machine => kept.onCursor (Expression.evaluate p machine.state.store) machine

/-! ### Statements and their parts -/

theorem expectVariable : Keeps related (expectVariable p) := by
  apply kept.bind kept.next
  intro token
  cases token with
  | name text => exact kept.ofExcept _
  | _ => exact kept.throw _

theorem optionalVariable : Keeps related (optionalVariable p) := by
  apply kept.bind kept.next
  intro token
  cases token with
  | name text =>
    dsimp only
    rw [map_eq_pure_bind]
    exact kept.bind (kept.ofExcept _) fun letter => kept.pure (some letter)
  | _ => exact kept.bind kept.giveBack fun _ => kept.pure none

theorem expectEqualSign : Keeps related (expectEqualSign p) :=
  kept.bind kept.next fun _ => kept.require _ (kept.pure ())

theorem expectLabel : Keeps related (expectLabel p) := by
  apply kept.bind kept.next
  intro token
  cases token with
  | number label | name label =>
    apply kept.bind kept.getState
    intro state
    cases state.labels.find? label with
    | some offset => exact kept.pure offset
    | none => exact kept.throw _
  | _ => exact kept.throw _

theorem goto : Keeps related (goto p) :=
  kept.bind kept.expectLabel fun _ => kept.pure _

theorem branch : Keeps related (branch p) := by
  apply kept.bind kept.evaluate
  intro value
  split
  · exact kept.bind kept.next fun _ => kept.require _ (kept.pure ())
  · exact kept.onCursor _

theorem skipToNext (tokens : Nat) : Keeps related (skipToNext p tokens) := by
  induction tokens with
  | zero => exact kept.pure ()
  | succ tokens ih =>
    rw [Statement.skipToNext]
    apply kept.bind kept.next
    intro token
    split
    · exact kept.bind kept.optionalVariable fun _ => kept.pure ()
    · exact kept.pure ()
    · exact ih

theorem printItem (token : Token) : Keeps related (printItem p token) := by
  cases token with
  | quoted text => exact kept.pure text
  | _ => exact kept.bind kept.giveBack fun _ => kept.bind kept.evaluate fun _ => kept.pure _

section Console

variable [Console σ] (writes : ∀ text, Keeps related (write text)) {config : Config}

include writes

theorem printFrom (items column : Nat) (separated : Bool) :
    Keeps related (printFrom p config items column separated) := by
  induction items generalizing column separated with
  | zero => exact kept.pure ()
  | succ items ih =>
    rw [Statement.printFrom]
    apply kept.bind kept.next
    intro token
    split
    · cases separated with
      | true => exact kept.pure ()
      | false => exact writes _
    · apply kept.bind (kept.printItem token)
      intro text
      apply kept.bind (writes text)
      intro _
      apply kept.bind kept.next
      intro separator
      split
      · exact kept.bind (writes _) fun _ => ih _ _
      · exact kept.bind (writes _) fun _ => ih _ _
      · split
        · exact writes _
        · exact kept.throw _

theorem prompt : Keeps related (prompt p config) := by
  apply kept.bind kept.next
  intro token
  cases token with
  | quoted text =>
    exact kept.bind (writes text) fun _ => kept.bind kept.next fun _ =>
      kept.require _ (kept.pure ())
  | _ => exact kept.bind kept.giveBack fun _ => writes _

end Console

end Kept

end LineBasic.Exec
