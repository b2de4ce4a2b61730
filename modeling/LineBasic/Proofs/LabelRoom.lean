import LineBasic.Proofs.Survey
import Mathlib.Data.Finset.Card
import Mathlib.Data.Finset.Dedup

/-!
# Room for the labels

A capacity limits how many labels are collected. One that admits all labels of the program
never takes effect: the labels collected so far and those still to come are together no more
than it admits, so the table is not full before the last of them.
-/

namespace LineBasic

namespace Program

/-- The labels of the lines from an offset on, up to a line on which the program ends or whose
first token cannot be read. -/
def labelsFrom (p : Program) : (lines : Nat) → (offset : Nat) → List String
  | 0, _ => []
  | lines + 1, offset =>
    match (p.read offset).found with
    | .error _ | .ok .endOfProgram => []
    | .ok (.number label) => label :: p.labelsFrom lines (p.nextLine offset)
    | .ok _ => p.labelsFrom lines (p.nextLine offset)

/-- How many labels a program has. One that stands on two lines counts once. -/
def labelCount (p : Program) : Nat := (p.labelsFrom (p.length + 1) 0).toFinset.card

end Program

/-- The labels of a program do not exceed the capacity, if there is one. -/
def Config.Admits (config : Config) (p : Program) : Prop :=
  ∀ capacity ∈ config.labelCapacity, p.labelCount ≤ capacity

namespace Labels

variable {p : Program} {capacity : Nat} {label : String} {labels : Labels}

def keys (labels : Labels) : List String := labels.entries.map Prod.fst

theorem not_mem_keys (absent : labels.find? label = none) : label ∉ labels.keys := by
  intro member
  obtain ⟨entry, listed, rfl⟩ := List.mem_map.mp member
  have other := List.lookup_eq_none_iff.mp absent entry listed
  simp at other

/-- A table that has room for all labels to come is not full. -/
theorem length_lt_of_room {others : List String} (distinct : labels.keys.Nodup)
    (absent : labels.find? label = none)
    (room : (labels.keys ++ label :: others).toFinset.card ≤ capacity) :
    labels.length < capacity := by
  -- the new label and those collected are all different, and all among the labels counted
  have longer : (label :: labels.keys).Nodup := List.nodup_cons.mpr ⟨not_mem_keys absent, distinct⟩
  have among : (label :: labels.keys).toFinset ⊆ (labels.keys ++ label :: others).toFinset := by
    intro key
    simp only [List.mem_toFinset, List.mem_cons, List.mem_append]
    tauto
  calc labels.length < (label :: labels.keys).length := by simp [keys, length]
    _ = (label :: labels.keys).toFinset.card := (List.toFinset_card_of_nodup longer).symm
    _ ≤ (labels.keys ++ label :: others).toFinset.card := Finset.card_le_card among
    _ ≤ capacity := room

theorem add_of_room {others : List String} (distinct : labels.keys.Nodup) (offset : Nat)
    (room : (labels.keys ++ label :: others).toFinset.card ≤ capacity) :
    labels.add (some capacity) label offset = labels.add none label offset := by
  rw [add, add]
  split
  next => rfl
  next missing =>
    have space := length_lt_of_room distinct (by simpa using missing) room
    simp only [if_neg (Nat.not_le.mpr space)]

/-- Where there is room for the labels that are still to come, the capacity does not matter. -/
theorem collectFrom_of_room {lines : Nat} {cursor : Cursor} (distinct : labels.keys.Nodup)
    (room : (labels.keys ++ p.labelsFrom lines cursor.offset).toFinset.card ≤ capacity) :
    collectFrom p (some capacity) lines labels cursor = collectFrom p none lines labels cursor := by
  induction lines generalizing labels cursor with
  | zero => rfl
  | succ lines ih =>
    rw [collectFrom, collectFrom]
    change (Cursor.next p >>= fun _ => _) cursor = (Cursor.next p >>= fun _ => _) cursor
    rw [Program.labelsFrom] at room
    cases found : (p.read cursor.offset).found with
    | error failure =>
      have failed : Cursor.next p cursor = .error failure (.behind (p.read cursor.offset)) := by
        rw [Cursor.next, found]
      rw [bind_of_error failed, bind_of_error failed]
    | ok token =>
      have read : Cursor.next p cursor = .ok token (.behind (p.read cursor.offset)) := by
        rw [Cursor.next, found]
      rw [bind_of_ok read, bind_of_ok read]
      rw [found] at room
      -- the next line begins where the reading stops, or where the rest of the line is skipped
      have skips : ∀ {labels : Labels} {after : Cursor}, labels.keys.Nodup →
          after.offset = p.nextLine cursor.offset →
          (labels.keys ++ p.labelsFrom lines (p.nextLine cursor.offset)).toFinset.card ≤ capacity →
          collectFrom p (some capacity) lines labels after =
            collectFrom p none lines labels after := by
        intro labels after distinct onNext room
        exact ih distinct (by rw [onNext]; exact room)
      cases token with
      | endOfProgram => rfl
      | endOfLine => exact skips distinct (Program.nextLine_of_endOfLine found).symm room
      | number label =>
        have onNext := Program.nextLine_of_token found (by simp) (by simp)
        dsimp only
        rw [add_of_room distinct cursor.offset room]
        cases added : labels.add none label cursor.offset with
        | error failure => rfl
        | ok more =>
          obtain ⟨absent, rfl⟩ := add_eq_ok added
          have grown :
              keys ⟨labels.entries ++ [(label, cursor.offset)]⟩ = labels.keys ++ [label] := by
            simp [keys]
          refine skips ?_ onNext.symm ?_
          · rw [grown]
            exact List.nodup_append_comm.mp (List.nodup_cons.mpr ⟨not_mem_keys absent, distinct⟩)
          · rw [grown, List.append_assoc]
            exact room
      | delimiter | name | keyword | quoted =>
        have onNext := Program.nextLine_of_token found (by simp) (by simp)
        exact skips distinct onNext.symm room

theorem collect_of_admits {config : Config} (admits : config.Admits p) (cursor : Cursor) :
    collect p config.labelCapacity cursor = collect p none cursor := by
  cases limit : config.labelCapacity with
  | none => rfl
  | some capacity =>
    have room := admits capacity limit
    have start : (Cursor.jump p 0).offset = 0 := Nat.zero_min _
    have collected : collectFrom p (some capacity) (p.length + 1) {} (Cursor.jump p 0) =
        collectFrom p none (p.length + 1) {} (Cursor.jump p 0) :=
      collectFrom_of_room List.nodup_nil (by rw [start]; exact room)
    change (collectFrom p (some capacity) (p.length + 1) {} >>= fun _ => _) (Cursor.jump p 0) =
      (collectFrom p none (p.length + 1) {} >>= fun _ => _) (Cursor.jump p 0)
    simp only [bind, EStateM.bind, collected]

/-- With room for all labels, any two settings collect the same. -/
theorem collect_eq {config config' : Config} (admits : config.Admits p)
    (admits' : config'.Admits p) (cursor : Cursor) :
    collect p config.labelCapacity cursor = collect p config'.labelCapacity cursor := by
  rw [collect_of_admits admits, collect_of_admits admits']

end Labels

end LineBasic
