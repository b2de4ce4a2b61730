import LineBasic.Text.Blank

/-!
# Consoles

A console is where PRINT writes and INPUT reads. Any type of states with three
operations can serve as one; an operation changes the state and may fail with a
reason.

* `Buffer` keeps what is written and answers from a list of lines.
* `Faulty` lets single calls to another console fail.
* `Recorded` notes every call to another console.
-/

namespace LineBasic

class Console (σ : Type) where
  write : String → EStateM String σ Unit
  flush : EStateM String σ Unit
  /-- The next line without its end, or nothing at the end of the input. -/
  readLine : EStateM String σ (Option String)

/-- Removes every line feed and carriage return from the end of a line. -/
def withoutLineEnd (line : String) : String :=
  String.ofList (Text.trimEnd (fun c => c == '\n' || c == '\r') line.toList)

/-! ### In memory -/

structure Buffer where
  output : String := ""
  input : List String := []
deriving DecidableEq, Repr

instance : Console Buffer where
  write text := modify fun buffer => { buffer with output := buffer.output ++ text }
  flush := pure ()
  readLine buffer :=
    match buffer.input with
    | [] => .ok none buffer
    | line :: rest => .ok (some (withoutLineEnd line)) { buffer with input := rest }

/-! ### With failing calls -/

/-- A console on which at most one call of each kind fails, and then has no other
effect. -/
structure Faulty (σ : Type) where
  console : σ
  /-- Which of the calls still to come fails, counted from one. -/
  failingWrite : Option Nat := none
  failingFlush : Option Nat := none
  failingRead : Option Nat := none

namespace Faulty

/-- Counts one call: whether it fails, and the count for those that follow. -/
def countdown : Option Nat → Bool × Option Nat
  | some 1 => (true, none)
  | some (n + 1) => (false, some n)
  | _ => (false, none)

/-- Makes a call to the console inside. -/
def pass {σ α : Type} (call : EStateM String σ α) : EStateM String (Faulty σ) α :=
  fun faulty =>
    match call faulty.console with
    | .ok value console => .ok value { faulty with console }
    | .error reason console => .error reason { faulty with console }

end Faulty

instance {σ : Type} [Console σ] : Console (Faulty σ) where
  write text := do
    let (fails, left) := Faulty.countdown (← get).failingWrite
    modify fun faulty => { faulty with failingWrite := left }
    if fails then throw "write failed" else Faulty.pass (Console.write text)
  flush := do
    let (fails, left) := Faulty.countdown (← get).failingFlush
    modify fun faulty => { faulty with failingFlush := left }
    if fails then throw "flush failed" else Faulty.pass Console.flush
  readLine := do
    let (fails, left) := Faulty.countdown (← get).failingRead
    modify fun faulty => { faulty with failingRead := left }
    if fails then throw "read failed" else Faulty.pass Console.readLine

/-! ### With a record of the calls -/

/-- A call to a console and what came of it. -/
inductive Call where
  | write (text : String) (outcome : Except String Unit)
  | flush (outcome : Except String Unit)
  | readLine (outcome : Except String (Option String))

structure Recorded (σ : Type) where
  console : σ
  /-- The calls made so far, the latest first. -/
  calls : List Call := []

/-- Makes a call to the console inside and notes it. -/
def Recorded.noting {σ α : Type} (note : Except String α → Call)
    (call : EStateM String σ α) : EStateM String (Recorded σ) α :=
  fun recorded =>
    match call recorded.console with
    | .ok value console => .ok value ⟨console, note (.ok value) :: recorded.calls⟩
    | .error reason console => .error reason ⟨console, note (.error reason) :: recorded.calls⟩

instance {σ : Type} [Console σ] : Console (Recorded σ) where
  write text := Recorded.noting (.write text) (Console.write text)
  flush := Recorded.noting .flush Console.flush
  readLine := Recorded.noting .readLine Console.readLine

end LineBasic
