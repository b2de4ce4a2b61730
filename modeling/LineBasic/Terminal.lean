import LineBasic.Console
import LineBasic.Source

/-!
# The terminal

The console of the command line. Its input is a sequence of bytes, of which a
line is all up to a line feed; a line that is not a text cannot be read. Input
may still be on its way, so a terminal also knows whether a line was asked for
too early.
-/

namespace LineBasic

structure Terminal where
  /-- What was written and has not been shown. -/
  output : String := ""
  /-- What has arrived and has not been read. -/
  input : List UInt8 := []
  /-- Whether nothing more arrives. -/
  closed : Bool := true
  /-- Whether a line was asked for before it arrived. -/
  starved : Bool := false

namespace Terminal

def lineFeed : UInt8 := 10

/-- The first line of some bytes, its line feed included, and the rest. -/
def splitLine (bytes : List UInt8) : List UInt8 × List UInt8 :=
  let length := (bytes.takeWhile (· != lineFeed)).length + 1
  (bytes.take length, bytes.drop length)

end Terminal

instance : Console Terminal where
  write text := modify fun terminal => { terminal with output := terminal.output ++ text }
  flush := pure ()
  readLine terminal :=
    if terminal.input.isEmpty then
      if terminal.closed then .ok none terminal
      else .error "no line has arrived" { terminal with starved := true }
    else
      let (line, rest) := Terminal.splitLine terminal.input
      let after := { terminal with input := rest }
      match decodeText line with
      | .ok text => .ok (some (withoutLineEnd text)) after
      | .error reason => .error reason after

end LineBasic
