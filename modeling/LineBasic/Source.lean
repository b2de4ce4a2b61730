import LineBasic.Failure

/-!
# Loading programs

The source of a program is the text of a file. Whoever looks the file up says
what it contains, or why it could not be read; this module turns either into a
source text or a failure.
-/

namespace LineBasic

/-- Why a file could not be read. -/
inductive ReadFault where
  | notFound
  | isFolder
  /-- The path leads through something that is not a folder. -/
  | notFolder
  | nulInName
  | nameTooLong
  | other (reason : String)
deriving DecidableEq, Repr

namespace ReadFault

def reason : ReadFault → String
  | notFound => "No such file or directory (os error 2)"
  | isFolder => "Is a directory (os error 21)"
  | notFolder => "Not a directory (os error 20)"
  | nulInName => "file name contained an unexpected NUL byte"
  | nameTooLong => "File name too long (os error 36)"
  | other reason => reason

/-- A file that does not exist is reported by its path, any other fault by its
reason. -/
def toFailure (path : String) : ReadFault → Failure
  | notFound => .fileNotFound path
  | fault => .fileUnreadable fault.reason

end ReadFault

/-- What is said of bytes that are not the encoding of a text. -/
def notText : String := "stream did not contain valid UTF-8"

/-- The text that bytes encode. -/
def decodeText (bytes : List UInt8) : Except String String :=
  match String.fromUTF8? ⟨bytes.toArray⟩ with
  | some text => .ok text
  | none => .error notText

/-- The source in a file with the given contents. -/
def loadSource (path : String) (contents : Except ReadFault (List UInt8)) :
    Except Failure String :=
  match contents with
  | .error fault => .error (fault.toFailure path)
  | .ok bytes => (decodeText bytes).mapError .fileUnreadable

end LineBasic
