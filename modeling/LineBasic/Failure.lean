/-!
# Causes of failure

Everything that can stop the loading or the running of a program is one
`Failure`. The cause is data, and its wording is given in one place,
`Failure.message`.
-/

namespace LineBasic

inductive Failure where
  /-- A token stands where the statement or expression cannot continue with it. -/
  | malformed
  | unbalancedParentheses
  | noExpression
  | equalSignExpected
  | notAVariable (text : String)
  | thenExpected
  | toExpected
  /-- A quotation mark is not closed on its own line. -/
  | openQuote
  | divisionByZero
  | labelTableFull (capacity : Nat)
  | duplicateLabel (label : String)
  | undefinedLabel (label : String)
  | nextWithoutFor
  | returnWithoutGosub
  | untilWithoutRepeat
  | fileNotFound (path : String)
  | fileUnreadable (reason : String)
  | inputFailed (reason : String)
  | outputFailed (reason : String)
deriving DecidableEq, Repr

/-- The text shown to the user. -/
def Failure.message : Failure → String
  | .malformed => "Syntax Error"
  | .unbalancedParentheses => "Unbalanced Parentheses"
  | .noExpression => "No Expression Present"
  | .equalSignExpected => "Equal sign expected"
  | .notAVariable text => "Not a variable: " ++ text
  | .thenExpected => "THEN expected"
  | .toExpected => "TO expected"
  | .openQuote => "Closing quotes needed"
  | .divisionByZero => "Division by Zero"
  | .labelTableFull capacity => "Label table full (" ++ toString capacity ++ " labels)"
  | .duplicateLabel label => "Duplicate label " ++ label
  | .undefinedLabel label => "Undefined label " ++ label
  | .nextWithoutFor => "NEXT without FOR"
  | .returnWithoutGosub => "RETURN without GOSUB"
  | .untilWithoutRepeat => "UNTIL without REPEAT"
  | .fileNotFound path => "File not found: " ++ path
  | .fileUnreadable reason => "I/O error while loading file: " ++ reason
  | .inputFailed reason => "I/O error on INPUT statement: " ++ reason
  | .outputFailed reason => "I/O error on PRINT statement: " ++ reason

end LineBasic
