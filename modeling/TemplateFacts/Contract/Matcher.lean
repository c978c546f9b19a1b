import TemplateFacts.Contract.Pattern.Program
import TemplateFacts.Contract.Pattern.Reader
import TemplateFacts.Contract.Pattern.Screen

/-! Patterns as contracts use them: plain ones, and those that need the machine. -/

namespace TemplateFacts.Contract

/-- What decides whether a text matches. -/
inductive Matcher where
  | plain (pattern : Pattern)
  | machine (program : Program.Loaded)
deriving Inhabited

namespace Matcher

/-- The matcher of an expression that was read. -/
def ofRead? (read : ExpressionReader.Read) : Option Matcher :=
  -- Only hard expressions need the machine.
  if (read.expression.measure read.referred).hard then
    (Program.ofExpression? read.referred read.groups read.expression).map .machine
  else do
    let pattern ← read.expression.plain?
    if pattern.isTooHeavy then none else some (.plain pattern)

/-- The matcher that a text writes. -/
def ofText? (s : String) : Option Matcher := do
  -- Classes are those of ASCII in texts that the strict grammar knows.
  let screened ← Screen.screen? (s.length + 1) s.toList
  ofRead? (← ExpressionReader.read? screened.text screened.known)

/-- Whether the matcher matches somewhere in a text, unless it gives up. -/
def matchesIn (matcher : Matcher) (s : String) : Except Machine.Excess Bool :=
  match matcher with
  | .plain pattern => .ok (pattern.matchesIn s)
  | .machine loaded => Machine.run loaded.program loaded.slots s

end Matcher

end TemplateFacts.Contract
