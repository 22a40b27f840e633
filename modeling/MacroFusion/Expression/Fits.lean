import MacroFusion.Expression.Trial
import MacroFusion.Expression.Width
import MacroFusion.Regex.Partial

/-!
# Whether an expression fits a text

A limited trial decides nearly every text.  Where there are too many ways to try, a regular expression is
matched by its partial derivatives, which never go back in the text, and any other one is tried without
a limit.
-/

namespace MacroFusion.Expression

/-- the steps of a limited trial -/
def allowance : Nat := 300000

/-- how a trial of an expression on a whole text ends -/
def attempt (limited : Bool) (e : Expression) (text : Array Char) (steps : Nat) : Verdict :=
  trial limited text e (atEnd text) { index := 0 } steps

/-- whether an expression fits a whole text, when a limited trial could not tell -/
def fitsAtLength (e : Expression) (text : List Char) : Bool :=
  match e.regular? with
  | some r => r.accepts text
  | none =>
    match e.attempt false text.toArray 0 with
    | .found _ _ => true
    | _ => false

/-- whether an expression without tests at its ends fits the whole text -/
def fitsTrimmed (e : Expression) (text : List Char) : Bool :=
  if text.length < (e.width []).lo then false
  else match e.attempt true text.toArray allowance with
    | .found _ _ => true
    | .refused _ => false
    | .spent => e.fitsAtLength text

/-- whether the expression fits the whole text -/
def fits (e : Expression) (text : List Char) : Bool := (e.trimmed true true).fitsTrimmed text

end MacroFusion.Expression
