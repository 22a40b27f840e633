import MacroFusion.Expression.Fits
import MacroFusion.Expression.Reader

/-!
# Mnemonic patterns

A pattern is an expression together with the text it was written as: reports and listings of a catalog
show the text, matching uses the expression, and the proof in the record ties the two.
-/

namespace MacroFusion

/-- an expression with its written form -/
structure Pattern where
  source : String
  expression : Expression
  read : Expression.read source.toList = .ok expression

namespace Pattern

/-- the pattern that a text writes, if it writes one -/
def ofText (source : String) : Except Expression.Failure Pattern :=
  match h : Expression.read source.toList with
  | .ok expression => .ok ⟨source, expression, h⟩
  | .error f => .error f

/-- the expression of a text that is known to write one -/
def expressionOf (source : String) : Expression :=
  match Expression.read source.toList with
  | .ok expression => expression
  | .error _ => .nothing

/-- the pattern of a text that is known to write one -/
def ofSource (source : String)
    (h : (Expression.read source.toList).toOption.isSome = true := by decide +kernel) : Pattern :=
  ⟨source, expressionOf source, by
    unfold expressionOf
    cases hr : Expression.read source.toList with
    | ok expression => rfl
    | error f => rw [hr] at h; simp [Except.toOption] at h⟩

/-- whether the whole mnemonic fits the pattern -/
def fits (p : Pattern) (mnemonic : String) : Bool := p.expression.fits mnemonic.toList

end Pattern

end MacroFusion
