import YangTypes.Bound.Constraint
import YangTypes.Pattern.Expression
import YangTypes.Regex.Match
import YangTypes.Regex.Parse

/-!
Pattern restrictions on texts.
-/

namespace YangTypes

/-- A pattern that a text has to match, or must not match if it is inverted. The expression is the
one that the pattern stands for. -/
structure Pattern where
  regex : String
  inverted : Bool
  doc : ConstraintDoc
  expr : Regex.Expr
  expr_eq : Regex.parse (Pattern.expression regex) = .ok expr

namespace Pattern

/-- The tag that is reported unless another is declared. -/
def appTag : String := "invalid-regular-expression"

/-- Makes a pattern, if it stands for a regular expression. -/
def make (regex : String) (inverted : Bool) (declared : RestrictionDoc) :
    Except Regex.SyntaxError Pattern :=
  match h : Regex.parse (expression regex) with
  | .error e => .error e
  | .ok expr =>
    .ok ⟨regex, inverted, .ofDeclared declared appTag
      ("Supplied value does not match the regular expression " ++ regex ++ "."), expr, h⟩

/-- Whether a text matches the expression of a pattern. -/
def isMatch (p : Pattern) (text : String) : Bool := p.expr.isMatch text

/-- Whether a text satisfies a pattern, by a way to match texts. -/
def accepts (p : Pattern) (text : String) (matcher : Pattern → String → Bool := isMatch) : Bool :=
  matcher p text != p.inverted

/-- Checks a text. -/
def check (p : Pattern) (text : String) (matcher : Pattern → String → Bool := isMatch) :
    Except Violation Unit :=
  if p.accepts text matcher then .ok () else .error p.doc.violation

/-- Two patterns are equal if they are declared alike. -/
theorem eq_iff (a b : Pattern) :
    a = b ↔ a.regex = b.regex ∧ a.inverted = b.inverted ∧ a.doc = b.doc := by
  constructor
  · rintro rfl
    exact ⟨rfl, rfl, rfl⟩
  · obtain ⟨regex, inverted, doc, expr, h⟩ := a
    obtain ⟨regex', inverted', doc', expr', h'⟩ := b
    rintro ⟨rfl, rfl, rfl⟩
    obtain rfl : expr = expr' := Except.ok.inj (h.symm.trans h')
    rfl

instance : DecidableEq Pattern := fun a b => decidable_of_iff _ (eq_iff a b).symm

end Pattern

end YangTypes
