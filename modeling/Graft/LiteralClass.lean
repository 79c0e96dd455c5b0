import Graft.Tree.Basic

/-!
# What type a literal has

The class of an expression that spells a value: `Expr.literalClass` looks through parentheses, a
minus sign keeps a number a number, and a path such as `Theme::Dark` is taken to name a value of
the type in front of its last segment.
-/

namespace Graft

/-- The class of a value that an expression spells. -/
inductive LiteralClass where
  | bool
  | int
  | string
  | float
  | named (type : Path)
  | unrecognized

/-- The name of a class. -/
def LiteralClass.text : LiteralClass → String
  | .bool => "Bool"
  | .int => "Int"
  | .string => "String"
  | .float => "Float"
  | .named _ => "Named"
  | .unrecognized => "Unrecognized"

/-- The class of a literal. -/
def Lit.literalClass : Lit → LiteralClass
  | .bool _ => .bool
  | .int _ _ => .int
  | .str _ => .string
  | .float _ _ => .float
  | .bytes | .byte | .char _ => .unrecognized

/-- The class of a number with a minus sign in front; nothing else may have one. -/
def LiteralClass.negated : LiteralClass → LiteralClass
  | .int => .int
  | .float => .float
  | _ => .unrecognized

/-- The class of a form. Only a number that has its sign in it, as a constant between the angle
brackets of a type may have, is a literal. -/
def ExprForm.literalClass : ExprForm → List Part → LiteralClass
  | .negativeLiteral, [_, .token (.literal text _)] =>
    (Lit.number? text.toList).elim .unrecognized Lit.literalClass
  | _, _ => .unrecognized

/-- The path in front of the last segment. -/
def Path.qualifier (p : Path) : Path := .mk p.leading p.segments.dropLast

/-- The class of the value that an expression spells. -/
def Expr.literalClass : Expr → LiteralClass
  | .lit _ _ v => v.literalClass
  | .neg _ _ e => e.literalClass.negated
  | .group _ _ e => e.literalClass
  | .paren _ _ e => e.literalClass
  | .path _ p => if 2 ≤ p.segments.length then .named p.qualifier else .unrecognized
  | .call _ _ => .unrecognized
  | .other _ form parts => form.literalClass parts

end Graft
