import Graft.Grammar.Cursor
import Graft.Url.Failure

/-!
# Diagnostics

What an expansion has to report. A `Problem` is the cause; its identifier, wording, help and
severity are functions of the cause. A `Diagnostic` is a problem with the place it is reported at.
-/

namespace Graft

/-! ## 1. Causes -/

/-- How bad a problem is. -/
inductive Severity where
  | warning
  | error
deriving DecidableEq, Repr, Inhabited

/-- The name of a severity. -/
def Severity.text : Severity → String
  | .warning => "Warning"
  | .error => "Error"

/-- Why a text is not the inside of an attribute. -/
inductive AttributeFlaw where
  /-- The text is not made of tokens. -/
  | unreadable
  /-- The tokens are not an attribute. -/
  | malformed (e : SyntaxError)
deriving DecidableEq, Repr

/-- The wording of a flaw. -/
def AttributeFlaw.message : AttributeFlaw → String
  | .unreadable => "lex error"
  | .malformed e => e.message

/-- What an expansion has to report. -/
inductive Problem where
  /-- Tokens do not follow the grammar. -/
  | malformed (e : SyntaxError)
  /-- No transform has this name. -/
  | unknownTransform (name : String)
  /-- A label occurs twice among the arguments. -/
  | duplicateArgument (label : String)
  /-- Something other than one expression was given to be paired with its text. -/
  | notOneExpression
  /-- A URL is not given as a text that is known while expanding. -/
  | urlNotLiteral
  /-- A text is no URL. -/
  | malformedUrl (text : String) (cause : Url.Failure)
  /-- A warning is not given as a text that is known while expanding. -/
  | warningNotLiteral
  /-- A warning that the source asks for. -/
  | warning (text : String)
  /-- An attribute is not given as a text, or the text is not an attribute. -/
  | attributeNotLiteral (flaw : Option AttributeFlaw)
  /-- Only a struct can be copied with changes. -/
  | notStruct
  /-- Only a struct or an enum can be compared. -/
  | notComparable
  /-- A union cannot be compared. -/
  | unionNotComparable
  /-- Two variants lead to a method of one name. -/
  | duplicateDetector (method first second : String)
  /-- The generated code would need the standard library. -/
  | requiresStd
  /-- An argument has no label or an unknown one. -/
  | wrongArgument
  /-- The value of a property that was never set is not given. -/
  | missingDefault
  /-- The key of a property is not given as a text that is known while expanding. -/
  | keyNotLiteral
  /-- Only the declaration of a stored property can have accessors. -/
  | notStoredProperty
  /-- No stored type can be told from the value of a property that was never set. -/
  | unsupportedDefault
deriving DecidableEq, Repr

namespace Problem

/-- The severity of a problem. -/
def severity : Problem → Severity
  | .warning _ => .warning
  | _ => .error

/-- The identifier of a problem. -/
def id (p : Problem) : String :=
  "playtomic::" ++ match p with
    | .malformed _ => "syntax"
    | .unknownTransform _ => "unknown_transform"
    | .duplicateArgument _ | .notOneExpression | .urlNotLiteral | .warningNotLiteral
    | .attributeNotLiteral _ | .keyNotLiteral => "invalid_argument"
    | .malformedUrl _ _ => "malformed_url"
    | .warning _ => "warning"
    | .notStruct => "not_struct"
    | .notComparable | .unionNotComparable => "not_a_type"
    | .duplicateDetector _ _ _ => "duplicate_member"
    | .requiresStd => "requires_std"
    | .wrongArgument | .missingDefault | .notStoredProperty => "stored_access"
    | .unsupportedDefault => "unsupported_type"

/-- The wording of a problem. -/
def message : Problem → String
  | .malformed e => e.message
  | .unknownTransform name => "no transform is registered as `" ++ name ++ "`"
  | .duplicateArgument label => "duplicate argument `" ++ label ++ "`"
  | .notOneExpression => "`stringify!` takes exactly one expression"
  | .urlNotLiteral => "`url!` requires a static string literal"
  | .malformedUrl text _ => "malformed url: " ++ text
  | .warningNotLiteral => "`warning!` requires a non-interpolated string literal"
  | .warning text => text
  | .attributeNotLiteral flaw =>
    "`#[wrap_stored_properties]` requires a string literal containing the name of an attribute" ++
      match flaw with
      | some f => ": " ++ f.message
      | none => ""
  | .notStruct => "`#[copyable]` can only be applied to a struct"
  | .notComparable => "`#[equatable]` can only be applied to a struct or enum"
  | .unionNotComparable => "`PartialEq` cannot be derived for a union"
  | .duplicateDetector method first second =>
    "`" ++ method ++ "` would be generated for both `" ++ first ++ "` and `" ++ second ++ "`"
  | .requiresStd => "this macro requires the standard library"
  | .wrongArgument => "wrong argument"
  | .missingDefault => "missing `default_value`"
  | .keyNotLiteral => "`key` must be a static string literal"
  | .notStoredProperty => "`#[stored_access]` can only be applied to a stored property declaration"
  | .unsupportedDefault => "this type is not supported yet"

/-- What may be done about a problem. -/
def help : Problem → Option String
  | .malformedUrl _ cause => some cause.message
  | .unionNotComparable => some "implement `PartialEq` by hand"
  | .duplicateDetector _ _ _ => some "rename one of the variants"
  | .requiresStd => some "enable playtomic's `std` feature"
  | .wrongArgument => some "expected `default_value = ..`, `key = \"..\"` or `store = ..`"
  | .missingDefault => some "add `default_value = ..`"
  | .notStoredProperty => some "declare the property as `fn name(&self) -> Type;`"
  | .unsupportedDefault =>
    some "use a `bool`, integer, float or string literal, or an enum variant"
  | _ => none

end Problem

/-! ## 2. Places -/

/-- A problem, and the first and the last token it is about. -/
structure Diagnostic where
  problem : Problem
  start : Span
  stop : Span
deriving DecidableEq, Repr

namespace Diagnostic

/-- A problem at one place. -/
def at_ (span : Span) (p : Problem) : Diagnostic := ⟨p, span, span⟩

/-- A problem about an expansion as a whole. -/
def overall (p : Problem) : Diagnostic := .at_ .callSite p

/-- A problem about some tokens; one about no tokens is about the whole. -/
def on (ts : List Token) (p : Problem) : Diagnostic :=
  match ts with
  | [] => .overall p
  | t :: rest => ⟨p, t.span, ((t :: rest).getLast?.getD t).span⟩

/-- A grammatical problem, at its own place. -/
def ofSyntax (e : SyntaxError) : Diagnostic := .at_ e.span (.malformed e)

/-- Whether a diagnostic makes an expansion fail. -/
def isError (d : Diagnostic) : Bool := d.problem.severity == .error

/-- A diagnostic in one line. -/
def display (d : Diagnostic) : String := d.problem.id ++ ": " ++ d.problem.message

end Diagnostic

end Graft
