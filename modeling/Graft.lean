import Graft.Text.Hex
import Graft.Text.CharSet
import Graft.Text.CharTable
import Graft.Text.Identifier
import Graft.Text.Letter
import Graft.Text.Printable
import Graft.Text.Blank
import Graft.Text.Quoted
import Graft.Text.SnakeCase
import Graft.Text.Composed
import Graft.Token.Basic
import Graft.Token.Lexer
import Graft.Literal
import Graft.Tree.Basic
import Graft.Tree.Same
import Graft.Tree.Decl
import Graft.Grammar.Cursor
import Graft.Grammar.Rules
import Graft.Grammar.Types
import Graft.Grammar.Patterns
import Graft.Grammar.Expressions
import Graft.Grammar.Statements
import Graft.Grammar.Items
import Graft.Grammar.Entry
import Graft.Number.Power
import Graft.Number.Integer
import Graft.Number.Binary
import Graft.Number.Decimal
import Graft.Domain.Mapping
import Graft.Domain.Direction
import Graft.Domain.Joining
import Graft.Domain.Punycode
import Graft.Domain.Name
import Graft.Url.Failure
import Graft.Url.Percent
import Graft.Url.Ipv4
import Graft.Url.Ipv6
import Graft.Url.Host
import Graft.Url.Basic
import Graft.Url.Parser
import Graft.Diagnostic
import Graft.Argument
import Graft.Template
import Graft.LiteralClass
import Graft.Outline
import Graft.Method
import Graft.Callback
import Graft.Transform.Basic
import Graft.Transform.Literals
import Graft.Transform.Copy
import Graft.Transform.Detectors
import Graft.Transform.Equality
import Graft.Transform.FieldAttributes
import Graft.Transform.Bridge
import Graft.Transform.Accessors
import Graft.Transform.Catalog
import Graft.Expansion
import Graft.Store.Value
import Graft.Store.Basic
import Graft.Store.Accessor
import Graft.Nullable
import Graft.Channel
import Graft.Showcase.Preferences
import Graft.Showcase.Copies
import Graft.Showcase.States
import Graft.Showcase.Client
import Graft.Showcase.Constants
import Graft.Proofs.Grammar.Runs
import Graft.Proofs.Grammar.AttributeBody
import Graft.Proofs.Transform.Replies
import Graft.Proofs.Expansion.Placement
import Graft.Proofs.Expansion.AllOrNothing
import Graft.Proofs.Number.DecimalText
import Graft.Proofs.Number.Patterns
import Graft.Proofs.Number.Saturation
import Graft.Proofs.Store.Keys
import Graft.Proofs.Store.Integers
import Graft.Proofs.Method.Reading
import Graft.Proofs.Store.AccessorCode
import Graft.Proofs.Store.Scope
import Graft.Proofs.Store.KeptProperty
import Graft.Proofs.Store.Record
import Graft.Proofs.Store.KeySeparation
import Graft.Proofs.Channel.FirstValue
import Graft.Proofs.Channel.Sibling
import Graft.Proofs.Template.StaticText
import Graft.Proofs.Token.QuotedText
import Graft.Proofs.Grammar.LiteralExpr
import Graft.Proofs.Transform.EmittedLiterals
import Graft.Proofs.Template.NormalForm
import Graft.Proofs.Argument.Labels
import Graft.Proofs.Transform.AccessRequests
import Graft.Proofs.Transform.ArgumentOrder
import Graft.Proofs.Grammar.Parameters
import Graft.Proofs.Transform.AccessSignature
import Graft.Proofs.Tree.TypeShapes
import Graft.Proofs.Callback.Spellings
import Graft.Proofs.Callback.DroppedParameter
import Graft.Proofs.Callback.ReturnScope
import Graft.Proofs.Grammar.StructFields
import Graft.Proofs.Transform.CopyOverrides
import Graft.Proofs.Transform.DetectorNames
import Graft.Proofs.Transform.DetectorPatterns
import Graft.Proofs.Callback.ForwardedNames
import Graft.Proofs.Callback.WrappedTypes
import Graft.Proofs.Transform.WrappedTypes
import Graft.Proofs.Store.IntegerReaders
import Graft.Proofs.Store.TextForm
import Graft.Proofs.Store.Singles
import Graft.Proofs.Token.Visible
import Graft.Proofs.Transform.FieldAttributes
import Graft.Proofs.Grammar.ItemAttributes
import Graft.Proofs.Transform.DerivedEquality
import Graft.Proofs.Tree.Positions
import Graft.Proofs.Tree.Paths
import Graft.Proofs.Transform.CloneBounds
import Graft.Proofs.Literal.SpelledClass
