import Graft.Transform.Literals
import Graft.Transform.Copy
import Graft.Transform.Detectors
import Graft.Transform.Equality
import Graft.Transform.FieldAttributes
import Graft.Transform.Bridge
import Graft.Transform.Accessors

/-!
# The transforms there are

Each transform has a name to be asked for by, a placement, and a function from requests to replies.
-/

namespace Graft

/-- The transforms. -/
inductive Transform where
  | stringify
  | validatedUrl
  | warning
  | asyncBridge
  | copyable
  | caseDetection
  | wrapStoredProperties
  | storedAccess
  | equatable
deriving DecidableEq, Repr, Inhabited

namespace Transform

/-- All transforms. -/
def catalog : List Transform :=
  [.stringify, .validatedUrl, .warning, .asyncBridge, .copyable, .caseDetection,
    .wrapStoredProperties, .storedAccess, .equatable]

/-- The name that a transform is asked for by. -/
def name : Transform → String
  | .stringify => "stringify"
  | .validatedUrl => "validated-url"
  | .warning => "warning"
  | .asyncBridge => "async-bridge"
  | .copyable => "copyable"
  | .caseDetection => "case-detection"
  | .wrapStoredProperties => "wrap-stored-properties"
  | .storedAccess => "stored-access"
  | .equatable => "equatable"

/-- Where the addition of a transform goes. -/
def placement : Transform → Placement
  | .stringify => .expression
  | .validatedUrl => .expression
  | .warning => .declaration
  | .asyncBridge => .peer
  | .copyable => .member
  | .caseDetection => .member
  | .wrapStoredProperties => .memberAttribute
  | .storedAccess => .accessor
  | .equatable => .extension

/-- What a transform does. -/
def run : Transform → Request → Except Diagnostic Reply
  | .stringify => pairWithText
  | .validatedUrl => validateUrl
  | .warning => emitWarning
  | .asyncBridge => addSibling
  | .copyable => addCopy
  | .caseDetection => addDetectors
  | .wrapStoredProperties => addFieldAttributes
  | .storedAccess => addAccessors
  | .equatable => addEquality

/-- The transform of a name. -/
def named? (name : String) : Option Transform := catalog.find? (·.name == name)

/-- A transform as it is shown in dumps. -/
def debug (t : Transform) : String :=
  "Transform \x7b name: \"" ++ t.name ++ "\", kind: " ++ t.placement.text ++ " \x7d"

end Transform

end Graft
