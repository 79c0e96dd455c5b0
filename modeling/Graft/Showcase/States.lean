import Graft.Transform.Detectors

/-!
# Detected states

An enum with a case of every shape, and what its detecting methods tell of each case.
-/

namespace Graft

/-- Whether a value of a case matches a pattern. -/
def CasePattern.accepts (p : CasePattern) (c : EnumCase) : Bool :=
  p.variant.same c.name && p.shape == c.shape

namespace Showcase

/-- The cases of the enum. -/
def states : List EnumCase :=
  [⟨.new "Loading", .unit⟩, ⟨.new "Loaded", .struct⟩, ⟨.new "HTTPError", .tuple⟩,
    ⟨.new "Sha256Sum", .tuple⟩, ⟨.new "Type", .unit⟩]

/-- The names of the detecting methods, each with what it tells of a case. -/
def detect (c : EnumCase) : List (String × Bool) :=
  match Detector.all states with
  | .ok ds => ds.map fun d => (d.name.text, d.pattern.accepts c)
  | .error _ => []

/-- What the detecting methods tell of the case of this name. -/
def detectNamed (name : String) : List (String × Bool) :=
  match states.find? fun c => c.name.text == name with
  | some c => detect c
  | none => []

end Showcase

end Graft
