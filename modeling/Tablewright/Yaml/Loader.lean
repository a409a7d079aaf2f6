import Tablewright.Config.Load
import Tablewright.Yaml.Document

/-! # A loader

The loader that documents are loaded with where nothing else is there. It reads mappings, lists and
scalars in block and in flow style; block scalars, anchors and tags are beyond it.
-/

namespace Tablewright.Yaml

/-- What a problem of a document comes up as. -/
def Problem.failure : Problem → LoadFailure
  | .malformed | .cutShort => .malformed "malformed document"
  | .noSuchValue => .stray .badValue
  | .outOfRange => .stray .outOfRange
  | .undecodable => .stray .undecodable
  | .tooDeep => .stray .tooDeep

/-- The loader that reads documents. -/
def loader : Loader :=
  fun content => (Source.ofBytes content).value.mapError Problem.failure

end Tablewright.Yaml
