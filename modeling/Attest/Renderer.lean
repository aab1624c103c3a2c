import Attest.Config
import Attest.Text.Truncation
import Attest.Value.Rendering

/-!
# Renderers

A renderer shows values as its configuration says and cuts what is too wide.
-/

namespace Attest

/-- Shows values by a configuration. -/
structure Renderer where
  config : Config
deriving DecidableEq, Repr

namespace Renderer

def initial : Renderer := ⟨.initial⟩

/-- Cuts a text to the configured width. -/
def truncate (renderer : Renderer) (text : List Char) : String :=
  .ofList (Text.truncate renderer.config.truncateAt text)

/-- The text that shows a value, cut to the configured width. -/
def render (renderer : Renderer) (kind : Kind) (value : kind.Value) : String :=
  renderer.truncate (kind.shown renderer.config.layout value)

/-- The text that shows a renderer itself. -/
def shown (layout : Layout) (renderer : Renderer) : List Char :=
  layout.record "Renderer".toList false
    [("config".toList, renderer.config.shown layout.inner)]

end Renderer

end Attest
