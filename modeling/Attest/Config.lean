import Attest.Layout

/-!
# Configuration

How values are shown in failure messages: the width from which their text is cut, and the layout.
One configuration is in effect at a time, the default one until another is installed.
-/

namespace Attest

/-- How values are shown. -/
structure Config where
  truncateAt : Nat
  pretty : Bool
deriving DecidableEq, Repr

namespace Config

/-- The configuration in effect when none is installed. -/
def initial : Config := ⟨120, false⟩

/-- Applies overrides: a width replaces the present one, and the spread layout can be switched on
but not off. -/
def withOverrides (config : Config) (truncateAt : Option Nat) (pretty : Bool) : Config :=
  ⟨truncateAt.getD config.truncateAt, config.pretty || pretty⟩

/-- The layout in which values are shown. -/
def layout (config : Config) : Layout :=
  if config.pretty then .spread 0 else .compact

/-- The text that shows a configuration. -/
def shown (layout : Layout) (config : Config) : List Char :=
  layout.record "Config".toList false
    [("truncate_at".toList, Nat.toDigits 10 config.truncateAt),
      ("pretty".toList, Layout.truth config.pretty)]

end Config

/-- The configuration that was installed last, if any was. -/
structure Environment where
  installed : Option Config
deriving DecidableEq, Repr

namespace Environment

def fresh : Environment := ⟨none⟩

/-- The configuration in effect. -/
def current (environment : Environment) : Config :=
  environment.installed.getD .initial

/-- Makes a configuration the one in effect. -/
def install (_ : Environment) (config : Config) : Environment :=
  ⟨some config⟩

end Environment

end Attest
