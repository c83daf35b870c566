import DashboardGenerator.Config.OfToml

/-!
# Formats

A configuration file is written in one of several formats, and the ending of its name tells which.
-/

namespace DashboardGenerator.Config

/-- A format: how the names of its files end, and the values that a text gives to top-level keys. -/
structure Format where
  extension : String
  read : Origin → String → Except ParseFault (List (String × Value))

/-- The format that is always known. -/
def Format.toml : Format := ⟨"toml", ofToml⟩

end DashboardGenerator.Config
