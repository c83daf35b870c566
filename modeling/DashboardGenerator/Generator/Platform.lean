import DashboardGenerator.Config.Format
import DashboardGenerator.Config.Host
import DashboardGenerator.Generator.Log

/-!
# Platforms

What a run does not decide by itself: the hosts of its two configurations, which file formats there
are besides TOML and in which order they are looked for, and what a text for the log means that is not
the plain name of a threshold.
-/

namespace DashboardGenerator

open Config

/-- What a run takes as given. -/
structure Platform where
  settingsHost : Host
  definitionHost : Host
  /-- The formats that are looked for before TOML. -/
  earlierFormats : List Format
  /-- The formats that are looked for after TOML. -/
  laterFormats : List Format
  directives : String → Option Log.Filter

namespace Platform

/-- All formats in the order in which they are looked for. -/
def formats (platform : Platform) : List Format :=
  platform.earlierFormats ++ Format.toml :: platform.laterFormats

/-- The platform that knows no format but TOML and no text for the log but plain names. -/
def plain : Platform := ⟨.listed, .listed, [], [], fun _ => none⟩

end Platform

end DashboardGenerator
