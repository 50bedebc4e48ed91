import SkyRegion.Style
import SkyRegion.Text.Blank

/-! Settings of imports and exports. They may come from the environment, and then each is checked: a
delimiter of lines is one character, and none that already separates something else. -/

namespace SkyRegion

open Text

structure Settings where
  formatVersion : Text := "0.1.0".toList
  lineDelimiter : Text := [';']
  globalColor : Text := "green".toList
  globalFont : Text := "helvetica 10 normal roman".toList
  deriving DecidableEq

namespace Settings

/-- A setting by the name of its variable, and what it has to be like. -/
structure Fault where
  key : Text
  value : Text
  requirement : Text
  deriving DecidableEq

def reservedDelimiters : Text := " ,()#\n".toList

def refuse (key : String) (value : Text) (requirement : String) : Except Fault Settings :=
  .error ⟨key.toList, value, requirement.toList⟩

/-- The first setting that fails is reported. -/
def check (settings : Settings) : Except Fault Settings :=
  if settings.formatVersion.trim.isEmpty then
    refuse "DS9_FORMAT_VERSION" settings.formatVersion "must not be empty"
  else if settings.lineDelimiter.length ≠ 1 then
    refuse "DS9_LINE_DELIMITER" settings.lineDelimiter "must be exactly one character"
  else if settings.lineDelimiter.all reservedDelimiters.contains then
    refuse "DS9_LINE_DELIMITER" settings.lineDelimiter "must not be a parameter delimiter"
  else if settings.globalColor.trim.isEmpty then
    refuse "DS9_GLOBAL_COLOR" settings.globalColor "must not be empty"
  else if settings.globalFont.trim.isEmpty then
    refuse "DS9_GLOBAL_FONT" settings.globalFont "must not be empty"
  else .ok settings

/-- Settings from the variables that are set. -/
def ofEnvironment (environment : List (Text × Text)) : Except Fault Settings :=
  let base : Settings := {}
  let value (name : String) (default : Text) : Text := (environment.lookup name.toList).getD default
  check {
    formatVersion := value "DS9_FORMAT_VERSION" base.formatVersion
    lineDelimiter := value "DS9_LINE_DELIMITER" base.lineDelimiter
    globalColor := value "DS9_GLOBAL_COLOR" base.globalColor
    globalFont := value "DS9_GLOBAL_FONT" base.globalFont }

def style (settings : Settings) : Except (List (Text × Style.FieldFault)) Style :=
  Style.plain settings.globalColor settings.globalFont

end Settings
end SkyRegion
