import Formwork.Decimal.Reading
import Formwork.Settings.Basic
import Formwork.Text.Lowercase

/-!
# Settings from the environment

Some settings can be overridden by environment variables, which take precedence over everything
else. A timeout that is no number is passed over.
-/

namespace Formwork.Settings

/-- The number written by digits, behind a plus sign or none, if it fits 64 bits. -/
def natural? (text : String) : Option Nat :=
  let digits :=
    match text.toList with
    | '+' :: rest => rest
    | rest => rest
  let n := Decimal.natOfDigits digits
  if digits ≠ [] ∧ digits.all Char.isDigit ∧ n < 0x10000000000000000 then some n else none

/-- The word switches something on. -/
def isOn (word : String) : Bool := ["true", "1", "yes"].contains (Text.lowercase word)

/-- The settings overridden by environment variables, which are looked up by name. -/
def override (settings : Settings) (lookup : String → Option String) : Settings :=
  { settings with
    debug := ((lookup "FORMBUILDER_DEBUG").map isOn).getD settings.debug
    logLevel := (lookup "FORMBUILDER_LOG_LEVEL").getD settings.logLevel
    formTimeout :=
      ((lookup "FORMBUILDER_FORM_TIMEOUT").bind fun text => natural? (Text.trim text)).getD
        settings.formTimeout
    sessionNamespace := (lookup "FORMBUILDER_SESSION_NAMESPACE").getD settings.sessionNamespace
    defaultConnection := (lookup "FORMBUILDER_DEFAULT_CONNECTION").getD settings.defaultConnection
    templateDirectories :=
      ((lookup "FORMBUILDER_TEMPLATE_DIRS").map Text.commaList).getD settings.templateDirectories }

end Formwork.Settings
