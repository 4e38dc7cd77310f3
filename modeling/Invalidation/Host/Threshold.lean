import Invalidation.Failure
import Invalidation.Text.Casing

/-!
# Log thresholds

The setting for the log level is any text. Its upper-case form may name a level, which gives
the threshold of the log; a text that names none stands for the informational level. Two names
are taken, one by the default layout of log lines and one by the table of all layouts, and neither
is a level.

Source: the look-up of `log_level` in `_setup_logging`.
-/

set_option autoImplicit false

namespace Invalidation.Threshold

def levels : List (String × Nat) :=
  [("CRITICAL", 50), ("FATAL", 50), ("ERROR", 40), ("WARN", 30), ("WARNING", 30), ("INFO", 20),
   ("DEBUG", 10), ("NOTSET", 0)]

/-- The threshold where no level is named. -/
def fallback : Nat := 20

/-- The name of the default line layout. -/
def layoutName : String := "BASIC_FORMAT"

/-- The name of the table of line layouts. -/
def layoutTableName : String := "_STYLES"

def ofText (text : String) : Except Failure Nat :=
  if Text.upper text = layoutName then .error .levelIsLayout
  else if Text.upper text = layoutTableName then .error .levelIsLayoutTable
  else .ok ((levels.lookup (Text.upper text)).getD fallback)

end Invalidation.Threshold
