import LiveTable.Calendar.Timestamp
import LiveTable.Cell.Elapsed

namespace LiveTable.Cell

def ageOf? (now : Int) (s : String) : Option String :=
  (Calendar.Timestamp.parse? (Text.trim s)).map fun m => Elapsed.describe (m.secondsUntil now)

end LiveTable.Cell
