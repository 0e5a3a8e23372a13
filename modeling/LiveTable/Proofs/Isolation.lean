import LiveTable.Proofs.Layout
import LiveTable.Watch.Basic

namespace LiveTable

namespace Table

section

variable (now : Int) (r : Renderer) (specs : ColumnSpecs) (ns : String) (objects : List Json)

theorem relayout_new (h : Header) : ((new ns).relayout h).events = .empty := by
  unfold relayout
  split <;> rfl

end

end Table

end LiveTable
