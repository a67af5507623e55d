/-!
# Sorted texts

Renderings that must not depend on the order of their parts sort them as texts.
-/

namespace StateMachine.Text

/-- Texts in increasing order, by code points. -/
def sort (texts : List String) : List String := texts.mergeSort (fun a b => decide (a ≤ b))

end StateMachine.Text
