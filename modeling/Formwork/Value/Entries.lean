/-!
# Entries in order

Entries under keys keep the order in which their keys came.
-/

namespace Formwork

/-- Entries with one more: a key that is there already keeps its place and gets the new value. -/
def putEntry {α : Type} (es : List (String × α)) (key : String) (value : α) : List (String × α) :=
  match es with
  | [] => [(key, value)]
  | (k, v) :: rest => if k == key then (k, value) :: rest else (k, v) :: putEntry rest key value

end Formwork
