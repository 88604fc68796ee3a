import Formwork.Text.Digit

/-!
# Tables

A long table is kept as a text: hexadecimal numbers with blanks or line ends between them, and a
comma between two rows.
-/

namespace Formwork.Text

/-- The numbers of a row. -/
def rowNumbers (row : String) : List Nat :=
  let words := (row.map fun c => if c == '\n' then ' ' else c).splitOn " "
  (words.filter (!·.isEmpty)).filterMap fun word => baseValue? 16 word.toList

/-- The rows of a table. -/
def tableRows (table : String) : List (List Nat) := (table.splitOn ",").map rowNumbers

end Formwork.Text
