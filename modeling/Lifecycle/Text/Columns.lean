/-!
# Columns

Texts in columns of a least width. Width counts characters, and a text that is wider than its column
is shown whole.
-/

namespace Lifecycle.Text

/-- The blanks that fill a column of a width behind or before a text. -/
def blanks (width : Nat) (text : String) : String :=
  String.ofList (List.replicate (width - text.length) ' ')

/-- A text at the left end of its column. -/
def alignLeft (width : Nat) (text : String) : String := text ++ blanks width text

/-- A text at the right end of its column. -/
def alignRight (width : Nat) (text : String) : String := blanks width text ++ text

end Lifecycle.Text
