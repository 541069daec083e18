import KanjiSearch.Terminal.Style
import KanjiSearch.Text.Width

/-!
# Pointing at a character

A place in a text can be shown in two ways: by marking the character there (`markChar`), and by a caret in the line
below (`caretLine`). A place behind the text is shown as a marked space.
-/

namespace KanjiSearch.Terminal

/-- A text with the character at `position` marked. -/
def markChar (text : String) (position : Nat) : String :=
  let cs := text.toList
  match cs.drop position with
  | [] => text ++ Style.marked.apply " "
  | c :: rest =>
    String.ofList (cs.take position) ++ Style.marked.apply (String.ofList [c]) ++ String.ofList rest

/-- The number of columns before the character at `position`. -/
def columnOf (text : String) (position : Nat) : Nat :=
  Text.width (text.toList.take position) + (position - text.toList.length)

/-- The line with a caret below the character at `position`. -/
def caretLine (text : String) (position : Nat) : String :=
  String.ofList (List.replicate (columnOf text position) ' ') ++ Style.error.apply "^"

end KanjiSearch.Terminal
