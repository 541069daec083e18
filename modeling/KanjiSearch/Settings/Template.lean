import KanjiSearch.Text.Pieces

/-!
# Settings files to start from

The texts of new settings files. All settings in them are commented out, so that a new file changes nothing.
-/

namespace KanjiSearch.Settings

/-- A line of a settings file as a comment. Empty lines and comments stay as they are. -/
def commentLine (line : List Char) : List Char :=
  (if line = [] ∨ line.head? = some '#' then line else '#' :: ' ' :: line) ++ ['\n']

/-- A settings file in which everything is a comment. -/
def commentOut (text : String) : String :=
  String.ofList ((Text.lines text.toList).flatMap commentLine)

/-- The settings file of a project. -/
def projectSettings : String :=
  "# kanji configuration
#
# Values here take precedence over .kanji.toml files in parent directories
# and over the global ~/.kanji.toml.

# Stop looking for configuration in parent directories and skip the global file.
root = false

[search]
# Rows shown by `kanji search`. The query engine never returns more than 50.
limit = 50

[data]
# Kanji record files: JSON arrays of records. One path or a list.
# Relative paths are resolved against the directory holding this file.
files = [\"kanji.json\"]
"

/-- The settings file of a home directory. -/
def homeSettings : String :=
  "# Global kanji configuration (~/.kanji.toml)
#
# Lowest precedence: any .kanji.toml between the working directory and the
# filesystem root overrides these values.

[search]
# Rows shown by `kanji search`. The query engine never returns more than 50.
limit = 20

[data]
# Kanji record files used when no closer configuration names any.
files = \"~/kanji/kanji.json\"
"

/-- The text of a new settings file in a project. -/
def projectTemplate : String :=
  commentOut projectSettings

/-- The text of a new settings file in a home directory. -/
def homeTemplate : String :=
  commentOut homeSettings

end KanjiSearch.Settings
