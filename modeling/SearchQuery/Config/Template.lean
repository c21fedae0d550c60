/-!
# The configuration file to start from

A new configuration file shows what can be set, but sets nothing: every line that would is turned
into a comment.
-/

namespace SearchQuery.Config

/-- The lines of a configuration with every setting. -/
def exampleLines : List String := [
  "# sift configuration",
  "#",
  "# Field patterns turn structured tokens such as `trip:123` into field filters.",
  "# Patterns are tried in the order they are listed, after whitespace, quoted",
  "# text and OR, but before bare words.",
  "",
  "# Stop looking for .sift.toml files in parent directories and ~/.sift.toml.",
  "root = false",
  "",
  "# A bare token pattern. It must not contain capture groups; use (?:...).",
  "[[field]]",
  "label = \"TRIP\"",
  "token = \"trip:[0-9]+\"",
  "",
  "# A full pattern with two capture groups: the token text, then the rest.",
  "[[field]]",
  "label = \"EXPERIENCE\"",
  "pattern = '(?s)^(experience:[a-z]+)(.*)$'"]

/-- A line as a comment; blank lines and comments stay as they are. -/
def commented : List Char → List Char
  | [] => []
  | '#' :: cs => '#' :: cs
  | cs => '#' :: ' ' :: cs

/-- The text of a new configuration file. -/
def template : String :=
  String.ofList (exampleLines.flatMap fun line => commented line.toList ++ ['\n'])

end SearchQuery.Config
