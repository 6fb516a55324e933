/-!
# Extensions of Markdown

Which forms a text is read with besides the basic ones.
-/

namespace LinkEmbed.Markdown

/-- The forms that are turned on. -/
structure Extensions where
  /-- Tables, footnotes, deletions, tasks, and addresses in plain text. -/
  github : Bool := true
  /-- Data about the text in front of it. -/
  frontmatter : Bool := false
  /-- Formulas in a text and in blocks. -/
  math : Bool := false
  /-- Components and expressions. They leave no room for HTML, for addresses in brackets, and for code by
  indentation. -/
  components : Bool := false
deriving DecidableEq

/-- The forms in common use. -/
def Extensions.common : Extensions := {}

/-- Components and expressions without the forms in common use. -/
def Extensions.withComponents : Extensions := { github := false, components := true }

end LinkEmbed.Markdown
