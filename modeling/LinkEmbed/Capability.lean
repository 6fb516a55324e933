import LinkEmbed.EmbedError

/-!
# Capabilities

What a transformer can say about a URL: the same for all, or something computed from it.
-/

namespace LinkEmbed

/-- A constant, or a function of the URL. -/
inductive Capability (α : Type) where
  | constant (value : α)
  | computed (answer : Url → Outcome α)

namespace Capability

variable {α : Type}

/-- The answer for a URL. -/
def evaluate : Capability α → Url → Outcome α
  | .constant a, _ => .value a
  | .computed f, u => f u

/-- Whether the answer is the same for all URLs by construction. -/
def isConstant : Capability α → Bool
  | .constant _ => true
  | .computed _ => false

/-- The capability as text. -/
def text (value : α → String) : Capability α → String
  | .constant a => "Constant(" ++ value a ++ ")"
  | .computed _ => "Computed(..)"

end Capability

end LinkEmbed
