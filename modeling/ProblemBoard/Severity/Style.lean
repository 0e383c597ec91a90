import ProblemBoard.Severity.Levels

/-! # How severities are shown

Every severity has a display name and a colour. A configuration gives one style for each level; the
levels that a user has not configured keep their defaults.
-/

namespace ProblemBoard

/-- The display name of a severity and its colour, as hexadecimal red, green and blue. -/
structure Style where
  name : String
  color : String
  deriving DecidableEq, Repr, Inhabited

/-- The styles of all severities. -/
abbrev SeverityConfig := Levels Style

namespace SeverityConfig

def default : SeverityConfig where
  notClassified := ⟨"Not classified", "97AAB3"⟩
  information := ⟨"Information", "7499FF"⟩
  warning := ⟨"Warning", "FFC859"⟩
  average := ⟨"Average", "FFA059"⟩
  high := ⟨"High", "E97659"⟩
  disaster := ⟨"Disaster", "E45959"⟩

/-- The given styles over the defaults; of two styles for one severity the later wins. -/
def ofStyles (styles : List (Severity × Style)) : SeverityConfig := default.setAll styles

@[simp] theorem ofStyles_toList (config : SeverityConfig) : ofStyles config.toList = config :=
  Levels.setAll_toList config default

end SeverityConfig

end ProblemBoard
