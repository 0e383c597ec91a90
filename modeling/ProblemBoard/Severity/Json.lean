import ProblemBoard.Json.Decoder
import ProblemBoard.Severity.Bucket
import ProblemBoard.Severity.Style

/-! # Severities, buckets and styles in JSON

A severity is written as its number. Buckets and configurations are objects keyed by these numbers;
all six levels are always written, and on reading each of them may be missing.
-/

namespace ProblemBoard

def Severity.toJson (severity : Severity) : Json := .nat severity.level

/-- An object with one member for each severity. -/
def Levels.toJson {α : Type} (writeValue : α → Json) (levels : Levels α) : Json :=
  .object (levels.toList.map fun entry => (Decimal.natText entry.1.level, writeValue entry.2))

namespace Bucket

def toJson (bucket : Bucket) : Json := Levels.toJson .nat bucket

/-- Slots that are missing count no problems. -/
def decoder : Decoder Bucket := .levels empty (.natBelow countLimit)

end Bucket

namespace Style

def toJson (style : Style) : Json :=
  .object [("name", .string style.name), ("color", .string style.color)]

def fields : Fields Style := Style.mk <$> .required "name" .string <*> .required "color" .string

end Style

namespace SeverityConfig

def toJson (config : SeverityConfig) : Json := Levels.toJson Style.toJson config

/-- Levels that are missing keep their defaults. -/
def decoder : Decoder SeverityConfig := .levels default Style.fields.decoder

end SeverityConfig

end ProblemBoard
