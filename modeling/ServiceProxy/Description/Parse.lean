import ServiceProxy.Description.Decode
import ServiceProxy.Json.Reader
import ServiceProxy.Toml.Reader

/-! Descriptions from text. -/

set_option autoImplicit false

namespace ServiceProxy

namespace Json

variable {σ α : Type}

/-- The text is read as a stream: what comes first in it decides, and what follows the value is
looked at last. -/
def parse (shape : Shape σ α) (text : String) : Decoded α := do
  let reading := read text
  let result ← shape.read .json reading.datum
  if reading.isWhole then return result else .malformed

end Json

namespace Toml

variable {σ α : Type}

/-- A malformed text is refused before any of its content is looked at. -/
def parse (shape : Shape σ α) (text : String) : Decoded α :=
  match read? text with
  | none => .malformed
  | some datum => shape.read .toml datum

end Toml

namespace Description

def parse (format : Format) (text : String) : Decoded Description :=
  match format with
  | .json => Json.parse shape text
  | .toml => Toml.parse shape text

end Description

end ServiceProxy
