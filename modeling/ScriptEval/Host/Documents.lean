import ScriptEval.Runtime
import ScriptEval.Yaml

/-!
# Documents of the program

What the program takes for the decoder of its runtime: documents in YAML 1.1, as bytes in UTF-8.
-/

namespace ScriptEval.Host

/-- How a fault of a document is reported. -/
def decodeFault : Yaml.Fault → DecodeFault
  | .malformed => .malformed "malformed document".toList
  | .number why => .other { kind := "ValueError".toList, message := why.message }
  | .scalar why => .other { kind := why.kind, message := why.message }

/-- The datum of a document in UTF-8. -/
def decode (bytes : List UInt8) : Except DecodeFault Data :=
  match Text.decodeFile bytes with
  | .ok text => (Yaml.read text).mapError decodeFault
  | .error fault => .error (.other { kind := "UnicodeDecodeError".toList, message := fault.message })

end ScriptEval.Host
