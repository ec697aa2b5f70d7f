import ScriptEval.Yaml.Content
import ScriptEval.Yaml.Tokens

/-!
# Documents

Reading a text in YAML 1.1: to tokens, to nodes, to data. The whole text goes through each of these steps before the
next one, so of several faults in it the one of the earliest step is reported.
-/

namespace ScriptEval.Yaml

/-- The datum of a text that is one document. Without a document it is the empty value. -/
def read (t : Text) : Except Fault Data := do
  let ts ← tokens t
  let (root, anchors) ← Node.ofTokens ts
  match root with
  | none => return .null
  | some root => Document.read { root, anchors := anchors.reverse, depth := 4 * ts.length + 8 }

end ScriptEval.Yaml
