import ScriptEval.Text.Basic

/-!
# Platform facts

What scripts may ask about the platform: the operating system and its family, the pointer width in bits, the
processor architecture and the byte order, each a token in lower case.
-/

namespace ScriptEval

structure Platform where
  os : Text := "linux".toList
  family : Text := "unix".toList
  bit : Text := "64".toList
  arch : Text := "x86_64".toList
  endian : Text := "little".toList
  deriving DecidableEq, Repr

/-- The facts by name. -/
inductive Fact
  | os
  | family
  | bit
  | arch
  | endian
  deriving DecidableEq, Repr

namespace Fact

def all : List Fact := [os, family, bit, arch, endian]

/-- The name of a fact in scripts and reports. -/
def name : Fact → String
  | os => "os"
  | family => "family"
  | bit => "bit"
  | arch => "arch"
  | endian => "endian"

end Fact

/-- The value of a fact. -/
def Platform.get (p : Platform) : Fact → Text
  | .os => p.os
  | .family => p.family
  | .bit => p.bit
  | .arch => p.arch
  | .endian => p.endian

end ScriptEval
