import ScriptEval.Platform
import ScriptEval.Text.Digits
import ScriptEval.Unicode.Case

/-!
# Detecting the platform

From what a host says of itself to platform facts: names are brought to lower case and to one name per system and
per architecture. Unknown names are kept.
-/

namespace ScriptEval.Platform

/-- What a host says of itself. -/
structure Machine where
  system : Text
  processor : Text
  byteOrder : Text := "little".toList
  pointerBytes : Nat := 8
  deriving DecidableEq, Repr

/-- Systems with a name of their own in scripts. -/
def systemNames : List (Text × Text) :=
  [("darwin", "macos"), ("win32", "windows"), ("cygwin", "windows"), ("sunos5", "solaris"),
    ("emscripten", "emscripten"), ("wasi", "wasi")].map fun (a, b) => (String.toList a, String.toList b)

/-- Systems whose names may be followed by a version. -/
def versionedSystems : List Text := ["freebsd", "openbsd", "netbsd", "dragonfly", "linux"].map String.toList

def systemName (system : Text) : Text :=
  let system := Unicode.lower system
  (systemNames.lookup system).getD ((versionedSystems.find? (·.isPrefixOf system)).getD system)

def architectureNames : List (Text × Text) :=
  [("amd64", "x86_64"), ("x86_64", "x86_64"), ("x64", "x86_64"), ("i386", "x86"), ("i486", "x86"), ("i586", "x86"),
    ("i686", "x86"), ("x86", "x86"), ("arm64", "aarch64"), ("aarch64", "aarch64"), ("aarch64_be", "aarch64"),
    ("ppc", "powerpc"), ("ppc64", "powerpc64"), ("ppc64le", "powerpc64"), ("mips", "mips"), ("mips64", "mips64"),
    ("s390x", "s390x"), ("sparc64", "sparc64"), ("riscv64", "riscv64"), ("wasm32", "wasm32")].map
    fun (a, b) => (String.toList a, String.toList b)

def architectureName (processor : Text) : Text :=
  let processor := Unicode.lower processor
  if "armv".toList.isPrefixOf processor ∨ processor = "arm".toList then "arm".toList
  else (architectureNames.lookup processor).getD processor

/-- The facts of a host. The byte order is taken as told, and the pointer width is in bits. -/
def detect (m : Machine) : Platform :=
  let os := systemName m.system
  { os
    family := if os = "windows".toList then "windows".toList else "unix".toList
    bit := Text.ofNat (8 * m.pointerBytes)
    arch := architectureName m.processor
    endian := m.byteOrder }

end ScriptEval.Platform
