import ScriptEval.Context
import ScriptEval.Functions.Standard

/-!
# Sessions

Any number of contexts on one host. A context on the facts of the host works with the registry that all such contexts
share, and so do calls outside of contexts; a context on other facts has a registry of its own, and so has one that is
given its services. What is registered in the shared registry is there for all who use it.
-/

namespace ScriptEval

/-- A context with its registry, `none` standing for the shared one. -/
structure Session.Member where
  context : Context
  registry : Option Registry := none

structure Session where
  world : World
  shared : Registry
  members : List Session.Member := []

namespace Session

/-- The session without contexts on a host. -/
def start (world : World) : Session := { world, shared := .standard (world.services world.platform) }

/-- The registry of a context: the shared one on the facts of the host, else one of its own. -/
def registryFor (world : World) (platform : Platform) : Option Registry :=
  if platform = world.platform then none else some (.standard (world.services platform))

/-- The session with one more context. Without facts it is on those of the host. -/
def addContext (s : Session) (platform : Option Platform) (options : Options) (collected : List Text := []) : Session :=
  let platform := platform.getD s.world.platform
  { s with members := s.members ++
    [{ context := { options, platform, collected }, registry := registryFor s.world platform }] }

/-- The session with one more context, which has the standard functions with the given services. -/
def addContextWith (s : Session) (services : Services) (platform : Option Platform) (options : Options)
    (collected : List Text := []) : Session :=
  { s with members := s.members ++
    [{ context := { options, platform := platform.getD s.world.platform, collected },
       registry := some (.standard services) }] }

/-- The registry that a context uses. -/
def registry (s : Session) (i : Nat) : Registry := ((s.members[i]?).bind (·.registry)).getD s.shared

/-- The context of a number. -/
def context (s : Session) (i : Nat) : Context := ((s.members[i]?).map (·.context)).getD {}

/-- The session with a context changed. -/
def setContext (s : Session) (i : Nat) (c : Context) : Session :=
  { s with members := s.members.modify i fun m => { m with context := c } }

/-- Registers a function in the registry that a context uses. -/
def register (s : Session) (i : Nat) (f : Function) : Session :=
  match s.members[i]? with
  | none => s
  | some { registry := none, .. } => { s with shared := s.shared.register f }
  | some { registry := some r, .. } =>
    { s with members := s.members.modify i fun m => { m with registry := some (r.register f) } }

/-- Calls a function in a context. -/
def call (s : Session) (i : Nat) (name : Text) (args : List Value) : Outcome := (s.registry i).invoke s.world name args

/-- Calls a function outside of all contexts. -/
def callShared (s : Session) (name : Text) (args : List Value) : Outcome := s.shared.invoke s.world name args

/-- Whether a directive is active in a context. -/
def isActive (s : Session) (i : Nat) (directive : List Clause) : Session × Except Failure Bool :=
  let (c, active) := (s.context i).isActive directive
  (s.setContext i c, active)

/-- Enables more features in a context. -/
def addFeatures (s : Session) (i : Nat) (names : List Text) : Session :=
  s.setContext i ((s.context i).addFeatures names)

end Session

end ScriptEval
