import ScriptEval.Text.Basic
import ScriptEval.Unicode.Letters

/-!
# Requests on the command line

What the words of a command line ask for. The command line is read by a strict left-to-right grammar:

* Words that start with `-` are flags, but for a lone `-`, negative numbers, words with spaces and all words after a
  `--`. A long flag may be shortened as long as it stays unambiguous, and the value of a flag is the next word or
  follows in the same word: `-fgui`, `-f=gui`, `--feature=gui`. Flags without values may share a word: `-vfgui`.
* The first other word is the command, and it takes all words after it. A command knows no flags but the one for help.

A request for help is answered as soon as it is read; whatever else breaks the grammar is a usage error.
-/

namespace ScriptEval.CommandLine

inductive Command
  | call (name : Text) (args : List Text)
  | features (clauses : List Text)
  | platform
  | list
  deriving DecidableEq, Repr

structure Request where
  /-- The features enabled by flags, in order. -/
  features : List Text := []
  /-- The options file. -/
  config : Option Text := none
  verbose : Bool := false
  command : Command
  deriving DecidableEq, Repr

/-- Why a command line is not carried out. -/
inductive Stop
  /-- It asks for help. -/
  | help
  /-- It breaks the grammar. -/
  | usage
  deriving DecidableEq, Repr

/-! ## Kinds of words -/

inductive Flag
  | feature
  | config
  | verbose
  | help
  deriving DecidableEq, Repr

def Flag.takesValue : Flag → Bool
  | .feature | .config => true
  | .verbose | .help => false

/-- The names of flags. -/
abbrev FlagNames := List (Text × Flag)

/-- The flags before the command. -/
def mainFlags : FlagNames :=
  [("-h", .help), ("--help", .help), ("-f", .feature), ("--feature", .feature), ("-c", .config), ("--config", .config),
    ("-v", .verbose), ("--verbose", .verbose)].map fun (name, flag) => (String.toList name, flag)

/-- The flags after the command. -/
def commandFlags : FlagNames := ["-h", "--help"].map fun name => (String.toList name, Flag.help)

/-- What comes with a flag in the same word. -/
structure Attached where
  value : Text
  /-- Whether an equals sign stands before it. -/
  afterEquals : Bool
  deriving DecidableEq, Repr

inductive Kind
  | word
  | separator
  | flag (f : Flag) (long : Bool) (attached : Option Attached)
  | unknownFlag
  deriving DecidableEq, Repr

def isLong (name : Text) : Bool := "--".toList.isPrefixOf name

/-- The flags that a word can be short for, or, with a single dash, the flag that it starts with. -/
def readings (known : FlagNames) (w : Text) : List Kind :=
  if isLong w then
    let (start, value) := Text.cutAtChar '=' w
    (known.filter fun (name, _) => start.isPrefixOf name).map fun (_, f) =>
      .flag f true (value.map fun value => { value, afterEquals := true })
  else
    known.filterMap fun (name, f) =>
      if name = w.take 2 then some (.flag f false (some { value := w.drop 2, afterEquals := false })) else none

def isDecimalDigit (c : Char) : Bool := (Unicode.decimalDigit? c).isSome

/-- Whether a word is a negative number, with or without a decimal point. -/
def isNegativeNumber : Text → Bool
  | '-' :: number =>
    let number := if number.getLast? = some '\n' then number.dropLast else number
    match number.span isDecimalDigit with
    | (whole, []) => !whole.isEmpty
    | (_, '.' :: fraction) => !fraction.isEmpty && fraction.all isDecimalDigit
    | _ => false
  | _ => false

/-- The kind of a word before any `--`. -/
def kind (known : FlagNames) (w : Text) : Except Stop Kind :=
  if w.head? ≠ some '-' then .ok .word
  else match known.lookup w with
  | some f => .ok (.flag f (isLong w) none)
  | none =>
    if w.length = 1 then .ok .word
    else
      let (start, value) := Text.cutAtChar '=' w
      match known.lookup start, value with
      | some f, some value => .ok (.flag f (isLong start) (some { value, afterEquals := true }))
      | _, _ => match readings known w with
        | [k] => .ok k
        | [] => .ok (if isNegativeNumber w || w.contains ' ' then .word else .unknownFlag)
        | _ => .error .usage

/-- The words of a command line with their kinds. -/
def kinds (known : FlagNames) : List Text → Except Stop (List (Text × Kind))
  | [] => .ok []
  | w :: ws =>
    if w = ['-', '-'] then .ok ((w, .separator) :: ws.map fun w => (w, .word))
    else do return (w, ← kind known w) :: (← kinds known ws)

/-! ## Flags -/

/-- A flag as given, with its value if it takes one. -/
inductive Given
  | flag (f : Flag) (value : Text)
  /-- A letter in a word of flags that is none. -/
  | unknown
  deriving DecidableEq, Repr

/-- The flags given by one word. `next?` is the word after it, if that can be a value; whether it is taken is told,
too. -/
def expand (known : FlagNames) (next? : Option Text) (f : Flag) (long : Bool) :
    (attached : Option Attached) → Except Stop (List Given × Bool)
  | none =>
    if f.takesValue then
      match next? with
      | some value => .ok ([.flag f value], true)
      | none => .error .usage
    else .ok ([.flag f []], false)
  | some { value, afterEquals } =>
    if f.takesValue then .ok ([.flag f value], false)
    else match long, value with
      | false, c :: rest =>
        if afterEquals ∨ c = '-' then .error .usage
        else match known.lookup ['-', c] with
          | none => .ok ([.flag f [], .unknown], false)
          | some f' => do
            let (more, taken) ← match rest with
              | [] => expand known next? f' false none
              | '=' :: value => expand known next? f' false (some { value, afterEquals := true })
              | c :: cs => expand known next? f' false (some { value := c :: cs, afterEquals := false })
            return (.flag f [] :: more, taken)
      | _, _ => .error .usage
termination_by attached => match attached with
  | none => 0
  | some a => a.value.length + 1

/-! ## Commands -/

/-- The words without the first `--` among them. -/
def dropSeparator (ws : List Text) : List Text := ws.erase ['-', '-']

/-- Answers the flags after a command: the first request for help, if no flag before it is misused. -/
def answerFlags : List (Text × Kind) → Except Stop Unit
  | [] => .ok ()
  | (_, .flag f long attached) :: rest => do
    let (given, _) ← expand commandFlags none f long attached
    if given.contains (.flag .help []) then throw .help
    answerFlags rest
  | _ :: rest => answerFlags rest

/-- The words of a command by themselves. Unknown flags are usage errors, but only after requests for help. -/
def plainWords (ws : List Text) : Except Stop (List (Text × Kind)) := do
  let ks ← kinds commandFlags ws
  answerFlags ks
  if ks.any (·.2 = .unknownFlag) then throw .usage
  return ks

/-- The name of a function and its arguments; a `--` may stand at either. -/
def callWords (ws : List (Text × Kind)) : Except Stop Command :=
  let texts := ws.map (·.1)
  let first := match ws with
    | (_, .separator) :: (_, .word) :: _ => 2
    | (_, .word) :: (_, .separator) :: _ => 2
    | _ => 1
  match dropSeparator (texts.take first), (ws.take first).any (·.2 = .word) with
  | [name], true => .ok (.call name (dropSeparator (texts.drop first)))
  | _, _ => .error .usage

/-- The command that a name and words ask for. -/
def command (name : Text) (ws : List Text) : Except Stop Command :=
  if name = "call".toList then do callWords (← plainWords ws)
  else if name = "features".toList then do
    let ws ← plainWords ws
    if ws.any (·.2 = .word) then return .features (dropSeparator (ws.map (·.1))) else throw .usage
  else if name = "platform".toList then do
    if (← plainWords ws).isEmpty then return .platform else throw .usage
  else if name = "list".toList then do
    if (← plainWords ws).isEmpty then return .list else throw .usage
  else .error .usage

/-! ## The whole command line -/

/-- The flags before the command, as far as they are read. -/
structure Settings where
  features : List Text := []
  config : Option Text := none
  verbose : Bool := false
  /-- Whether there were words that are no flags. -/
  unknown : Bool := false
  deriving DecidableEq, Repr

/-- Takes over a flag. -/
def Settings.take (s : Settings) : Given → Except Stop Settings
  | .flag .feature value => .ok { s with features := s.features ++ [value] }
  | .flag .config value => .ok { s with config := some value }
  | .flag .verbose _ => .ok { s with verbose := true }
  | .flag .help _ => .error .help
  | .unknown => .ok { s with unknown := true }

/-- The word that can be the value of a flag before it. -/
def valueWord : List (Text × Kind) → Option Text
  | (w, .word) :: _ => some w
  | _ => none

/-- Reads flags up to the command, and the command. -/
def requestFrom (s : Settings) : List (Text × Kind) → Except Stop Request
  | [] => .error .usage
  | (_, .separator) :: _ => .error .usage
  | (name, .word) :: rest => do
    let command ← command name (rest.map (·.1))
    if s.unknown then throw .usage
    return { features := s.features, config := s.config, verbose := s.verbose, command }
  | (_, .unknownFlag) :: rest => requestFrom { s with unknown := true } rest
  | (_, .flag f long attached) :: rest => do
    let (given, taken) ← expand mainFlags (valueWord rest) f long attached
    let s ← given.foldlM Settings.take s
    requestFrom s (if taken then rest.drop 1 else rest)
termination_by ws => ws.length
decreasing_by
  · simp
  · cases taken
    · simp
    · grind

/-- The request that a command line makes. -/
def Request.read (argv : List Text) : Except Stop Request := do requestFrom {} (← kinds mainFlags argv)

end ScriptEval.CommandLine
