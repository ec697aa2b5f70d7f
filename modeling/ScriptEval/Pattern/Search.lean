import ScriptEval.Pattern.Node

/-!
# Searching

A pattern is matched by trying its ways in order: the first alternative before the second, and a repetition more
often or less often first as its greed says. `run` is given what is to be matched after the node and returns the state
after all of it, for the first way in which all of it matches; so what follows a node decides which of its ways is
taken.

Repetitions end: beyond the least number of times, a round that starts where the round before started is not tried.
-/

namespace ScriptEval.Pattern

/-- Where a match stands: the place in the subject, and for each group the places where it began and ended last. -/
structure State where
  place : Nat
  begins : List (Nat × Nat) := []
  ends : List (Nat × Nat) := []
  deriving DecidableEq, Repr

/-- What is to be matched after a node. -/
abbrev Next := State → Option State

namespace State

def setBegin (s : State) (index : Nat) : State :=
  { s with begins := (index, s.place) :: s.begins.filter (·.1 != index) }

def setEnd (s : State) (index : Nat) : State := { s with ends := (index, s.place) :: s.ends.filter (·.1 != index) }

/-- The first and the last place of what a group matched. A group that began anew after its end has matched nothing
so far. -/
def group? (s : State) (index : Nat) : Option (Nat × Nat) :=
  match s.begins.lookup index, s.ends.lookup index with
  | some a, some b => if a ≤ b then some (a, b) else none
  | _, _ => none

end State

/-- Whether a test of a position holds. -/
def Anchor.holds (subject : Array Char) (place : Nat) : Anchor → Bool
  | textStart => place == 0
  | textEnd => place == subject.size
  | lastLineEnd => place == subject.size || (place + 1 == subject.size && subject[place]? == some '\n')
  | lineStart => place == 0 || subject[place - 1]? == some '\n'
  | lineEnd => place == subject.size || subject[place]? == some '\n'
  | wordBoundary inverted ascii =>
    let isWord (c : Option Char) : Bool := c.any fun c => Class.word.has ascii c
    let before := place != 0 && isWord subject[place - 1]?
    !subject.isEmpty && ((before != isWord subject[place]?) != inverted)

/-- The state after one character that passes a test. -/
def step (subject : Array Char) (t : CharTest) (s : State) : Option State :=
  match subject[s.place]? with
  | some c => if t.passes c then some { s with place := s.place + 1 } else none
  | none => none

/-- The number of characters from `place` on that pass a test, up to `most`. -/
def countPassing (subject : Array Char) (t : CharTest) (place : Nat) : Nat → Nat
  | 0 => 0
  | most + 1 =>
    match subject[place]? with
    | some c => if t.passes c then countPassing subject t (place + 1) most + 1 else 0
    | none => 0

/-- The first of the counts `least`, `least + 1`, …, `least + extra` that `next` goes on from. -/
def firstUpward (next : Nat → Option State) (least : Nat) : Nat → Option State
  | 0 => next least
  | extra + 1 => match next least with
    | some s => some s
    | none => firstUpward next (least + 1) extra

/-- The first of the counts `least + extra`, …, `least + 1`, `least` that `next` goes on from. -/
def firstDownward (next : Nat → Option State) (least : Nat) : Nat → Option State
  | 0 => next least
  | extra + 1 => match next (least + extra + 1) with
    | some s => some s
    | none => firstDownward next least extra

/-- A repetition of a test of one character. -/
def repeatTest (subject : Array Char) (t : CharTest) (least : Nat) (most : Option Nat) (greed : Greed) (s : State)
    (next : Next) : Option State :=
  let room := subject.size - s.place
  let count := countPassing subject t s.place (match most with | some m => min m room | none => room)
  let goOn (n : Nat) := next { s with place := s.place + n }
  if count < least then none
  else match greed with
    | .greedy => firstDownward goOn least (count - least)
    | .lazy => firstUpward goOn least (count - least)
    | .possessive => goOn count

/-- A repetition after `count` rounds, the last one beyond the least number having started at `last`. `rounds` is a
bound of the rounds to come. -/
def rounds (body : State → Next → Option State) (least : Nat) (most : Option Nat) (greed : Greed) (next : Next) :
    (rounds count : Nat) → (last : Option Nat) → Next
  | 0, _, _, _ => none
  | left + 1, count, last, s =>
    if count < least then
      match greed with
      | .possessive => (body s some).bind (rounds body least most greed next left (count + 1) last)
      | _ => body s (rounds body least most greed next left (count + 1) last)
    else
      let more := most.all (count < ·) && last != some s.place
      let again := rounds body least most greed next left (count + 1) (some s.place)
      match greed with
      | .greedy =>
        match (if more then body s again else none) with
        | some r => some r
        | none => next s
      | .lazy =>
        match next s with
        | some r => some r
        | none => if more then body s again else none
      | .possessive =>
        match (if more then body s some else none) with
        | some s' => again s'
        | none => next s

/-- Whether what is at `place` is the same as the `count` characters at `start`. -/
def sameText (subject : Array Char) (mode : CaseMode) (start place : Nat) : Nat → Bool
  | 0 => true
  | count + 1 =>
    match subject[start]?, subject[place]? with
    | some a, some b =>
      mode.lower a.toNat == mode.lower b.toNat && sameText subject mode (start + 1) (place + 1) count
    | _, _ => false

/-- Matches a node and then `next`. -/
def run (subject : Array Char) : Node → State → Next → Option State
  | .empty, s, next => next s
  | .test t, s, next => (step subject t s).bind next
  | .anchor a, s, next => if a.holds subject s.place then next s else none
  | .seq a b, s, next => run subject a s fun s' => run subject b s' next
  | .alt a b, s, next =>
    match run subject a s next with
    | some r => some r
    | none => run subject b s next
  | .repeat least most greed _ body, s, next =>
    match body with
    | .test t => repeatTest subject t least most greed s next
    | body =>
      rounds (fun s k => run subject body s k) least most greed next (least + (subject.size - s.place) + 2) 0 none s
  | .group index body, s, next => run subject body (s.setBegin index) fun s' => next (s'.setEnd index)
  | .atomic body, s, next => (run subject body s some).bind next
  | .lookAhead negated body, s, next =>
    match run subject body s some with
    | some s' => if negated then none else next { s' with place := s.place }
    | none => if negated then next s else none
  | .lookBehind negated (width, _) body, s, next =>
    let found := if s.place < width then none else run subject body { s with place := s.place - width } some
    match found with
    | some s' => if negated then none else next { s' with place := s.place }
    | none => if negated then next s else none
  | .backref index mode _, s, next =>
    match s.group? index with
    | some (a, b) =>
      if sameText subject mode a s.place (b - a) then next { s with place := s.place + (b - a) } else none
    | none => none
  | .conditional index yes no, s, next =>
    match s.group? index with
    | some _ => run subject yes s next
    | none => run subject no s next

/-- Whether a pattern matches somewhere in a text, at one of the `left` places before its end or at the end. -/
def matchesFrom (subject : Array Char) (n : Node) : (left : Nat) → Bool
  | 0 => (run subject n { place := subject.size } some).isSome
  | left + 1 =>
    (run subject n { place := subject.size - (left + 1) } some).isSome || matchesFrom subject n left

/-- Whether a pattern matches somewhere in a text. -/
def Node.matchesIn (n : Node) (t : Text) : Bool := matchesFrom t.toArray n t.length

end ScriptEval.Pattern
