import ScriptEval.Text.Digits
import ScriptEval.Unicode.Names.Aliases
import ScriptEval.Unicode.Names.Page0
import ScriptEval.Unicode.Names.Page1
import ScriptEval.Unicode.Names.Page10
import ScriptEval.Unicode.Names.Page16
import ScriptEval.Unicode.Names.Page1D
import ScriptEval.Unicode.Names.Page1F
import ScriptEval.Unicode.Names.Page2
import ScriptEval.Unicode.Names.PageF

/-!
# Names of characters

Finding a character by its name. Most names stand in tables, as records in the order of code points: a digit tells how
many words a name shares with the one before it, and the words after that follow. A record that starts with `@` gives
the code point of the next one. Names of ideographs contain their code points, and names of Hangul syllables are made
of those of their sounds; only these two kinds are written in capitals and nothing else.
-/

namespace ScriptEval.Unicode

/-! ## Tables -/

/-- The number that a hexadecimal numeral in capitals denotes. -/
def hexNumeral? (t : Text) : Option Nat :=
  t.foldlM (fun n c =>
    if c.isDigit then some (16 * n + (c.toNat - 48))
    else if 'A' ≤ c ∧ c ≤ 'F' then some (16 * n + (c.toNat - 55))
    else none) 0

/-- The records of a table. -/
def recordsOf (table : String) : List Text :=
  (Text.splitOn '\n' table.toList).flatMap (Text.splitOn ';')

/-- The code point of the name with these words; `code` is that of the first record, and `previous` the words of the
name before it. -/
def findName (name : List Text) (code : Nat) (previous : List Text) : List Text → Option Nat
  | [] => none
  | [] :: records => findName name code previous records
  | ('@' :: numeral) :: records => findName name ((hexNumeral? numeral).getD 0) previous records
  | (shared :: words) :: records =>
    let current := previous.take (shared.toNat - 48) ++ Text.splitOn ' ' words
    if current = name then some code else findName name (code + 1) current records

def nameTables : List String :=
  [namesPage0, namesPage1, namesPage2, namesPageF, namesPage10, namesPage16, namesPage1D, namesPage1F, nameAliases]

/-! ## Names that contain the code point -/

/-- The text after a beginning. -/
def after? (start : String) (t : Text) : Option Text :=
  if start.toList.isPrefixOf t then some (t.drop start.length) else none

/-- The code point of a name that is a beginning and the code point in at least four digits. -/
def numbered? (start : String) (ranges : List (Nat × Nat)) (name : Text) : Option Nat := do
  let numeral ← after? start name
  let code ← hexNumeral? numeral
  guard (numeral.length = (if code < 0x10000 then 4 else 5) ∧ ranges.any fun (a, b) => a ≤ code && code ≤ b)
  return code

def unifiedIdeographs : List (Nat × Nat) :=
  [(0x3400, 0x4dbf), (0x4e00, 0x9fff), (0x20000, 0x2a6df), (0x2a700, 0x2b738), (0x2b740, 0x2b81d), (0x2b820, 0x2cea1),
    (0x2ceb0, 0x2ebe0), (0x30000, 0x3134a)]

/-- The other kinds of names of this form. -/
def numberedKinds : List (String × List (Nat × Nat)) :=
  [("CJK COMPATIBILITY IDEOGRAPH-", [(0xf900, 0xfa6d), (0xfa70, 0xfad9), (0x2f800, 0x2fa1d)]),
    ("KHITAN SMALL SCRIPT CHARACTER-", [(0x18b00, 0x18cd5)]), ("NUSHU CHARACTER-", [(0x1b170, 0x1b2fb)])]

/-! ## Hangul syllables -/

def initialSounds : List String :=
  ["G", "GG", "N", "D", "DD", "R", "M", "B", "BB", "S", "SS", "", "J", "JJ", "C", "K", "T", "P", "H"]

def vowels : List String :=
  ["A", "AE", "YA", "YAE", "EO", "E", "YEO", "YE", "O", "WA", "WAE", "OE", "YO", "U", "WEO", "WE", "WI", "YU", "EU",
    "YI", "I"]

def finalSounds : List String :=
  ["", "G", "GG", "GS", "N", "NJ", "NH", "D", "L", "LG", "LM", "LB", "LS", "LT", "LP", "LH", "M", "B", "BS", "S", "SS",
    "NG", "J", "C", "K", "T", "P", "H"]

/-- The number of the longest sound that a text starts with, and the text after it. -/
def takeSound? (sounds : List String) (t : Text) : Option (Nat × Text) :=
  let found := sounds.zipIdx.filterMap fun (sound, i) => (after? sound t).map fun rest => (i, rest)
  found.foldl (fun best s => match best with
    | none => some s
    | some b => if s.2.length < b.2.length then some s else some b) none

/-- The code point of a Hangul syllable. -/
def syllable? (name : Text) : Option Nat := do
  let sounds ← after? "HANGUL SYLLABLE " name
  let (initial, rest) ← takeSound? initialSounds sounds
  let (vowel, rest) ← takeSound? vowels rest
  let (final, rest) ← takeSound? finalSounds rest
  guard rest.isEmpty
  return 0xac00 + (initial * vowels.length + vowel) * finalSounds.length + final

/-- The code point with a name; letter case does not matter but in names of unified ideographs and Hangul syllables. -/
def named? (name : Text) : Option Nat :=
  let capitals := name.map Char.toUpper
  let words := Text.splitOn ' ' capitals
  syllable? name
    <|> numbered? "CJK UNIFIED IDEOGRAPH-" unifiedIdeographs name
    <|> numberedKinds.findSome? (fun (start, ranges) => numbered? start ranges capitals)
    <|> nameTables.findSome? fun table => findName words 0 [] (recordsOf table)

end ScriptEval.Unicode
