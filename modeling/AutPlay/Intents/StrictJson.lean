import AutPlay.Lib.JsonGrammar
import AutPlay.Lib.Result

/-!
# The strict scanner of JSON texts

`StrictJsonScanner` of the Android client, which a local intent's payload goes through before it is read.

* `toIntOrNull`      Kotlin's reading of a base-16 number, signs and all;
* `scanString`, `scanNumber`, `scanArray`, `scanObject`     the parts;
* `scanValue`        the values, to the depth that is left;
* `scanDocument`     one value in the whole text.

The offset into the source is what is left of the source.  A loop is given a number of turns, more than
there are units left; `unfinished` would be a loop that needs more.
-/

set_option linter.unusedSectionVars false

namespace AutPlay.Intents

open JsonText Result

inductive LocalIntentPayloadErrorCode
  | malformedJson
  | duplicateProperty
  | loneSurrogate
  | maxNestingExceeded
  deriving DecidableEq, Repr

inductive ScanFault
  | thrown (code : LocalIntentPayloadErrorCode)
  | unfinished
  deriving DecidableEq, Repr

abbrev Scan (α : Type) := Except ScanFault α

def throwPayload {α : Type} (code : LocalIntentPayloadErrorCode) : Scan α := .error (.thrown code)

def malformed {α : Type} : Scan α := throwPayload .malformedJson

def maxNesting : Nat := 32

/-! ## four units after a backslash and a `u` -/

section
variable (digit : Nat → Option Nat)

/-- The value of the digits, if all are. -/
def digitsValue (units : Units) : Option Nat :=
  units.foldlM (fun n c => (digit c).map fun d => n * 16 + d) 0

/-- `toIntOrNull(16)`; four units do not leave the range of an `Int`. -/
def toIntOrNull : Units → Option Int
  | [] => none
  | first :: rest =>
    if first < unit '0' then
      if rest = [] then none
      else if first = unit '-' then (digitsValue digit rest).map fun n => -Int.ofNat n
      else if first = unit '+' then (digitsValue digit rest).map Int.ofNat
      else none
    else (digitsValue digit (first :: rest)).map Int.ofNat

/-- `toChar()` keeps sixteen bits. -/
def toChar (n : Int) : Nat := (n % 65536).toNat

/-- `hex.toIntOrNull(16)?.toChar()` -/
def toIntChar (hex : Units) : Option Nat := (toIntOrNull digit hex).map toChar

end

section
variable (hex : Units → Option Nat)

/-! ## the parts of a value -/

def skipWhitespace (s : Units) : Units := s.dropWhile fun c => IsWs c

def tryConsume (expected : Char) : Units → Option Units
  | [] => none
  | c :: s => if c = unit expected then some s else none

def consume (expected : Char) (s : Units) : Scan Units :=
  match tryConsume expected s with
  | some s => .ok s
  | none => malformed

def scanLiteral (literal : String) (s : Units) : Scan Units :=
  if literal.toList.map unit <+: s then .ok (s.drop literal.toList.length) else malformed

/-- `(?:0|[1-9][0-9]*)` -/
def matchInt : Units → Option Units
  | [] => none
  | c :: s =>
    if c = unit '0' then some s
    else if IsDigit c then some (s.dropWhile fun c => IsDigit c)
    else none

/-- `[0-9]+` -/
def matchDigits : Units → Option Units
  | [] => none
  | c :: s => if IsDigit c then some (s.dropWhile fun c => IsDigit c) else none

/-- `(?:\.[0-9]+)?` -/
def matchFrac (s : Units) : Units :=
  ((tryConsume '.' s).bind matchDigits).getD s

/-- `[+-]?[0-9]+` -/
def matchSigned : Units → Option Units
  | [] => none
  | c :: s => if IsSign c then matchDigits s else matchDigits (c :: s)

/-- `(?:[eE][+-]?[0-9]+)?` -/
def matchExponent : Units → Units
  | [] => []
  | c :: s => if IsExp c then (matchSigned s).getD (c :: s) else c :: s

/-- The number at the front: `-?(?:0|[1-9][0-9]*)(?:\.[0-9]+)?(?:[eE][+-]?[0-9]+)?` -/
def matchNumber (s : Units) : Option Units :=
  (matchInt ((tryConsume '-' s).getD s)).map fun s => matchExponent (matchFrac s)

def scanNumber (s : Units) : Scan Units :=
  match matchNumber s with
  | some s => .ok s
  | none => malformed

def scanHexCodeUnit : Units → Scan (Nat × Units)
  | a :: b :: c :: d :: s =>
    match hex [a, b, c, d] with
    | some u => .ok (u, s)
    | none => malformed
  | _ => malformed

def scanEscape : Units → Scan (Units × Units)
  | [] => malformed
  | c :: s =>
    match simpleEscapes.lookup c with
    | some d => .ok ([d], s)
    | none =>
      if c = unit 'u' then do
        let (first, s) ← scanHexCodeUnit hex s
        if IsHigh first then
          match (tryConsume '\\' s).bind (tryConsume 'u') with
          | none => throwPayload .loneSurrogate
          | some s => do
            let (second, s) ← scanHexCodeUnit hex s
            if IsLow second then return ([first, second], s) else throwPayload .loneSurrogate
        else if IsLow first then throwPayload .loneSurrogate
        else return ([first], s)
      else malformed

/-- The loop of `scanString`; the text that is built comes back with what is left. -/
def scanChars : Nat → Units → Scan (Units × Units)
  | 0, _ => .error .unfinished
  | _ + 1, [] => malformed
  | turns + 1, c :: s =>
    if c = unit '"' then return ([], s)
    else if c = unit '\\' then do
      let (d, s) ← scanEscape hex s
      let (result, s) ← scanChars turns s
      return (d ++ result, s)
    else if c < 0x20 then malformed
    else if IsHigh c then
      match s with
      | [] => throwPayload .loneSurrogate
      | low :: s =>
        if IsLow low then do
          let (result, s) ← scanChars turns s
          return (c :: low :: result, s)
        else throwPayload .loneSurrogate
    else if IsLow c then throwPayload .loneSurrogate
    else do
      let (result, s) ← scanChars turns s
      return (c :: result, s)

def scanString (s : Units) : Scan (Units × Units) := do
  let s ← consume '"' s
  scanChars hex (s.length + 1) s

/-! ## values -/

/-- The loop of `scanArray`. -/
def scanElements (value : Units → Scan Units) : Nat → Units → Scan Units
  | 0, _ => .error .unfinished
  | turns + 1, s => do
    let s ← value s
    let s := skipWhitespace s
    match tryConsume ']' s with
    | some s => return s
    | none =>
      let s ← consume ',' s
      scanElements value turns s

def scanArray (value : Units → Scan Units) (s : Units) : Scan Units := do
  let s ← consume '[' s
  let s := skipWhitespace s
  match tryConsume ']' s with
  | some s => return s
  | none => scanElements value (s.length + 1) s

/-- The loop of `scanObject`, with the names so far. -/
def scanMembers (value : Units → Scan Units) : Nat → List Units → Units → Scan Units
  | 0, _, _ => .error .unfinished
  | turns + 1, names, s => do
    let s := skipWhitespace s
    let (name, s) ← scanString hex s
    if name ∈ names then throwPayload .duplicateProperty
    else
      let s := skipWhitespace s
      let s ← consume ':' s
      let s ← value s
      let s := skipWhitespace s
      match tryConsume '\x7d' s with
      | some s => return s
      | none =>
        let s ← consume ',' s
        scanMembers value turns (name :: names) s

def scanObject (value : Units → Scan Units) (s : Units) : Scan Units := do
  let s ← consume '\x7b' s
  let s := skipWhitespace s
  match tryConsume '\x7d' s with
  | some s => return s
  | none => scanMembers hex value (s.length + 1) [] s

/-- `scanValue(depth)`, with `MAX_NESTING + 1 - depth` levels left. -/
def scanValue : Nat → Units → Scan Units
  | 0, _ => throwPayload .maxNestingExceeded
  | levels + 1, s =>
    let s := skipWhitespace s
    match s with
    | [] => malformed
    | c :: _ =>
      if c = unit '\x7b' then scanObject hex (scanValue levels) s
      else if c = unit '[' then scanArray (scanValue levels) s
      else if c = unit '"' then (scanString hex s).map Prod.snd
      else if c = unit 't' then scanLiteral "true" s
      else if c = unit 'f' then scanLiteral "false" s
      else if c = unit 'n' then scanLiteral "null" s
      else if c = unit '-' ∨ IsDigit c then scanNumber s
      else malformed

/-- `scanDocument`, with what is left of the source when it returns. -/
def scanDocument (source : Units) : Scan Units := do
  let s := skipWhitespace source
  let s ← scanValue hex (maxNesting + 1) s
  let s := skipWhitespace s
  if s ≠ [] then malformed
  else return s

end

end AutPlay.Intents
