import Stepflow.Json
import Stepflow.Json.Encoding

/-!
# Reading JSON texts

A recursive descent over the characters of a text. A reader takes the rest of the text
and returns a value with what it leaves, which is strictly shorter; that is why the
descent ends. It fails with a `Stop`: a cause and the rest of the text at which it shows.
`read` turns a stop into a `ReadError`, which knows the offset in the whole text.

Beyond the standard the words `NaN`, `Infinity` and `-Infinity` are numbers, an integer
has at most `Numeral.maxDigits` digits, lists and objects nest no deeper than the caller
allows, and the last of equally named fields wins.
-/

namespace Stepflow.Json

/-- What is wrong with a text. -/
inductive Cause where
  | value
  | name
  | colon
  | comma
  | unterminated
  | control
  | escape
  | codeUnit
  | extra
  | mark
deriving DecidableEq, Repr

def Cause.message : Cause → String
  | .value => "Expecting value"
  | .name => "Expecting property name enclosed in double quotes"
  | .colon => "Expecting ':' delimiter"
  | .comma => "Expecting ',' delimiter"
  | .unterminated => "Unterminated string starting at"
  | .control => "Invalid control character at"
  | .escape => "Invalid \\escape"
  | .codeUnit => "Invalid \\uXXXX escape"
  | .extra => "Extra data"
  | .mark => "Unexpected UTF-8 BOM (decode using utf-8-sig)"

inductive Container where
  | list
  | object
deriving DecidableEq, Repr

def Container.name : Container → String
  | .list => "array"
  | .object => "object"

/-- Why reading stopped: a fault at the front of a rest of the text, a numeral with too many
digits, or a container that opens a level too many. -/
inductive Stop where
  | fault (cause : Cause) (rest : List Char)
  | overlong (numeral : Numeral.Overlong)
  | tooDeep (container : Container)

/-- What a reader leaves of `s`: strictly less. -/
abbrev Rest (s : List Char) := { r : List Char // r.length < s.length }

/-- What skipping leaves of `s`. -/
abbrev Tail (s : List Char) := { r : List Char // r.length ≤ s.length }

theorem length_dropWhile_le (p : Char → Bool) (s : List Char) :
    (s.dropWhile p).length ≤ s.length := by
  induction s with
  | nil => simp
  | cons c s ih =>
    rw [List.dropWhile_cons]
    split
    · exact Nat.le_succ_of_le ih
    · exact Nat.le_refl _

/-- The rest behind the characters that satisfy `p`. -/
def behind (p : Char → Bool) (s : List Char) : Tail s :=
  ⟨s.dropWhile p, length_dropWhile_le p s⟩

/-- The characters that may stand between tokens. -/
def isGap (c : Char) : Bool :=
  c == ' ' || c == '\t' || c == '\n' || c == '\r'

/-- The rest behind the gap in front of a token. -/
def skip (s : List Char) : Tail s :=
  behind isGap s

/-! ## Texts -/

def hexValue? (c : Char) : Option Nat :=
  if '0' ≤ c && c ≤ '9' then some (c.toNat - '0'.toNat)
  else if 'a' ≤ c && c ≤ 'f' then some (c.toNat - 'a'.toNat + 10)
  else if 'A' ≤ c && c ≤ 'F' then some (c.toNat - 'A'.toNat + 10)
  else none

/-- The code unit written by four hexadecimal digits. -/
def hex4? (a b c d : Char) : Option Nat := do
  let a ← hexValue? a
  let b ← hexValue? b
  let c ← hexValue? c
  let d ← hexValue? d
  return ((a * 16 + b) * 16 + c) * 16 + d

def letterEscape? : Char → Option Char
  | '"' => some '"'
  | '\\' => some '\\'
  | '/' => some '/'
  | 'b' => some '\x08'
  | 'f' => some '\x0c'
  | 'n' => some '\n'
  | 'r' => some '\r'
  | 't' => some '\t'
  | _ => none

/-- The code unit of an escape from its letter `u` on. The closing quote is part of the
demand: at least one character must follow the digits. -/
def codeUnit (s : List Char) : Except Stop (Nat × Rest s) :=
  match s with
  | _ :: a :: b :: c :: d :: e :: rest =>
    match hex4? a b c d with
    | some unit => .ok (unit, ⟨e :: rest, by simp only [List.length_cons]; omega⟩)
    | none => .error (.fault .codeUnit s)
  | _ => .error (.fault .codeUnit s)

/-- The spelling of an escape from its letter `u` on. Two escapes that form a surrogate pair
are one code point; the second is looked at only if it can be complete. -/
def unicodeEscape (s : List Char) : Except Stop (List Char × Rest s) := do
  let (high, ⟨rest, shorter⟩) ← codeUnit s
  if 0xD800 ≤ high && high < 0xDC00 then
    match rest, shorter with
    | '\\' :: 'u' :: a :: b :: c :: d :: e :: more, shorter =>
      let (low, ⟨left, shorter'⟩) ← codeUnit ('u' :: a :: b :: c :: d :: e :: more)
      if 0xDC00 ≤ low && low < 0xE000 then
        return (Text.ofCodePoint (0x10000 + (high - 0xD800) * 0x400 + (low - 0xDC00)),
          ⟨left, by simp only [List.length_cons] at shorter shorter'; omega⟩)
      else
        return (Text.ofCodePoint high, ⟨_, shorter⟩)
    | rest, shorter => return (Text.ofCodePoint high, ⟨rest, shorter⟩)
  else
    return (Text.ofCodePoint high, ⟨rest, shorter⟩)

/-- The characters of a text up to its closing quote. `whole` starts at the opening quote,
where an unterminated text is reported. -/
def textBody (whole : List Char) (s : List Char) : Except Stop (List Char × Rest s) :=
  match s with
  | [] => .error (.fault .unterminated whole)
  | '"' :: rest => .ok ([], ⟨rest, Nat.lt_succ_self _⟩)
  | '\\' :: [] => .error (.fault .unterminated whole)
  | '\\' :: 'u' :: rest => do
    let (c, ⟨left, shorter⟩) ← unicodeEscape ('u' :: rest)
    let (body, ⟨left', shorter'⟩) ← textBody whole left
    return (c ++ body, ⟨left', by simp only [List.length_cons] at *; omega⟩)
  | '\\' :: letter :: rest =>
    match letterEscape? letter with
    | none => .error (.fault .escape s)
    | some c => do
      let (body, ⟨left, shorter⟩) ← textBody whole rest
      return (c :: body, ⟨left, by simp only [List.length_cons]; omega⟩)
  | c :: rest =>
    if c.toNat < 0x20 then .error (.fault .control s)
    else do
      let (body, ⟨left, shorter⟩) ← textBody whole rest
      return (c :: body, ⟨left, by simp only [List.length_cons]; omega⟩)
termination_by s.length
decreasing_by all_goals simp only [List.length_cons] at *; omega

/-! ## Numbers -/

/-- The integer digits at the front: a zero, or digits that start with another one. -/
def wholeDigits? (s : List Char) : Option (List Char × Rest s) :=
  match s with
  | [] => none
  | c :: rest =>
    if c == '0' then some (['0'], ⟨rest, Nat.lt_succ_self _⟩)
    else if Text.isAsciiDigit c then
      let left := behind Text.isAsciiDigit rest
      some (c :: rest.takeWhile Text.isAsciiDigit, ⟨left.1, Nat.lt_succ_of_le left.2⟩)
    else none

/-- The fraction digits at the front; none unless a point and a digit are there. -/
def fractionDigits (s : List Char) : List Char × Tail s :=
  match s with
  | '.' :: rest =>
    let digits := rest.takeWhile Text.isAsciiDigit
    if digits.isEmpty then ([], ⟨_, Nat.le_refl _⟩)
    else
      let left := behind Text.isAsciiDigit rest
      (digits, ⟨left.1, Nat.le_succ_of_le left.2⟩)
  | s => ([], ⟨s, Nat.le_refl _⟩)

/-- The exponent at the front, if a letter `e`, an optional sign and a digit are there. -/
def exponent? (s : List Char) : Option (Int × Tail s) :=
  match s with
  | [] => none
  | letter :: rest =>
    if letter == 'e' || letter == 'E' then
      let negative := (Numeral.splitSign rest).1
      let body := (Numeral.splitSign rest).2
      let digits := body.takeWhile Text.isAsciiDigit
      let left : Tail (letter :: rest) :=
        ⟨(behind Text.isAsciiDigit body).1,
          Nat.le_succ_of_le (Nat.le_trans (behind Text.isAsciiDigit body).2
            (Numeral.length_splitSign_le rest))⟩
      if digits.isEmpty then none
      else some (Numeral.signed negative (Nat.ofDigitChars 10 digits 0), left)
    else none

/-- The number at the front, behind its sign. It is an integer iff it has neither fraction
nor exponent. -/
def unsigned? (negative : Bool) (s : List Char) : Option (Except Stop (Json × Rest s)) := do
  let (whole, ⟨rest, shorter⟩) ← wholeDigits? s
  let (fraction, ⟨rest', shorter'⟩) := fractionDigits rest
  let coefficient := Nat.ofDigitChars 10 (whole ++ fraction) 0
  match exponent? rest' with
  | some (e, ⟨left, shorter''⟩) =>
    return .ok (.float (Binary64.ofDecimal negative coefficient (e - fraction.length)),
      ⟨left, by omega⟩)
  | none =>
    if !fraction.isEmpty then
      return .ok (.float (Binary64.ofDecimal negative coefficient (-(fraction.length : Int))),
        ⟨rest', by omega⟩)
    else if whole.length > Numeral.maxDigits then
      return .error (.overlong (.found whole.length))
    else
      return .ok (.int (Numeral.signed negative coefficient), ⟨rest, shorter⟩)

/-! ## Words -/

def words : List (List Char × Json) :=
  [("null".toList, .null), ("true".toList, .bool true), ("false".toList, .bool false),
   ("NaN".toList, .float Binary64.nan), ("Infinity".toList, .float (Binary64.infinity false)),
   ("-Infinity".toList, .float (Binary64.infinity true))]

/-- The rest behind `word`, if the text starts with it. -/
def behindWord? (word : List Char) (s : List Char) : Option (Tail s) :=
  if word.isPrefixOf s then some ⟨s.drop word.length, List.length_drop ▸ Nat.sub_le _ _⟩ else none

def word? (s : List Char) : Option (Json × Rest s) :=
  match s with
  | [] => none
  | c :: rest =>
    words.findSome? fun (word, value) =>
      if word.head? == some c then
        (behindWord? word.tail rest).map fun left =>
          (value, ⟨left.1, Nat.lt_succ_of_le left.2⟩)
      else none

/-! ## Values -/

/-- A value that is neither text, list nor object. -/
def atom (s : List Char) : Except Stop (Json × Rest s) :=
  match word? s with
  | some found => .ok found
  | none =>
    match s with
    | '-' :: rest =>
      match unsigned? true rest with
      | some (.ok (value, ⟨left, shorter⟩)) =>
        .ok (value, ⟨left, by simp only [List.length_cons]; omega⟩)
      | some (.error stop) => .error stop
      | none => .error (.fault .value s)
    | s => (unsigned? false s).getD (.error (.fault .value s))

/-- The rest behind the character `c`, if the text starts with it. -/
def behindChar? (c : Char) (s : List Char) : Option (Rest s) :=
  match s with
  | [] => none
  | d :: rest => if d == c then some ⟨rest, Nat.lt_succ_self _⟩ else none

/-- The name of a field, up to where its value starts. -/
def fieldName (s : List Char) : Except Stop (String × Rest s) :=
  match behindChar? '"' s with
  | none => .error (.fault .name s)
  | some ⟨rest, _⟩ => do
    let (body, ⟨left, _⟩) ← textBody s rest
    let ⟨after, _⟩ := skip left
    match behindChar? ':' after with
    | none => .error (.fault .colon after)
    | some ⟨more, _⟩ =>
      let ⟨start, _⟩ := skip more
      return (String.ofList body, ⟨start, by omega⟩)

mutual

/-- The value at the front of a text. At most `depth` levels may open in it. -/
def value (depth : Nat) (s : List Char) : Except Stop (Json × Rest s) :=
  match behindChar? '"' s with
  | some ⟨rest, _⟩ => do
    let (body, ⟨left, _⟩) ← textBody s rest
    return (.str (String.ofList body), ⟨left, by omega⟩)
  | none =>
  match behindChar? '[' s with
  | some ⟨rest, _⟩ =>
    match depth with
    | 0 => .error (.tooDeep .list)
    | depth + 1 =>
      let ⟨body, _⟩ := skip rest
      match behindChar? ']' body with
      | some ⟨left, _⟩ => .ok (.list [], ⟨left, by omega⟩)
      | none => do
        let (found, ⟨left, _⟩) ← items depth body
        return (.list found, ⟨left, by omega⟩)
  | none =>
  match behindChar? '\x7b' s with
  | some ⟨rest, _⟩ =>
    match depth with
    | 0 => .error (.tooDeep .object)
    | depth + 1 =>
      let ⟨body, _⟩ := skip rest
      match behindChar? '\x7d' body with
      | some ⟨left, _⟩ => .ok (.obj [], ⟨left, by omega⟩)
      | none => do
        let (found, ⟨left, _⟩) ← members depth [] body
        return (.obj found, ⟨left, by omega⟩)
  | none => atom s
termination_by (s.length, 0)

/-- The items of a list from its next item to its closing bracket. -/
def items (depth : Nat) (s : List Char) : Except Stop (List Json × Rest s) := do
  let (first, ⟨rest, _⟩) ← value depth s
  let ⟨after, _⟩ := skip rest
  match behindChar? ']' after with
  | some ⟨left, _⟩ => return ([first], ⟨left, by omega⟩)
  | none =>
  match behindChar? ',' after with
  | some ⟨more, _⟩ =>
    let ⟨next, _⟩ := skip more
    let (others, ⟨left, _⟩) ← items depth next
    return (first :: others, ⟨left, by omega⟩)
  | none => .error (.fault .comma after)
termination_by (s.length, 1)

/-- The fields of an object from its next name to its closing brace, put behind the fields
`known` that came before. -/
def members (depth : Nat) (known : List (String × Json)) (s : List Char) :
    Except Stop (List (String × Json) × Rest s) := do
  let (name, ⟨start, _⟩) ← fieldName s
  let (found, ⟨rest, _⟩) ← value depth start
  let known := setField known name found
  let ⟨after, _⟩ := skip rest
  match behindChar? '\x7d' after with
  | some ⟨left, _⟩ => return (known, ⟨left, by omega⟩)
  | none =>
  match behindChar? ',' after with
  | some ⟨more, _⟩ =>
    let ⟨next, _⟩ := skip more
    let (all, ⟨left, _⟩) ← members depth known next
    return (all, ⟨left, by omega⟩)
  | none => .error (.fault .comma after)
termination_by (s.length, 1)

end

/-! ## Whole texts -/

/-- Why a payload is no JSON value. -/
inductive ReadError where
  /-- A fault at `offset` code points from the start, with its line and column. -/
  | malformed (cause : Cause) (offset line column : Nat)
  | overlong (numeral : Numeral.Overlong)
  | tooDeep (container : Container)
  | undecodable (error : DecodeError)
deriving DecidableEq, Repr

def ReadError.message : ReadError → String
  | .malformed cause offset line column =>
    s!"{cause.message}: line {line} column {column} (char {offset})"
  | .overlong numeral => numeral.message
  | .tooDeep container =>
    s!"maximum recursion depth exceeded while decoding a JSON {container.name} from a " ++
      "unicode string"
  | .undecodable error => error.message

/-- The fault `cause` behind the front `before` of a text. Lines end at a line feed only. -/
def ReadError.behind (before : List Char) (cause : Cause) : ReadError :=
  let points := Text.codePoints before
  let line := (points.filter (· == '\n'.toNat)).length + 1
  let column := (points.reverse.takeWhile (· != '\n'.toNat)).length + 1
  .malformed cause points.length line column

def readChars (depth : Nat) (s : List Char) : Except ReadError Json :=
  let fail (cause : Cause) (rest : List Char) : Except ReadError Json :=
    .error (.behind (s.take (s.length - rest.length)) cause)
  match value depth (skip s).1 with
  | .error (.fault cause rest) => fail cause rest
  | .error (.overlong numeral) => .error (.overlong numeral)
  | .error (.tooDeep container) => .error (.tooDeep container)
  | .ok (found, ⟨left, _⟩) =>
    match (skip left).1 with
    | [] => .ok found
    | rest => fail .extra rest

/-- The value that a text stands for. A text must not start with a byte order mark. -/
def read (s : String) (depth : Nat) : Except ReadError Json :=
  match s.toList with
  | '\uFEFF' :: _ => .error (.behind [] .mark)
  | s => readChars depth s

def readBytes (bytes : List UInt8) (depth : Nat) : Except ReadError Json :=
  match decode bytes with
  | .ok s => readChars depth s
  | .error error => .error (.undecodable error)

end Stepflow.Json
