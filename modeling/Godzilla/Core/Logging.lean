import Godzilla.Core.Platform
import Godzilla.Misc.Dict
import Godzilla.Misc.JsonText
import Godzilla.Misc.Regex

/-!
# Structured logging

`redact` and `RedactingJsonFormatter.format` (`core/logging.py`): secrets are removed from
mappings, lists and tuples by their keys, and from texts by three patterns. A message with
arguments is a text by then.
-/

namespace Godzilla.Logging
open Misc

def asciiSpace (c : Char) : Bool :=
  c = ' ' || (9 ≤ c.toNat && c.toNat ≤ 13) || (28 ≤ c.toNat && c.toNat ≤ 31)

/-- The tables of Unicode that `re` and `repr` read: `\w`, `\s`, `str.isprintable` and the
    letters that are one under `re.IGNORECASE`. -/
class TextTables where
  isWord : Char → Bool
  isSpace : Char → Bool
  isPrintable : Char → Bool
  sameLetter : Char → Char → Bool
  isSpace_ascii : ∀ c : Char, c.toNat < 128 → isSpace c = asciiSpace c
  isPrintable_ascii : ∀ c : Char, c.toNat < 128 → isPrintable c = (32 ≤ c.toNat && c.toNat < 127)
  sameLetter_ascii : ∀ a c : Char, a.toNat < 128 → c.toNat < 128 →
    sameLetter a c = (a.toLower == c.toLower)

open TextTables

variable [TextTables]

/-! ## The patterns -/

def letters (text : String) : Pattern := .word sameLetter text.toList

/-- `(?:password|secret|token|api[_-]?key|authorization)`. -/
def secretWord : Pattern :=
  .alt (letters "password") <| .alt (letters "secret") <| .alt (letters "token") <|
    .alt (.seq (letters "api") (.seq (.optional (.one fun c => c = '_' || c = '-'))
      (letters "key"))) (letters "authorization")

/-- A string between two quotes of a kind. -/
def quoted (mark : Char) : Pattern :=
  .seq (.one fun c => c = mark) (.seq (.many fun c => c ≠ mark) (.one fun c => c = mark))

def apostrophe : Char := Char.ofNat 39

/-- `[:=]`. -/
def sign : Pattern := .one fun c => c = ':' || c = '='

/-- `[^,\s}]+`. -/
def plainSecret : Pattern := .some fun c => !(c = ',' || isSpace c || c = Char.ofNat 125)

/-- `_INLINE_SECRET` (`core/logging.py:20-23`). -/
def inlineSecret : Pattern :=
  .seq .boundary <| .seq (.group secretWord) <| .seq .boundary <| .seq (.many isSpace) <|
    .seq (.group sign) <| .seq (.many isSpace) <|
      .alt (quoted quote) <| .alt (quoted apostrophe) plainSecret

/-- `_BEARER` (`core/logging.py:24`). -/
def bearer : Pattern :=
  .seq .boundary <| .seq (letters "Bearer") <| .seq (.some isSpace) <| .some fun c => !isSpace c

/-- `_SENSITIVE_KEY.search(key)` (`core/logging.py:19`). -/
def sensitiveKey (key : String) : Bool := secretWord.isFound isWord none key.toList

def redacted : String := "[REDACTED]"

/-- What `redact` makes of a string (`core/logging.py:41-44`). -/
def redactText (text : String) : String :=
  let cleaned := bearer.sub isWord (fun _ => ("Bearer " ++ redacted).toList) text.toList
  String.ofList (inlineSecret.sub isWord (fun groups => groups.flatten ++ redacted.toList) cleaned)

/-! ## Values -/

/-- The key of an item by its `str` and its `repr`. -/
structure LogKey where
  str : String
  repr : String

/-- A logged value. A mapping shows its items between two texts, braces for a dict; sets are
    listed as they iterate. Other values stand by their `str`, their `repr`, what
    `json.dumps(default=str)` writes of them and their truth. -/
inductive LogValue where
  | mapping (opening closing : String) (items : List (LogKey × LogValue))
  | list (items : List LogValue)
  | tuple (items : List LogValue)
  | set (items : List LogValue)
  | text (value : String)
  | other (str repr : String) (json : Scalar) (truth : Bool)

/-- A character in the `repr` of a string with the given quotes. -/
def reprChar (mark c : Char) : List Char :=
  if c = mark ∨ c = backslash then [backslash, c]
  else if c = Char.ofNat 9 then [backslash, 't']
  else if c = Char.ofNat 10 then [backslash, 'n']
  else if c = Char.ofNat 13 then [backslash, 'r']
  else if isPrintable c then [c]
  else if c.toNat < 256 then backslash :: 'x' :: (hexDigits c.toNat).drop 2
  else if c.toNat < 65536 then backslash :: 'u' :: hexDigits c.toNat
  else backslash :: 'U' :: (hexDigits (c.toNat / 65536) ++ hexDigits (c.toNat % 65536))

/-- The quotes of the `repr` of a string: double only around single ones. -/
def reprMark (text : List Char) : Char :=
  if apostrophe ∈ text ∧ quote ∉ text then quote else apostrophe

/-- `repr` of a string. -/
def reprText (text : String) : List Char :=
  let mark := reprMark text.toList
  mark :: (text.toList.flatMap (reprChar mark) ++ [mark])

/-- The end of the `repr` of a tuple. -/
def tupleClosing (count : ℕ) : List Char := if count = 1 then [',', ')'] else [')']

namespace LogValue

mutual

/-- `repr(value)`. -/
def reprOf : LogValue → List Char
  | .mapping opening closing items =>
    opening.toList ++ ([',', ' '].intercalate (reprMembers items) ++ closing.toList)
  | .list items => '[' :: ([',', ' '].intercalate (reprItems items) ++ [']'])
  | .tuple items => '(' :: ([',', ' '].intercalate (reprItems items) ++ tupleClosing items.length)
  | .set [] => ['s', 'e', 't', '(', ')']
  | .set (x :: xs) =>
    Char.ofNat 123 :: ([',', ' '].intercalate (reprOf x :: reprItems xs) ++ [Char.ofNat 125])
  | .text value => reprText value
  | .other _ repr _ _ => repr.toList

def reprItems : List LogValue → List (List Char)
  | [] => []
  | x :: xs => reprOf x :: reprItems xs

def reprMembers : List (LogKey × LogValue) → List (List Char)
  | [] => []
  | (k, x) :: ms => (k.repr.toList ++ (':' :: ' ' :: reprOf x)) :: reprMembers ms

end

/-- `str(value)`. -/
def strOf : LogValue → List Char
  | .text value => value.toList
  | .other str _ _ _ => str.toList
  | value => reprOf value

/-- `bool(value)`. -/
def truthy : LogValue → Bool
  | .mapping _ _ items => !items.isEmpty
  | .list items | .tuple items | .set items => !items.isEmpty
  | .text value => value ≠ ""
  | .other _ _ _ truth => truth

mutual

/-- `redact(value)` (`core/logging.py:30-45`), as `json.dumps(default=str)` writes it. -/
def redact : LogValue → Tree
  | .mapping _ _ items => .obj (Dict.ofList (redactMembers items)).entries
  | .list items => .arr (redactItems items)
  | .tuple items => .arr (redactItems items)
  | .set items => .arr (redactItems items)
  | .text value => .scalar (.str (redactText value))
  | .other _ _ json _ => .scalar json

def redactItems : List LogValue → List Tree
  | [] => []
  | x :: xs => redact x :: redactItems xs

def redactMembers : List (LogKey × LogValue) → List (String × Tree)
  | [] => []
  | (k, x) :: ms =>
    (k.str, if sensitiveKey k.str then .scalar (.str redacted) else redact x) :: redactMembers ms

end

end LogValue

/-! ## Records -/

/-- A piece of a message with arguments: what its format makes by itself, and a value that it
    shows whole with `%s`. -/
inductive Piece where
  | shown (text : String)
  | whole (value : LogValue)

/-- A message without arguments, or the pieces that its format and its arguments make. -/
inductive Message where
  | plain (msg : LogValue)
  | filled (pieces : List Piece)

/-- A log record; `attributes` are the ones that are not standard. -/
structure LogRecord where
  created : Instant
  levelname : String
  name : String
  message : Message
  attributes : List (String × LogValue)
  exception : Option String

def Piece.text : Piece → List Char
  | .shown text => text.toList
  | .whole value => value.strOf

/-- `record.getMessage()`. -/
def getMessage : Message → String
  | .plain msg => String.ofList msg.strOf
  | .filled pieces => String.ofList (pieces.flatMap Piece.text)

/-- The message as it is written (`core/logging.py:50-54`). -/
def writtenMessage (message : Message) : Tree :=
  match message with
  | .plain (.mapping opening closing items) => (LogValue.mapping opening closing items).redact
  | .plain (.list items) => (LogValue.list items).redact
  | .plain (.tuple items) => (LogValue.tuple items).redact
  | message => .scalar (.str (redactText (getMessage message)))

/-- The correlation id as it is written (`core/logging.py:61-63`). -/
def writtenCorrelation (context : Option String) (record : LogRecord) : Option String :=
  match Dict.assoc "correlation_id" record.attributes with
  | some value => if value.truthy then some (String.ofList value.strOf) else context
  | none => context

def attributeKey (name : String) : LogKey := ⟨name, String.ofList (reprText name)⟩

/-- The names that are no extra fields (`core/logging.py:68`). -/
def ownNames : List String := ["message", "asctime", "correlation_id"]

/-- The extra fields of a record (`core/logging.py:64-69`). -/
def extras (record : LogRecord) : List (LogKey × LogValue) :=
  (record.attributes.filter fun extra => !ownNames.contains extra.1).map fun extra =>
    (attributeKey extra.1, extra.2)

variable [Platform]

/-- The members of the line (`core/logging.py:55-73`). -/
def payload (context : Option String) (record : LogRecord) : List (String × Tree) :=
  let fields := extras record
  [("timestamp", .scalar (.str (Platform.isoformat record.created))),
    ("level", .scalar (.str record.levelname)), ("logger", .scalar (.str record.name)),
    ("message", writtenMessage record.message)]
  ++ ((writtenCorrelation context record).map fun text =>
      ("correlation_id", Tree.scalar (.str text))).toList
  ++ (if fields.isEmpty then []
      else [("fields", .obj (Dict.ofList (LogValue.redactMembers fields)).entries)])
  ++ (record.exception.map fun text =>
      ("exception", Tree.scalar (.str (redactText text)))).toList

/-- `RedactingJsonFormatter.format` (`core/logging.py:49-74`) in a correlation context. -/
def format (context : Option String) (record : LogRecord) : String :=
  String.ofList (Tree.write [] (.obj (payload context record)))

end Godzilla.Logging
