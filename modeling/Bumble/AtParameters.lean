import Bumble.OctetReader
import Bumble.Outcome

/-!
# AT commands, responses and their parameters (`bumble-at/src/lib.rs`)

The parameters are cut into tokens first and put into lists afterwards; a token with the octet
of a separator is one, whether it was quoted or not.
-/

namespace Bumble.At

inductive Error where
  | invalidPacket (message : String)
deriving DecidableEq, Repr

inductive Parameter where
  | value (bytes : Bytes)
  | list (parameters : List Parameter)
deriving Repr

def space : UInt8 := 0x20
def quote : UInt8 := 0x22
def openParen : UInt8 := 0x28
def closeParen : UInt8 := 0x29
def comma : UInt8 := 0x2C
def colon : UInt8 := 0x3A

/-! ## 1. Tokens -/

/-- The variables of `tokenize_parameters`. -/
structure Tokenizer where
  tokens : List Bytes
  inQuotes : Bool
  token : Bytes
deriving DecidableEq, Repr

namespace Tokenizer

def new : Tokenizer := ⟨[], false, []⟩

def step (state : Tokenizer) (byte : UInt8) : Except Error Tokenizer :=
  if state.inQuotes then
    let token := state.token ++ [byte]
    if byte = quote then .ok ⟨state.tokens ++ [(token.drop 1).dropLast], false, []⟩
    else .ok { state with token := token }
  else if byte = space then .ok state
  else if byte = comma ∨ byte = closeParen then
    .ok ⟨state.tokens ++ [state.token, [byte]], false, []⟩
  else if byte = openParen then
    if state.token ≠ [] then .error (.invalidPacket "open_paren following regular character")
    else .ok { state with tokens := state.tokens ++ [[byte]] }
  else if byte = quote then
    if state.token ≠ [] then .error (.invalidPacket "quote following regular character")
    else .ok { state with
      inQuotes := true
      token := [byte] }
  else .ok { state with token := state.token ++ [byte] }

end Tokenizer

def kept (token : Bytes) : Bool := !token.isEmpty

/-- The last token is not closed by anything; a quote that is still open is part of it. -/
def tokenizeParameters (buffer : Bytes) : Except Error (List Bytes) := do
  let state ← buffer.foldlM Tokenizer.step Tokenizer.new
  pure ((state.tokens ++ [state.token]).filter kept)

/-! ## 2. Parameters -/

/-- The variables of `parse_parameters`: the lists that are open around the innermost one, the
    parameters of that, and the one that a separator will end. -/
structure ParameterParser where
  outer : List (List Parameter)
  items : List Parameter
  current : Parameter

namespace ParameterParser

def new : ParameterParser := ⟨[], [], .value []⟩

def step (state : ParameterParser) (token : Bytes) : Except Error ParameterParser :=
  if token = [comma] then
    .ok { state with
      items := state.items ++ [state.current]
      current := .value [] }
  else if token = [openParen] then
    .ok { state with
      outer := state.items :: state.outer
      items := [] }
  else if token = [closeParen] then
    match state.outer with
    | [] => .error (.invalidPacket "close_paren without matching open_paren")
    | items :: outer => .ok ⟨outer, items, .list (state.items ++ [state.current])⟩
  else .ok { state with current := .value token }

def finish (state : ParameterParser) : Except Error (List Parameter) :=
  if state.outer ≠ [] then .error (.invalidPacket "missing close_paren")
  else .ok (state.items ++ [state.current])

end ParameterParser

def parseParameters (buffer : Bytes) : Except Error (List Parameter) := do
  let tokens ← tokenizeParameters buffer
  let state ← tokens.foldlM ParameterParser.step ParameterParser.new
  state.finish

/-! ## 3. Commands and responses -/

inductive CommandSubCode where
  | none
  | set
  | test
  | read
deriving DecidableEq, Repr

structure AtCommand where
  code : String
  subCode : CommandSubCode
  parameters : List Parameter
deriving Repr

namespace AtCommand

def isAsciiUppercase (byte : UInt8) : Bool := 0x41 ≤ byte && byte ≤ 0x5A

/-- What stands behind the code: `=?`, `=` or `?`, and the text of the parameters. -/
def parseSubCode (remainder : Bytes) : CommandSubCode × Bytes :=
  match remainder with
  | 0x3D :: 0x3F :: parameters => (.test, parameters)
  | 0x3D :: parameters => (.set, parameters)
  | 0x3F :: parameters => (.read, parameters)
  | _ => (.none, remainder)

def parse (buffer : Bytes) : Except Error AtCommand :=
  match buffer with
  -- `ATA` and `ATD` are told by their first letters alone
  | 0x41 :: 0x54 :: 0x41 :: _ => .ok ⟨"A", .none, []⟩
  | 0x41 :: 0x54 :: 0x44 :: number => .ok ⟨"D", .none, [.value number]⟩
  | 0x41 :: 0x54 :: 0x2B :: suffix =>
    let code := suffix.takeWhile isAsciiUppercase
    if code = [] then .error (.invalidPacket "invalid command")
    else
      match stringFromUtf8 code with
      | Option.none => .error (.invalidPacket "command code is not ASCII")
      | some code =>
        let (subCode, parameters) := parseSubCode (suffix.dropWhile isAsciiUppercase)
        if parameters = [] then .ok ⟨code, subCode, []⟩
        else do
          pure ⟨code, subCode, ← parseParameters parameters⟩
  | _ => .error (.invalidPacket "invalid command")

end AtCommand

structure AtResponse where
  code : String
  parameters : List Parameter
deriving Repr

namespace AtResponse

/-- The text in front of the first colon, and the one between it and the second. -/
def parse (buffer : Bytes) : Except Error AtResponse :=
  let code := buffer.takeWhile (· != colon)
  let parameters := ((buffer.dropWhile (· != colon)).drop 1).takeWhile (· != colon)
  match stringFromUtf8 code with
  | none => .error (.invalidPacket "response code is not UTF-8")
  | some code => do
    pure ⟨code, ← parseParameters parameters⟩

end AtResponse

/-! ## 4. Trees as text -/

inductive Piece where
  | comma
  | openParen
  | closeParen
  | quoted (value : Bytes)
deriving DecidableEq, Repr

namespace Piece

def bytes : Piece → Bytes
  | comma => [At.comma]
  | openParen => [At.openParen]
  | closeParen => [At.closeParen]
  | quoted value => quote :: (value ++ [quote])

def tokens : Piece → List Bytes
  | comma => [[At.comma]]
  | openParen => [[At.openParen]]
  | closeParen => [[At.closeParen]]
  | quoted value => if value = [] then [] else [value]

end Piece

inductive Spaced : List Piece → Bytes → Prop where
  | nil : Spaced [] []
  | space {pieces : List Piece} {text : Bytes} (hlater : Spaced pieces text) :
      Spaced pieces (space :: text)
  | piece (piece : Piece) {pieces : List Piece} {text : Bytes} (hlater : Spaced pieces text) :
      Spaced (piece :: pieces) (piece.bytes ++ text)

namespace Parameter

mutual

/-- A value in quotes, or the parameters in parentheses. -/
def pieces : Parameter → List Piece
  | value bytes => [.quoted bytes]
  | list parameters => .openParen :: (rowPieces parameters ++ [.closeParen])

def rowPieces : List Parameter → List Piece
  | [] => []
  | parameter :: parameters => parameter.pieces ++ laterPieces parameters

def laterPieces : List Parameter → List Piece
  | [] => []
  | parameter :: parameters => .comma :: (parameter.pieces ++ laterPieces parameters)

end

mutual

def values : Parameter → List Bytes
  | value bytes => [bytes]
  | list parameters => rowValues parameters

def rowValues : List Parameter → List Bytes
  | [] => []
  | parameter :: parameters => parameter.values ++ rowValues parameters

end

mutual

def Filled : Parameter → Prop
  | value _ => True
  | list parameters => parameters ≠ [] ∧ RowFilled parameters

def RowFilled : List Parameter → Prop
  | [] => True
  | parameter :: parameters => parameter.Filled ∧ RowFilled parameters

end

end Parameter

/-- A text for the parameters: values in quotes, lists in parentheses, commas between the items
    and spaces anywhere outside the quotes. -/
def Written (parameters : List Parameter) (text : Bytes) : Prop :=
  Spaced (Parameter.rowPieces parameters) text

/-- The values that the parser takes for a separator. -/
def Separator (value : Bytes) : Prop :=
  value = [comma] ∨ value = [openParen] ∨ value = [closeParen]

end Bumble.At
