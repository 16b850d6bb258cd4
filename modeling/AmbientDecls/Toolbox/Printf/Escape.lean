import AmbientDecls.Toolbox.Class
import AmbientDecls.Toolbox.Options

/-!
# Escapes

What backslashes mean in what is echoed and printed, and the tool that echoes. There are several
dialects of escapes. All know the letters of controls and octal numbers, and all but that of
formats in scripts know a sign that ends the output.
-/

namespace AmbientDecls.Toolbox

inductive EscapeDialect where
  /-- The format of the printing tool. -/
  | format
  /-- An argument of the printing tool that is read for escapes. -/
  | argument
  /-- What the echoing tool writes. -/
  | echoed
  /-- The format of the printing command of scripts. -/
  | scriptFormat
  /-- What the echoing command of scripts writes. -/
  | script
deriving DecidableEq, Repr, Inhabited

/-- What an escape comes to. -/
inductive Escaped where
  | bytes (written : Bytes) (rest : Bytes)
  /-- Nothing more is written. -/
  | stop
  | fault (message : String)
deriving DecidableEq, Repr, Inhabited

def control? : Char → Option Char
  | 'a' => some '\x07'
  | 'b' => some '\x08'
  | 'f' => some '\x0c'
  | 'n' => some '\n'
  | 'r' => some '\r'
  | 't' => some '\t'
  | 'v' => some '\x0b'
  | '\\' => some '\\'
  | _ => none

def byteOf (n : Nat) : Char := Char.ofNat (n % 256)

/-- A character by its number, written in so many hexadecimal digits where it is not ASCII. -/
def namedCharacter (letter : Char) (count : Nat) (rest : Bytes) : Escaped :=
  let (n, after) := digits hexadecimal? 16 0 count rest
  if rest.length - after.length < count then
    .fault "missing hexadecimal number in escape"
  else if 0xd800 ≤ n && n ≤ 0xdfff then
    .fault ("invalid universal character name \\" ++ String.ofList (letter :: rest.take count))
  else if n < 128 then .bytes [Char.ofNat n] after
  else
    let figures := (Nat.toDigits 16 n).map Char.toUpper
    let width := if n < 0x10000 then 4 else 8
    .bytes ('\\' :: (if n < 0x10000 then 'u' else 'U') ::
      (List.replicate (width - figures.length) '0' ++ figures)) after

/-- What stands behind a backslash, read in a dialect. -/
def escaped (dialect : EscapeDialect) : Bytes → Escaped
  | [] => .bytes ['\\'] []
  | c :: rest =>
    let octal := fun (start : Bytes) =>
      let (n, after) := digits octal? 8 0 3 start
      Escaped.bytes [byteOf n] after
    let isTool := dialect = .format || dialect = .argument || dialect = .echoed
    let zeroFirst := dialect = .argument || dialect = .echoed || dialect = .script
    match control? c with
    | some control => .bytes [control] rest
    | none =>
      if c = 'c' && dialect ≠ .scriptFormat then .stop
      else if c = '0' && zeroFirst && (rest.head?.bind octal?).isSome then octal rest
      else if (octal? c).isSome then octal (c :: rest)
      else if c = 'e' then .bytes ['\x1b'] rest
      else if c = 'x' && isTool then
        let (n, after) := digits hexadecimal? 16 0 2 rest
        if after.length < rest.length then .bytes [byteOf n] after
        else if dialect = .echoed then .bytes ['\\', 'x'] rest
        else .fault "missing hexadecimal number in escape"
      else if c = '"' && (dialect = .format || dialect = .argument) then .bytes ['"'] rest
      else if c = 'u' && (dialect = .format || dialect = .argument) then
        namedCharacter 'u' 4 rest
      else if c = 'U' && (dialect = .format || dialect = .argument) then
        namedCharacter 'U' 8 rest
      else .bytes ['\\', c] rest

/-- Bytes with their escapes read, whether the output ends with them, and what is wrong. -/
def unescaped (dialect : EscapeDialect) : (fuel : Nat) → Bytes → Bytes × Bool × Option String
  | 0, _ => ([], false, none)
  | _, [] => ([], false, none)
  | fuel + 1, '\\' :: rest =>
    match escaped dialect rest with
    | .stop => ([], true, none)
    | .fault message => ([], true, some message)
    | .bytes written rest =>
      let (more, stop, fault) := unescaped dialect fuel rest
      (written ++ more, stop, fault)
  | fuel + 1, c :: rest =>
    let (more, stop, fault) := unescaped dialect fuel rest
    (c :: more, stop, fault)

/-- The operands one after another with their escapes read, up to a stop. -/
def unescapedAll (dialect : EscapeDialect) : List Bytes → Bytes × Bool
  | [] => ([], false)
  | operand :: rest =>
    let (written, stop, _) := unescaped dialect (operand.length + 1) operand
    if stop then (written, true)
    else if rest.isEmpty then (written, false)
    else
      let (more, stop) := unescapedAll dialect rest
      (written ++ ' ' :: more, stop)

/-- The options of the echoing tool and its operands. -/
def echoOptions (line escapes : Bool) : List Bytes → Bool × Bool × List Bytes
  | ('-' :: c :: cs) :: rest =>
    if (c :: cs).all ("neE".toList.contains ·) then
      let escapes := (c :: cs).foldl
        (fun e c => if c = 'e' then true else if c = 'E' then false else e) escapes
      echoOptions (line && ! (c :: cs).contains 'n') escapes rest
    else (line, escapes, ('-' :: c :: cs) :: rest)
  | rest => (line, escapes, rest)

def echo : Tool := fun j =>
  let (line, escapes, operands) := echoOptions true false j.args
  let (written, stop) :=
    if escapes then unescapedAll .echoed operands else (Text.join [' '] operands, false)
  { stdout := written ++ (if line && ! stop then ['\n'] else []), unread := j.stdin }

/-- Writes its operands with their escapes read, in the way of scripts. -/
def scriptEcho : Tool := fun j =>
  let (line, operands) := match j.args with
    | ['-', 'n'] :: rest => (false, rest)
    | args => (true, args)
  let (written, stop) := unescapedAll .script operands
  { stdout := written ++ (if line && ! stop then ['\n'] else []), unread := j.stdin }

end AmbientDecls.Toolbox
