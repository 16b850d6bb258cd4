import AmbientDecls.Toolbox.Printf.Escape
import AmbientDecls.Toolbox.Printf.Figures

/-!
# Printing by formats

A format says how arguments are written. It is used again as long as there are arguments left.
Scripts have a command for this and there is a tool, and they differ in what they know and in what
they complain about.
-/

namespace AmbientDecls.Toolbox

/-- What is said of an argument that is no whole number. -/
inductive NumberFault where
  | range
  | noNumber
  | rest
deriving DecidableEq, Repr, Inhabited

/-- The least and the greatest whole number with a sign, and the greatest without one. -/
def integerBounds (signed : Bool) : Int × Int :=
  if signed then (-9223372036854775808, 9223372036854775807) else (0, 18446744073709551615)

/-- Reads a whole number in the way of programs: with a leading zero it is octal, with a further x
hexadecimal, and with a b binary. A negative number without a sign counts from the other end.
Whether the number is too big, and what is wrong otherwise, is told with it. -/
def readInteger (signed : Bool) (b : Bytes) : Int × Bool × Option NumberFault :=
  let t := b.dropWhile isSpace
  let (negative, t) := match t with
    | '-' :: rest => (true, rest)
    | '+' :: rest => (false, rest)
    | rest => (false, rest)
  let bit? := fun c : Char => if c = '0' then some 0 else if c = '1' then some 1 else none
  let binary := digits bit? 2 0 t.length (t.drop 2)
  let hex := digits hexadecimal? 16 0 t.length (t.drop 2)
  let (n, rest, found) :=
    if General.startsWith "0b" t && binary.2.length < (t.drop 2).length then
      (binary.1, binary.2, true)
    else if General.startsWith "0x" t && hex.2.length < (t.drop 2).length then (hex.1, hex.2, true)
    else
      let base := if t.head? = some '0' then 8 else 10
      let (n, rest) :=
        digits (if base = 8 then octal? else decimal?) base 0 t.length t
      (n, rest, decide (rest.length < t.length))
  let value : Int := if negative then - (n : Int) else n
  let (least, most) := integerBounds signed
  let fault :=
    if ! found then (if b.isEmpty then none else some NumberFault.noNumber)
    else if rest.isEmpty then none
    else some .rest
  if ! signed then
    if most < n then (most, true, fault)
    else (if value < 0 then value + most + 1 else value, false, fault)
  else (max least (min most value), value < least || most < value, fault)

/-- How far printing has come. -/
structure Printing where
  /-- Whether it is the command of scripts. -/
  inScript : Bool
  args : List Bytes
  /-- What is written, reversed. -/
  output : Bytes := []
  complaints : List Bytes := []
  status : Nat := 0
  halted : Bool := false

namespace Printing

def write (p : Printing) (b : Bytes) : Printing := { p with output := b.reverse ++ p.output }

/-- With a complaint; printing goes on, but does not end well. -/
def complain (p : Printing) (message : Bytes) : Printing :=
  { p with complaints := p.complaints ++ [message], status := max p.status 1 }

def abandon (p : Printing) (message : Bytes) : Printing :=
  { p with
    complaints := p.complaints ++ [message], status := if p.inScript then 2 else 1
    halted := true }

def next (p : Printing) : Option Bytes × Printing :=
  match p.args with
  | a :: rest => (some a, { p with args := rest })
  | [] => (none, p)

/-- The complaint about an argument that is no number. -/
def fault (p : Printing) (argument : Bytes) : NumberFault → Bytes
  | .range =>
    (if p.inScript then argument else quoted argument) ++
      ": Numerical result out of range".toList
  | .noNumber =>
    if p.inScript then argument ++ ": expected numeric value".toList
    else quoted argument ++ ": expected a numeric value".toList
  | .rest =>
    if p.inScript then argument ++ ": not completely converted".toList
    else quoted argument ++ ": value not completely converted".toList

/-- The number of the byte behind a quotation mark, and what follows it. -/
def quotedByte? (p : Printing) (argument : Bytes) : Option (Nat × Bytes) :=
  match argument with
  | q :: c :: rest => if q = '"' || q = '\'' then some (c.toNat, rest) else none
  | [q] => if p.inScript && (q = '"' || q = '\'') then some (0, []) else none
  | [] => none

/-- With a warning if something follows a quoted byte. -/
def warn (p : Printing) (rest : Bytes) : Printing :=
  if rest.isEmpty || p.inScript then p
  else
    { p with
      complaints := p.complaints ++ ["warning: ".toList ++ rest ++
        ": character(s) following character constant have been ignored".toList] }

/-- The next argument as a whole number. -/
def nextInteger (p : Printing) (signed : Bool) : Int × Printing :=
  match p.next with
  | (none, p) => (0, p)
  | (some argument, p) =>
    match p.quotedByte? argument with
    | some (n, rest) => (n, p.warn rest)
    | none =>
      let (n, tooBig, wrong) := readInteger signed argument
      let range := if tooBig then some NumberFault.range else none
      match if p.inScript then wrong.or range else range.or wrong with
      | none => (n, p)
      | some f => (n, p.complain (p.fault argument f))

/-- The number of binary digits of floating-point numbers. -/
def bits (p : Printing) : Nat := if p.inScript then 53 else 64

/-- The next argument as a floating-point number. -/
def nextFloating (p : Printing) : Floating × Printing :=
  match p.next with
  | (none, p) => (.finite false 0 0, p)
  | (some argument, p) =>
    match p.quotedByte? argument with
    | some (n, rest) => (Floating.nearest p.bits false n 1, p.warn rest)
    | none =>
      let (x, tooBig, rest) := Floating.read p.bits argument
      let p :=
        if tooBig then p.complain (p.fault argument .range)
        else if rest.isEmpty then p
        else p.complain (p.fault argument (if rest = argument then .noNumber else .rest))
      (x, p)

/-- A directive of a format: its flags, its width and precision, where a star stands for an
argument, and what follows them. -/
structure Directive where
  flags : Bytes
  width : Option Bytes
  precision : Option (Option Bytes)
  rest : Bytes

/-- Reads a directive behind its percent sign. -/
def directive (inScript : Bool) (t : Bytes) : Directive :=
  let isFlag := fun c : Char => "#-+ 0".toList.contains c || (! inScript && c == '\'')
  let count := fun t : Bytes => match t with
    | '*' :: _ => ['*']
    | t => t.takeWhile Char.isDigit
  let flags := t.takeWhile isFlag
  let t := t.drop flags.length
  let width := count t
  let t := t.drop width.length
  let (precision, t) := match t with
    | '.' :: rest =>
      let digits := count rest
      (some (if digits.isEmpty then none else some digits), rest.drop digits.length)
    | t => (none, t)
  ⟨flags, if width.isEmpty then none else some width, precision, t⟩

/-- A count of a directive, taken from the arguments if it is a star. -/
def counted (p : Printing) (count : Option Bytes) : Int × Printing :=
  match count with
  | none => (0, p)
  | some ['*'] => p.nextInteger true
  | some figures => ((number? figures).getD 0, p)

/-- Whether a letter may follow the flags and the precision. -/
def fits (d : Directive) (letter : Char) : Bool :=
  let has := d.flags.contains
  let plain := "aAcdeEfFgGiosuxX".toList.contains letter
  plain &&
    ! (has '\'' && "aAceEosxX".toList.contains letter) &&
    ! (has '#' && "cdisu".toList.contains letter) &&
    ! (has '0' && "cs".toList.contains letter) &&
    ! (d.precision.isSome && letter == 'c')

/-- Writes the next arguments in the way of a directive, which is given as it is written and as it
is read; `letter` is its last one. -/
def convert (p : Printing) (d : Directive) (letter : Char) : Printing :=
  let (width, p) := p.counted d.width
  let (precision, p) := match d.precision with
    | none => (none, p)
    | some count =>
      let (n, p) := p.counted count
      (if n < 0 then none else some n.toNat, p)
  let has := d.flags.contains
  let l : Layout := {
    alignLeft := has '-' || width < 0, plus := has '+', space := has ' ', alternate := has '#'
    zeros := has '0' && ! has '-', width := width.natAbs, precision }
  match letter with
  | 's' =>
    let (argument, p) := p.next
    p.write (l.text (argument.getD []))
  | 'b' =>
    let (argument, p) := p.next
    let argument := argument.getD []
    let (written, stop, _) := unescaped .script (argument.length + 1) argument
    { p.write (l.text written) with halted := stop }
  | 'c' =>
    let (argument, p) := p.next
    p.write ({ l with precision := none }.text [(argument.bind List.head?).getD '\x00'])
  | 'd' | 'i' =>
    let (n, p) := p.nextInteger true
    p.write (l.integer n)
  | 'o' | 'u' | 'x' | 'X' =>
    let (n, p) := p.nextInteger false
    p.write (l.unsigned letter n.toNat)
  | _ =>
    let (x, p) := p.nextFloating
    p.write (l.floating p.bits letter x)

/-- Writes an argument as the printing tool does when escapes are read in it. -/
def writeEscaped (p : Printing) : Printing :=
  let (argument, p) := p.next
  let argument := argument.getD []
  let (written, stop, fault) := unescaped .argument (argument.length + 1) argument
  let p := p.write written
  match fault with
  | some message => p.abandon message.toList
  | none => { p with halted := stop }

/-- Uses a format once. -/
def pass (p : Printing) : (fuel : Nat) → Bytes → Printing
  | 0, _ => p
  | _, [] => p
  | fuel + 1, '\\' :: rest =>
    match escaped (if p.inScript then .scriptFormat else .format) rest with
    | .stop => { p with halted := true }
    | .fault message => p.abandon message.toList
    | .bytes written rest => pass (p.write written) fuel rest
  | fuel + 1, '%' :: rest =>
    match p.inScript, rest with
    | _, '%' :: rest => pass (p.write ['%']) fuel rest
    | false, 'b' :: rest =>
      let p := p.writeEscaped
      if p.halted then p else pass p fuel rest
    | false, 'q' :: rest =>
      match p.next with
      | (some argument, p) => pass (p.write (scriptForm argument)) fuel rest
      | (none, p) => pass p fuel rest
    | inScript, rest =>
      let d := directive inScript rest
      let t := if inScript then d.rest
        else d.rest.dropWhile fun c => "lLhjtz".toList.contains c
      let length := rest.length - t.length
      let spelled := '%' :: rest.take (length + 1)
      match t with
      | [] =>
        p.abandon (if inScript then "missing format character".toList
          else spelled ++ ": invalid conversion specification".toList)
      | letter :: after =>
        if inScript && ! "aAbcdeEfFgGiosuxX".toList.contains letter then
          p.abandon (spelled ++ ": invalid directive".toList)
        else if ! inScript && ! fits d letter then
          p.abandon (spelled ++ ": invalid conversion specification".toList)
        else
          let p := p.convert d letter
          if p.halted then p else pass p fuel after
  | fuel + 1, c :: rest => pass (p.write [c]) fuel rest

/-- Uses a format as long as there are arguments left that it takes. -/
def passes (p : Printing) (format : Bytes) : (fuel : Nat) → Printing
  | 0 => p
  | fuel + 1 =>
    let after := p.pass (format.length + 1) format
    if after.halted || after.args.isEmpty || after.args.length = p.args.length then after
    else passes after format fuel

def run (inScript : Bool) (format : Bytes) (args : List Bytes) : Printing :=
  let p := ({ inScript, args } : Printing).passes format (args.length + 1)
  match p.inScript || p.halted, p.args with
  | false, extra :: _ =>
    { p with
      complaints := p.complaints ++
        ["warning: ignoring excess arguments, starting with ".toList ++ quoted extra] }
  | _, _ => p

end Printing

/-- Prints its operands by a format. -/
def printf : Tool := fun j =>
  let args := match j.args with
    | ['-', '-'] :: rest => rest
    | args => args
  match args with
  | [] => j.misused "printf" "missing operand".toList 1
  | format :: args =>
    let p := Printing.run false format args
    { status := .code p.status
      stdout := p.output.reverse
      stderr := joinLines '\n' (p.complaints.map ("printf: ".toList ++ ·))
      unread := j.stdin }

end AmbientDecls.Toolbox
