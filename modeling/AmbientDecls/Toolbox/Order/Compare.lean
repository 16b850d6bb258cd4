import AmbientDecls.Toolbox.Class
import AmbientDecls.Toolbox.Options

/-!
# Comparing lines

`uniq` joins neighbouring lines that are the same.
-/

namespace AmbientDecls.Toolbox

structure Comparing where
  fields : Nat := 0
  bytes : Nat := 0
  most : Option Nat := none
  fold : Bool := false
deriving Repr, Inhabited

def Comparing.part (o : Comparing) (line : Bytes) : Bytes :=
  let isGap := fun c : Char => isBlank c || c == '\n'
  let skipField := fun b : Bytes => (b.dropWhile isGap).dropWhile (! isGap ·)
  let rest := (Nat.repeat skipField (min o.fields line.length) line).drop o.bytes
  let part := o.most.elim rest rest.take
  if o.fold then part.map Char.toUpper else part

/-- The runs of neighbouring lines whose parts are the same. -/
def Comparing.runs (o : Comparing) (lines : List Bytes) : List (List Bytes) :=
  let step := fun (runs : List (Bytes × List Bytes)) (line : Bytes) =>
    let part := o.part line
    match runs with
    | (p, run) :: rest => if p = part then (p, line :: run) :: rest else (part, [line]) :: runs
    | [] => [(part, [line])]
  ((lines.foldl step []).map fun (_, run) => run.reverse).reverse

/-- The options of `uniq` with counts in the old form. -/
def modernSkips (args : List Bytes) : List Bytes :=
  args.map fun arg =>
    match arg with
    | '-' :: c :: rest =>
      if c.isDigit && rest.all Char.isDigit then '-' :: 'f' :: c :: rest else arg
    | _ => arg

/-- Empty lines around the runs, as a word asks for. -/
def separated (word : String) (runs : List (List Bytes)) : List Bytes :=
  match word with
  | "prepend" => runs.flatMap fun run => [] :: run
  | "append" => runs.flatMap fun run => run ++ [[]]
  | "both" =>
    if runs.isEmpty then [] else (runs.flatMap fun run => [] :: run) ++ [[]]
  | "separate" =>
    match runs with
    | [] => []
    | run :: rest => run ++ rest.flatMap fun run => [] :: run
  | _ => runs.flatten

/-- Joins neighbouring lines that are the same. -/
def uniq : Tool := fun j => withOptions "uniq"
  [⟨'c', "count", .nothing, true⟩, ⟨'d', "repeated", .nothing, true⟩, ⟨'D', "", .nothing, true⟩,
    ⟨'A', "all-repeated", .perhaps, false⟩, ⟨'G', "group", .perhaps, false⟩,
    ⟨'f', "skip-fields", .value, true⟩, ⟨'i', "ignore-case", .nothing, true⟩,
    ⟨'s', "skip-chars", .value, true⟩, ⟨'u', "unique", .nothing, true⟩,
    ⟨'w', "check-chars", .value, true⟩, ⟨'z', "zero-terminated", .nothing, true⟩] 1
  (fun j p =>
    let terminator := if p.has 'z' then '\x00' else '\n'
    let wrong := [('f', "fields to skip"), ('s', "bytes to skip"), ('w', "bytes to compare")]
      |>.findSome? fun (letter, what) =>
        ((p.all letter).find? fun v => (number? v).isNone).map fun v =>
          "uniq: ".toList ++ v ++ ": invalid number of ".toList ++ what.toList
    let number := fun letter => (p.last? letter).bind number?
    let all := p.has 'D' || p.has 'A'
    let grouped := p.has 'G'
    match p.operands.drop 2, wrong with
    | extra :: _, _ => j.misused "uniq" ("extra operand ".toList ++ quoted extra) 1
    | [], some problem => j.refuse problem 1
    | [], none =>
      if grouped && (p.has 'c' || p.has 'd' || all || p.has 'u') then
        j.misused "uniq" "--group is mutually exclusive with -c/-d/-D/-u".toList 1
      else if all && p.has 'c' then
        j.misused "uniq"
          "printing all duplicated lines and repeat counts is meaningless".toList 1
      else
        let o : Comparing := {
          fields := (number 'f').getD 0, bytes := (number 's').getD 0, most := number 'w'
          fold := p.has 'i' }
        let result := fun b : Bytes =>
          let runs := o.runs (bareLines terminator b)
          let shown := fun run : List Bytes =>
            let count := padLeft 7 (decimal run.length) ++ [' ']
            (if p.has 'c' then count else []) ++ run.headD []
          if grouped then
            let word := (p.last? 'G').getD []
            separated (if word.isEmpty then "separate" else String.ofList word) runs
          else if all then
            if p.has 'u' then (runs.map List.dropLast).flatten
            else
              separated (String.ofList ((p.last? 'A').getD [])) (runs.filter (1 < ·.length))
          else
            (runs.filter fun run =>
              if run.length = 1 then ! p.has 'd' else ! p.has 'u').map shown
        let ended := j.each (p.operands.take 1) (unreadable "uniq") fun sources =>
          joinLines terminator (result (sources.flatMap (·.2)))
        match p.operands with
        | [_, path] =>
          if path = ['-'] then ended
          else { ended with stdout := [], written := [(path, ended.stdout)] }
        | _ => ended)
  { j with args := modernSkips j.args }

end AmbientDecls.Toolbox
