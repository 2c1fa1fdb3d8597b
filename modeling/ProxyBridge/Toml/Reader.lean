import ProxyBridge.Toml.Dates
import ProxyBridge.Toml.Format
import ProxyBridge.Toml.Numbers
import ProxyBridge.Toml.Strings
import ProxyBridge.Toml.Tables

/-!
# Reading TOML

A text is a sequence of lines, each of them empty, a header or an assignment; a value may extend
over several lines. The readers take an allowance where a text could go on without end: of names in
a key, of nesting, or of characters.

* `value?` reads a value, `Document.ofText?` a whole text.
* `entriesOfText?` is the table that a text stands for.
-/

namespace ProxyBridge.Toml

/-! ## Keys -/

/-- One name of a key. -/
def name? : List Char → Option (String × List Char)
  | '"' :: cs => line? .basic cs
  | '\x27' :: cs => line? .literal cs
  | cs =>
    match cs.takeWhile isBare with
    | [] => none
    | name => some (String.ofList name, cs.dropWhile isBare)

/-- A key of so many names at most, with the blanks around it. -/
def key? : Nat → List Char → Option (List String × List Char)
  | 0, _ => none
  | limit + 1, cs => do
    let (name, rest) ← name? (skipBlanks cs)
    match skipBlanks rest with
    | '.' :: rest =>
      let (names, rest) ← key? limit rest
      return (name :: names, rest)
    | rest => return ([name], rest)

/-! ## Values -/

/-- A value without brackets and braces. -/
def scalar? : List Char → Option (Value × List Char)
  | 't' :: 'r' :: 'u' :: 'e' :: cs => some (.boolean true, cs)
  | 'f' :: 'a' :: 'l' :: 's' :: 'e' :: cs => some (.boolean false, cs)
  | '"' :: cs => (string? ('"' :: cs)).map fun p => (.string p.1, p.2)
  | '\x27' :: cs => (string? ('\x27' :: cs)).map fun p => (.string p.1, p.2)
  | cs =>
    match afterDate? cs with
    | some rest => some (.date, rest)
    | none => number? cs

/-- The items of an array, after its bracket or a comma, up to the closing bracket. -/
def items? (item? : List Char → Option (Value × List Char)) :
    Nat → List Char → Option (List Value × List Char)
  | 0, _ => none
  | fuel + 1, cs => do
    match ← skipFill? false cs with
    | ']' :: rest => return ([], rest)
    | cs =>
      let (v, rest) ← item? cs
      match ← skipFill? false rest with
      | ',' :: rest =>
        let (vs, rest) ← items? item? fuel rest
        return (v :: vs, rest)
      | ']' :: rest => return ([v], rest)
      | _ => none

/-- A key, an equals sign and a value. -/
def assignment? (item? : List Char → Option (Value × List Char)) (cs : List Char) :
    Option (Assignment × List Char) := do
  let (path, rest) ← key? depthLimit cs
  let rest ← after? '=' rest
  let (value, rest) ← item? (skipBlanks rest)
  return ({ path, value }, rest)

/-- The assignments in braces, after the opening one or a comma, up to the closing one. -/
def fields? (item? : List Char → Option (Value × List Char)) :
    Nat → List Char → Option (List Assignment × List Char)
  | 0, _ => none
  | fuel + 1, cs => do
    let (a, rest) ← assignment? item? cs
    match skipBlanks rest with
    | ',' :: rest =>
      let (body, rest) ← fields? item? fuel rest
      return (a :: body, rest)
    | '\x7d' :: rest => return ([a], rest)
    | _ => none

/-- A table in braces, after the opening one. -/
def braces? (item? : List Char → Option (Value × List Char)) (cs : List Char) :
    Option (Value × List Char) := do
  match skipBlanks cs with
  | '\x7d' :: rest => return (.inline [], rest)
  | cs =>
    let (body, rest) ← fields? item? (cs.length + 1) cs
    return (← inlineTable? body, rest)

/-- A value with so many levels of brackets and braces at most. -/
def value? : Nat → List Char → Option (Value × List Char)
  | 0, cs => scalar? cs
  | depth + 1, cs =>
    match cs with
    | '[' :: cs => (items? (value? depth) (cs.length + 1) cs).map fun p => (.array p.1, p.2)
    | '\x7b' :: cs => braces? (value? depth) cs
    | cs => scalar? cs

/-! ## Lines -/

/-- A header in the given number of brackets, after the opening ones, up to the end of its line. -/
def header? (double : Bool) (cs : List Char) : Option (List String × List Char) := do
  let (path, rest) ← key? depthLimit cs
  let rest ← after? ']' rest
  let rest ← if double then after? ']' rest else some rest
  return (path, ← endLine? rest)

/-- The line has neither a header nor an assignment. -/
def isEmptyLine : List Char → Bool
  | '#' :: _ | '\n' :: _ | '\r' :: _ => true
  | _ => false

namespace Document

/-- A document with one more assignment in front. -/
def consAssignment (a : Assignment) (d : Document) : Document :=
  { d with preamble := a :: d.preamble }

/-- A document with a header in front, which takes over the assignments up to the next one. -/
def consHeader (heading : Heading) (path : List String) (d : Document) : Document :=
  { preamble := [], sections := { heading, path, body := d.preamble } :: d.sections }

/-- The document of the lines from here on. -/
def ofLines? : Nat → List Char → Option Document
  | 0, _ => none
  | fuel + 1, cs => do
    match skipBlanks cs with
    | [] => return { preamble := [], sections := [] }
    | '[' :: '[' :: cs =>
      let (path, rest) ← header? true cs
      return consHeader .element path (← ofLines? fuel rest)
    | '[' :: cs =>
      let (path, rest) ← header? false cs
      return consHeader .table path (← ofLines? fuel rest)
    | cs =>
      if isEmptyLine cs then ofLines? fuel (← endLine? cs)
      else
        let (a, rest) ← assignment? (value? depthLimit) cs
        return consAssignment a (← ofLines? fuel (← endLine? rest))

/-- The text without the byte order mark it begins with, if it does. -/
def skipMark : List Char → List Char
  | '\ufeff' :: cs => cs
  | cs => cs

/-- The document that a text is. -/
def ofText? (text : String) : Option Document :=
  let cs := skipMark text.toList
  ofLines? (cs.length + 1) cs

end Document

/-- The table that a text stands for. -/
def entriesOfText? (text : String) : Option Entries := do
  (← Document.ofText? text).entries?

end ProxyBridge.Toml
