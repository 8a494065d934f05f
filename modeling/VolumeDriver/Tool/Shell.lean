import VolumeDriver.Text.Blank
import VolumeDriver.Text.ShellWords

/-!
# A small shell

Enough of a shell to run a list of simple commands: `echo`, `printf`, `cat`, `true`, `false`, `exit` and `kill` of the shell
itself. Standard error goes where standard output goes. A list ends early when it exits or is killed.
-/

namespace VolumeDriver.Shell

/-- How far a list of commands got. -/
inductive Progress where
  /-- The code of the last command. -/
  | goesOn (code : Nat)
  | exited (code : Nat)
  | killed (signal : Nat)
  deriving DecidableEq, Repr

/-- Cuts a list of commands at semicolons and line feeds that no quote covers. -/
def statementsFrom (quote : Option Char) (current : List Char) : List Char → List (List Char)
  | [] => [current.reverse]
  | c :: cs =>
    match quote with
    | some q => statementsFrom (if c = q then none else quote) (c :: current) cs
    | none =>
      if c = ';' ∨ c = '\n' then current.reverse :: statementsFrom none [] cs
      else if c = '\'' ∨ c = '"' then statementsFrom (some c) (c :: current) cs
      else statementsFrom none (c :: current) cs

/-- The value of an octal digit. -/
def octal? (c : Char) : Option Nat := if '0' ≤ c ∧ c ≤ '7' then some (c.toNat - '0'.toNat) else none

/-- Where a reader of a format stands: in text, behind a backslash, or in a code of octal digits. -/
inductive FormatState where
  | text
  | escape
  | code (value digits : Nat)
  | directive

def bytesOf (c : Char) : List UInt8 := (String.singleton c).toUTF8.toList

/-- What a character behind a backslash stands for. -/
def escaped (c : Char) : List UInt8 :=
  if c = 'n' then [10] else if c = 't' then [9] else if c = 'r' then [13] else if c = '\\' then [92]
  else 92 :: bytesOf c

/-- The bytes of a format, in which `%s` stands for the next argument. -/
def format (args : List String) : FormatState → List Char → List UInt8
  | .text, [] => []
  | .escape, [] => [92]
  | .directive, [] => [37]
  | .code value _, [] => [value.toUInt8]
  | .text, c :: cs =>
    if c = '\\' then format args .escape cs
    else if c = '%' then format args .directive cs
    else bytesOf c ++ format args .text cs
  | .escape, c :: cs =>
    match octal? c with
    | some d => format args (.code d 1) cs
    | none => escaped c ++ format args .text cs
  | .directive, c :: cs =>
    if c = '%' then 37 :: format args .text cs
    else (args.head?.getD "").toUTF8.toList ++ format (args.drop 1) .text cs
  | .code value digits, c :: cs =>
    match (if digits < 3 then octal? c else none) with
    | some d => format args (.code (8 * value + d) (digits + 1)) cs
    | none =>
      value.toUInt8 :: if c = '\\' then format args .escape cs
        else if c = '%' then format args .directive cs
        else bytesOf c ++ format args .text cs

/-- Whether a word only says where output goes. -/
def isRedirection (word : String) : Bool := word ∈ [">&2", "1>&2", "2>&1", ">&1"]

def textBytes (s : String) : List UInt8 := s.toUTF8.toList

/-- Runs one command. -/
def runWords (stdin : String) (code : Nat) : List String → List UInt8 × Progress
  | [] => ([], .goesOn code)
  | program :: args =>
    match program, args with
    | "echo", args => (textBytes (Text.joinWith " " args ++ "\n"), .goesOn 0)
    | "printf", pattern :: args => (format args .text pattern.toList, .goesOn 0)
    | "cat", [] => (textBytes stdin, .goesOn 0)
    | "true", _ | ":", _ => ([], .goesOn 0)
    | "false", _ => ([], .goesOn 1)
    | "exit", [] => ([], .exited code)
    | "exit", n :: _ => ([], .exited ((n.toNat?.getD 2) % 256))
    | "kill", ["$$"] => ([], .killed 15)
    | "kill", [signal, "$$"] => ([], .killed (((signal.drop 1).toString.toNat?).getD 15))
    | _, _ => (textBytes ("sh: 1: " ++ program ++ ": not found\n"), .goesOn 127)

/-- Runs commands one after the other. -/
def runStatements (stdin : String) (code : Nat) : List (List Char) → List UInt8 × Progress
  | [] => ([], .goesOn code)
  | s :: rest =>
    match Text.shellWords (String.ofList s) with
    | none => (textBytes "sh: 1: Syntax error: Unterminated quoted string\n", .exited 2)
    | some words =>
      match runWords stdin code (words.filter (!isRedirection ·)) with
      | (output, .goesOn code) =>
        let (more, progress) := runStatements stdin code rest
        (output ++ more, progress)
      | stopped => stopped

/-- Runs a list of commands. -/
def run (stdin : String) (list : String) : List UInt8 × Progress :=
  runStatements stdin 0 (statementsFrom none [] list.toList)

end VolumeDriver.Shell
