import QueryNav.Report

/-! The command line. With the word `--analyze` the program prints a report on the file that follows,
and otherwise it serves an editor. The file is named by a relative path that cannot lead out of the
working folder; any other name is refused before the disk is looked at. -/

namespace QueryNav.CommandLine

open Text

/-- The characters that no argument for a file may hold: NUL, line feed, carriage return, tab. -/
def suspicious : List Char := [Char.ofNat 0, '\n', '\r', '\t']

/-- Whether the second byte of a text is a colon. The byte of a colon never is part of another
character, so this asks for a one-byte character and then a colon. -/
def colonSecond (text : Text) : Bool :=
  match text with
  | c :: ':' :: _ => c.utf8Size = 1
  | _ => false

/-- Whether a path names something below the working folder by its text alone. -/
def isSafe (path : Path) : Bool :=
  path.text ≠ [] && !path.isAbsolute && !path.components.contains .parent &&
    !path.text.any (fun c => suspicious.contains c) && !colonSecond path.text

def analyzeOption : Text := "--analyze".toList

def importsOnlyOption : Text := "--imports-only".toList

/-- Whether an argument is an option, so that it cannot be the name of a file. -/
def isOption (argument : Text) : Bool := ['-', '-'].isPrefixOf argument

inductive Failure where
  | usage
  | unsafePath (path : Path)
  | failed (failure : Report.Failure)
  deriving DecidableEq, Repr

def usageText : String :=
  "Usage: ezsql-lsp --analyze [--imports-only] <relative-file-path>\n" ++
  "  --analyze <file>     : Header imports and resolved import targets as JSON\n" ++
  "  --imports-only       : Skip definition resolution"

def Failure.message : Failure → Text
  | .usage => usageText.toList
  | .unsafePath path => "Unsafe file path: ".toList ++ path.text
  | .failed failure => failure.message

inductive Task where
  | serve
  | analyze (path : Path) (importsOnly : Bool)
  deriving DecidableEq, Repr

/-- The arguments behind the first word `--analyze`. -/
def afterAnalyze? : List Text → Option (List Text)
  | [] => none
  | argument :: rest => if argument = analyzeOption then some rest else afterAnalyze? rest

/-- The task of a list of arguments, in which the name of the program is not included. -/
def task (arguments : List Text) : Except Failure Task :=
  match afterAnalyze? arguments with
  | none => .ok .serve
  | some rest =>
    match rest.dropWhile isOption with
    | [] => .error .usage
    | name :: _ =>
      if isSafe ⟨name⟩ then .ok (.analyze ⟨name⟩ (arguments.contains importsOnlyOption))
      else .error (.unsafePath ⟨name⟩)

/-- The report that the arguments ask for, or none if they ask to serve an editor. -/
def report? (disk : Disk) (arguments : List Text) : Except Failure (Option Report) :=
  match task arguments with
  | .error failure => .error failure
  | .ok .serve => .ok none
  | .ok (.analyze path importsOnly) =>
    match Report.analyze disk .standard importsOnly path with
    | .ok report => .ok (some report)
    | .error failure => .error (.failed failure)

structure Outcome where
  exitCode : Nat
  output : Text
  errors : Text
  deriving DecidableEq, Repr

/-- The outcome of a request for a report, or none if the program goes on to serve an editor. -/
def outcome? (disk : Disk) (arguments : List Text) : Option Outcome :=
  match report? disk arguments with
  | .ok none => none
  | .ok (some report) => some ⟨0, report.render ++ ['\n'], []⟩
  | .error failure => some ⟨2, [], "ezsql-lsp analyze error: ".toList ++ failure.message ++ ['\n']⟩

end QueryNav.CommandLine
