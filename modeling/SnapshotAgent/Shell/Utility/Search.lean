import SnapshotAgent.Shell.Utility.Basic
import SnapshotAgent.Shell.Regex
/-!
# Searching and editing lines: `grep` and `sed`

`grep` prints the lines of its inputs that a pattern matches somewhere: a basic regular
expression, an extended one with `-E`, or fixed text with `-F`. `-v` selects the lines that do
not match, `-i` ignores case, `-w` and `-x` ask for a whole word or the whole line, `-c` counts,
`-l` names the files, `-n` numbers the lines, `-o` prints each match alone and `-q` prints
nothing. The status is 0 when a line was selected, 1 when none was, and 2 after an error.

`sed` runs a script over each line: commands `s`, `d`, `p`, `q`, `y` and `=`, each perhaps
after an address (a line number, `$`, or a regular expression) or a range of two; `-n` keeps
lines from being printed at the end of each cycle.

A match is the leftmost one, and of those the longest.
-/

namespace SnapshotAgent.Shell

/-- Every match of a line, left to right, none overlapping; an empty match moves on by one. -/
def allMatches (r : Regex) (input : Array Char) : List (Nat × Nat × Captures) :=
  let rec go (fuel : Nat) (pos : Nat) : List (Nat × Nat × Captures) :=
    match fuel with
    | 0 => []
    | fuel + 1 =>
      if pos > input.size then []
      else match firstMatch r input pos with
        | some (s, e, caps) => (s, e, caps) :: go fuel (if e = s then e + 1 else e)
        | none => []
  go (input.size + 2) 0

/-- Whether a character makes up words. -/
def isWordChar (c : Char) : Bool := c.isAlphanum || c = '_'

/-- A regular expression for fixed text. -/
def Regex.literal (s : String) : Regex :=
  s.toList.foldl (fun r c => r.andThen (.char c)) .empty

/-- ASCII letters in lower case. -/
def lowerText (s : String) : String := String.ofList (s.toList.map Char.toLower)

/-- The options of `grep`. -/
structure GrepOptions where
  extended : Bool := false
  fixed : Bool := false
  invert : Bool := false
  ignoreCase : Bool := false
  word : Bool := false
  line : Bool := false
  count : Bool := false
  filesOnly : Bool := false
  numbers : Bool := false
  onlyMatching : Bool := false
  quiet : Bool := false
  noNames : Bool := false
  names : Bool := false
  silent : Bool := false
  deriving Repr, Inhabited

/-- Sets an option of `grep` by its letter; none for a letter it does not know. -/
def GrepOptions.set (o : GrepOptions) (c : Char) : Option GrepOptions :=
  match c with
  | 'E' => some { o with extended := true }
  | 'F' => some { o with fixed := true }
  | 'G' => some { o with extended := false, fixed := false }
  | 'v' => some { o with invert := true }
  | 'i' => some { o with ignoreCase := true }
  | 'y' => some { o with ignoreCase := true }
  | 'w' => some { o with word := true }
  | 'x' => some { o with line := true }
  | 'c' => some { o with count := true }
  | 'l' => some { o with filesOnly := true }
  | 'n' => some { o with numbers := true }
  | 'o' => some { o with onlyMatching := true }
  | 'q' => some { o with quiet := true }
  | 's' => some { o with silent := true }
  | 'h' => some { o with noNames := true }
  | 'H' => some { o with names := true }
  | _ => none

/-- The matches of a line that the options accept: whole words with `-w`, the whole line with
`-x`. -/
def GrepOptions.matchesOf (o : GrepOptions) (r : Regex) (line : String) : List (Nat × Nat) :=
  let text := if o.ignoreCase then lowerText line else line
  let input := text.toList.toArray
  if o.line then
    match longestMatch r input 0 with
    | some (e, _) => if e = input.size then [(0, e)] else []
    | none => []
  else if o.word then
    -- every start position, each with its longest match that is a whole word
    let starts := List.range (input.size + 1)
    starts.filterMap fun i =>
      let ends := (matchesFrom (4 * (input.size + 2) * (input.size + 2) + 64) input r i []).map (·.1)
      let good := ends.filter fun e =>
        (i = 0 || !isWordChar (input[i - 1]?.getD ' ')) &&
          (e = input.size || !isWordChar (input[e]?.getD ' ')) && e > i
      (good.foldl (fun m e => max m e) 0 |> fun e => if good.isEmpty then none else some (i, e))
  else (allMatches r input).map fun (s, e, _) => (s, e)

/-- `grep`. -/
def runGrep (name : String) (args : List String) (stdin : List UInt8) (fs : Files) : Outcome := Id.run do
  let mut opts : GrepOptions := {}
  let mut patterns : List String := []
  let mut operands : List String := []
  let mut rest := args
  let mut endOfOptions := false
  for _ in args do
    match rest with
    | [] => pure ()
    | a :: more =>
      if endOfOptions || !a.startsWith "-" || a = "-" then
        operands := operands ++ [a]
        rest := more
      else if a = "--" then
        endOfOptions := true
        rest := more
      else if a = "-e" then
        match more with
        | p :: after =>
          patterns := patterns ++ [p]
          rest := after
        | [] => return usageFailureCode fs name "option requires an argument -- 'e'" 2
      else
        let mut ok := true
        for c in (a.drop 1).toString.toList do
          match opts.set c with
          | some o => opts := o
          | none => ok := false
        if !ok then
          let bad := ((a.drop 1).toString.toList.filter fun c => (GrepOptions.set {} c).isNone).take 1
          let text := name ++ ": invalid option -- '" ++ String.ofList bad ++
            "'\nUsage: grep [OPTION]... PATTERNS [FILE]...\nTry 'grep --help' for more information.\n"
          return { execution := { stderr := Text.utf8Bytes text, ending := .exited 2 }, files := fs }
        rest := more
  let (given, files) :=
    if patterns.isEmpty then (operands.take 1, operands.drop 1) else (patterns, operands)
  if given.isEmpty then
    return { execution := { stderr := Text.utf8Bytes ("Usage: grep [OPTION]... PATTERNS [FILE]...\nTry 'grep --help' for more information.\n"), ending := .exited 2 }, files := fs }
  -- a pattern with several lines is several patterns
  let lines := given.flatMap (·.splitOn "\n")
  let compiled : Except RegexError (List Regex) := lines.mapM fun p =>
    let p := if opts.ignoreCase then lowerText p else p
    if opts.fixed then .ok (Regex.literal p) else (Regex.read opts.extended p).map (·.1)
  match compiled with
  | .error e => return { execution := { stderr := messageLine name e.message, ending := .exited 2 }, files := fs }
  | .ok regexes =>
    let r := match regexes with
      | [] => Regex.empty
      | first :: more => more.foldl (fun acc x => Regex.alt acc x) first
    let inputs := readInputs name files stdin fs
    let showNames := (inputs.length > 1 || opts.names) && !opts.noNames
    let mut out : List UInt8 := []
    let mut err : List UInt8 := []
    let mut selectedAny := false
    let mut failed := false
    for (op, input) in inputs do
      let label := if op = "-" then "(standard input)" else op
      match input with
      | .error m =>
        failed := true
        if !opts.silent then err := err ++ Text.utf8Bytes (m ++ "\n")
      | .ok bs =>
        let lines := splitLines bs
        let mut count := 0
        let mut n := 0
        for l in lines do
          n := n + 1
          let text := Text.decodeLossy l
          let ms := opts.matchesOf r text
          let selected := ms.isEmpty == opts.invert
          if selected then
            count := count + 1
            selectedAny := true
            if !opts.quiet && !opts.count && !opts.filesOnly then
              let lead := (if showNames then label ++ ":" else "") ++ (if opts.numbers then toString n ++ ":" else "")
              if opts.onlyMatching && !opts.invert then
                let cs := text.toList
                for (s, e) in ms do
                  if e > s then
                    out := out ++ Text.utf8Bytes (lead ++ String.ofList ((cs.drop s).take (e - s)) ++ "\n")
              else out := out ++ Text.utf8Bytes lead ++ l ++ [10]
        if opts.count && !opts.quiet then
          out := out ++ Text.utf8Bytes ((if showNames then label ++ ":" else "") ++ toString count ++ "\n")
        if opts.filesOnly && count > 0 && !opts.quiet then
          out := out ++ Text.utf8Bytes (label ++ "\n")
    let code := if failed && !(opts.quiet && selectedAny) then 2 else if selectedAny then 0 else 1
    return { execution := { stdout := out, stderr := err, ending := .exited code }, files := fs }

/-! ## sed -/

/-- Where a `sed` command applies. -/
inductive Address where
  | line (n : Nat)
  | last
  | regex (r : Regex)
  deriving Repr, Inhabited

/-- A `sed` command. -/
inductive EditCommand where
  | substitute (r : Regex) (replacement : List Char) (global : Bool) (nth : Nat) (print : Bool)
  | delete
  | print
  | quit
  | transliterate (pairs : List (Char × Char))
  | lineNumber
  deriving Repr, Inhabited

/-- A command with its addresses. -/
structure Edit where
  first : Option Address := none
  last : Option Address := none
  negated : Bool := false
  command : EditCommand
  deriving Repr, Inhabited

/-- Reads text up to an unescaped delimiter: the text, with `\` before the delimiter dropped,
and the rest after the delimiter. -/
def untilDelimiter (fuel : Nat) (delim : Char) (cs : List Char) (acc : List Char) :
    Option (List Char × List Char) :=
  match fuel with
  | 0 => none
  | fuel + 1 =>
    match cs with
    | [] => none
    | '\\' :: c :: rest =>
      if c = delim then untilDelimiter fuel delim rest (c :: acc)
      else if c = 'n' then untilDelimiter fuel delim rest ('n' :: '\\' :: acc)
      else untilDelimiter fuel delim rest (c :: '\\' :: acc)
    | c :: rest => if c = delim then some (acc.reverse, rest) else untilDelimiter fuel delim rest (c :: acc)

/-- Reads an address. -/
def readAddress (extended : Bool) (cs : List Char) : Except String (Option Address × List Char) :=
  match cs with
  | '$' :: rest => .ok (some .last, rest)
  | '/' :: rest =>
    match untilDelimiter (rest.length + 1) '/' rest [] with
    | some (body, more) =>
      match Regex.read extended (String.ofList body) with
      | .ok (r, _) => .ok (some (.regex r), more)
      | .error e => .error e.message
    | none => .error "unterminated address regex"
  | c :: _ =>
    if c.isDigit then
      let ds := cs.takeWhile Char.isDigit
      .ok (some (.line (String.ofList ds).toNat!), cs.drop ds.length)
    else .ok (none, cs)
  | [] => .ok (none, cs)

/-- Reads the commands of a `sed` script. -/
def readEdits (extended : Bool) (fuel : Nat) (cs : List Char) (acc : List Edit) : Except String (List Edit) :=
  match fuel with
  | 0 => .ok acc
  | fuel + 1 =>
    let cs := cs.dropWhile fun c => c = ' ' || c = '\t' || c = '\n' || c = ';'
    if cs.isEmpty then .ok acc
    else do
      let (first, cs) ← readAddress extended cs
      let (last, cs) ← match first, cs with
        | some _, ',' :: more => do
          let (a, rest) ← readAddress extended more
          match a with
          | some _ => pure (a, rest)
          | none => throw "unexpected ','"
        | _, _ => pure (none, cs)
      let cs := cs.dropWhile fun c => c = ' '
      let (negated, cs) := match cs with
        | '!' :: more => (true, more.dropWhile fun c => c = ' ')
        | _ => (false, cs)
      match cs with
      | 's' :: d :: rest =>
        match untilDelimiter (rest.length + 1) d rest [] with
        | none => throw "unterminated 's' command"
        | some (pat, rest) =>
          match untilDelimiter (rest.length + 1) d rest [] with
          | none => throw "unterminated 's' command"
          | some (repl, rest) =>
            let flags := rest.takeWhile fun c => c = 'g' || c = 'p' || c.isDigit || c = 'i' || c = 'I'
            let rest := rest.drop flags.length
            let nth := (String.ofList (flags.filter Char.isDigit)).toNat?.getD 1
            let ignore := flags.contains 'i' || flags.contains 'I'
            let pat := String.ofList pat
            let pat := if ignore then lowerText pat else pat
            match Regex.read extended pat with
            | .error e => throw e.message
            | .ok (r, _) =>
              let cmd := EditCommand.substitute r repl (flags.contains 'g') nth (flags.contains 'p')
              readEdits extended fuel rest (acc ++ [{ first, last, negated, command := cmd }])
      | 'y' :: d :: rest =>
        match untilDelimiter (rest.length + 1) d rest [] with
        | none => throw "unterminated 'y' command"
        | some (a, rest) =>
          match untilDelimiter (rest.length + 1) d rest [] with
          | none => throw "unterminated 'y' command"
          | some (b, rest) =>
            if a.length ≠ b.length then throw "strings for 'y' command are different lengths"
            else readEdits extended fuel rest (acc ++ [{ first, last, negated, command := .transliterate (a.zip b) }])
      | c :: rest =>
        let cmd : Option EditCommand :=
          if c = 'd' then some .delete else if c = 'p' then some .print
          else if c = 'q' then some .quit else if c = '=' then some .lineNumber else none
        match cmd with
        | some k => readEdits extended fuel rest (acc ++ [{ first, last, negated, command := k }])
        | none => throw ("unknown command: '" ++ String.singleton c ++ "'")
      | [] => throw "missing command"

/-- The replacement of a match: `&` is the match, `\1` to `\9` its groups, `\n` a newline. -/
def replacementText (input : Array Char) (s e : Nat) (caps : Captures) (repl : List Char) : List Char :=
  let rec go : List Char → List Char
    | '\\' :: c :: rest =>
      if c.isDigit && c ≠ '0' then ((capturedText input caps (c.toNat - 48)).getD []) ++ go rest
      else if c = 'n' then '\n' :: go rest
      else if c = 't' then '\t' :: go rest
      else c :: go rest
    | '&' :: rest => (input.extract s e).toList ++ go rest
    | c :: rest => c :: go rest
    | [] => []
  go repl

/-- Substitutes matches in a line: the `nth` or, with `global`, that and every later one;
answers the line and whether any was replaced. -/
def substituteLine (r : Regex) (repl : List Char) (global : Bool) (nth : Nat) (ignoreCase : Bool)
    (line : String) : String × Bool :=
  let input := line.toList.toArray
  let search := if ignoreCase then (lowerText line).toList.toArray else input
  let ms := allMatches r search
  let chosen := (ms.zipIdx).filter fun (_, i) => if global then i + 1 ≥ nth else i + 1 = nth
  if chosen.isEmpty then (line, false)
  else
    let (out, pos) := chosen.foldl (fun (acc, pos) ((s, e, caps), _) =>
      (acc ++ (input.extract pos s).toList ++ replacementText input s e caps repl, e)) ([], 0)
    (String.ofList (out ++ (input.extract pos input.size).toList), true)

/-- Whether an address holds for a line. -/
def Address.holds (a : Address) (n : Nat) (isLast : Bool) (line : String) : Bool :=
  match a with
  | .line k => n = k
  | .last => isLast
  | .regex r => !(allMatches r line.toList.toArray).isEmpty

/-- `sed`. -/
def runSed (name : String) (args : List String) (stdin : List UInt8) (fs : Files) : Outcome := Id.run do
  let mut quiet := false
  let mut extended := false
  let mut scripts : List String := []
  let mut operands : List String := []
  let mut rest := args
  for _ in args do
    match rest with
    | [] => pure ()
    | a :: more =>
      if a = "-n" then quiet := true; rest := more
      else if a = "-E" || a = "-r" then extended := true; rest := more
      else if a = "-e" then
        match more with
        | s :: after => scripts := scripts ++ [s]; rest := after
        | [] => return usageFailure fs name "option requires an argument -- 'e'"
      else if a.startsWith "-" && a.length > 1 && (a.drop 1).all (fun c => c = 'n' || c = 'E' || c = 'r') then
        if a.contains 'n' then quiet := true
        if a.contains 'E' || a.contains 'r' then extended := true
        rest := more
      else operands := operands ++ [a]; rest := more
  let (given, files) := if scripts.isEmpty then (operands.take 1, operands.drop 1) else (scripts, operands)
  if given.isEmpty then
    return { execution := { stderr := Text.utf8Bytes ("Usage: " ++ name ++ " [OPTION]... \x7bscript-only-if-no-other-script\x7d [input-file]...\n"), ending := .exited 1 }, files := fs }
  let text := "\n".intercalate given
  match readEdits extended (text.length + 1) text.toList [] with
  | .error m => return { execution := { stderr := messageLine name ("-e expression #1, char " ++ toString text.length ++ ": " ++ m), ending := .exited 1 }, files := fs }
  | .ok edits =>
    let inputs := readInputs name files stdin fs
    let mut err : List UInt8 := []
    let mut all : List (List UInt8) := []
    let mut failed := false
    for (_, r) in inputs do
      match r with
      | .ok bs => all := all ++ splitLines bs
      | .error m =>
        err := err ++ Text.utf8Bytes (m ++ "\n")
        failed := true
    let total := all.length
    let mut out : List UInt8 := []
    let mut active : List Bool := edits.map fun _ => false
    let mut n := 0
    let mut stop := false
    for raw in all do
      if stop then break
      n := n + 1
      let mut line := Text.decodeLossy raw
      let mut deleted := false
      let mut newActive : List Bool := []
      let isLast := n = total
      for (ed, wasActive) in edits.zip active do
        if deleted || stop then
          newActive := newActive ++ [wasActive]
          continue
        -- a range is active from a line its first address holds for to one its last does
        let (applies, nowActive) := match ed.first, ed.last with
          | none, _ => (true, false)
          | some a, none => (a.holds n isLast line, false)
          | some a, some b =>
            if wasActive then
              let ends := match b with
                | .line k => n ≥ k
                | _ => b.holds n isLast line
              (true, !ends)
            else if a.holds n isLast line then
              let ends := match b with
                | .line k => n ≥ k
                | _ => false
              (true, !ends)
            else (false, false)
        newActive := newActive ++ [nowActive]
        if applies != ed.negated then
          match ed.command with
          | .substitute r repl global nth print =>
            let (l, changed) := substituteLine r repl global nth false line
            line := l
            if changed && print then out := out ++ Text.utf8Bytes (line ++ "\n")
          | .delete => deleted := true
          | .print => out := out ++ Text.utf8Bytes (line ++ "\n")
          | .quit => stop := true
          | .transliterate pairs =>
            line := String.ofList (line.toList.map fun c => (pairs.lookup c).getD c)
          | .lineNumber => out := out ++ Text.utf8Bytes (toString n ++ "\n")
      active := newActive
      if !deleted && !quiet then out := out ++ Text.utf8Bytes (line ++ "\n")
    return { execution := { stdout := out, stderr := err, ending := .exited (if failed then 2 else 0) }, files := fs }

end SnapshotAgent.Shell
