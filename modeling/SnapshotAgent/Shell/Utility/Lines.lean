import SnapshotAgent.Shell.Utility.Basic
/-!
# Utilities on lines and bytes

`wc` counts lines, words and bytes; `head` and `tail` keep the first or last lines (or bytes);
`tr` translates, deletes or squeezes bytes; `cut` selects fields or characters of each line;
`sort` orders lines, `uniq` drops adjacent repeats, and `rev` reverses each line.

Text is read in the C locale: bytes compare by value, blanks are the six ASCII white-space
characters, and a character is a byte.
-/

namespace SnapshotAgent.Shell

/-- Whether a byte is white space. -/
def isSpaceByte (b : UInt8) : Bool := b = 32 || (9 ≤ b && b ≤ 13)

/-- Reads a count argument of a utility. -/
def readCount (s : String) : Option Nat := if s.all Char.isDigit && !s.isEmpty then some s.toNat! else none

/-! ## wc -/

/-- The counts of `wc`: lines, words, bytes and the longest line. -/
structure Counts where
  lines : Nat := 0
  words : Nat := 0
  bytes : Nat := 0
  longest : Nat := 0
  deriving Repr, Inhabited

/-- Counts bytes. -/
def countBytes (bs : List UInt8) : Counts :=
  let lines := (bs.filter (· = 10)).length
  let (words, _) := bs.foldl (fun (n, inWord) b =>
    if isSpaceByte b then (n, false) else if inWord then (n, true) else (n + 1, true)) (0, false)
  let longest := (bs.splitOn 10).foldl (fun m l =>
    max m (l.foldl (fun w b => if b = 9 then w + 8 - w % 8 else if 32 ≤ b && b < 127 then w + 1 else w) 0)) 0
  { lines, words, bytes := bs.length, longest }

/-- Adds counts. -/
def Counts.add (a b : Counts) : Counts :=
  { lines := a.lines + b.lines, words := a.words + b.words, bytes := a.bytes + b.bytes,
    longest := max a.longest b.longest }

/-- `wc`: counts of each input, and a total when there are several. Numbers are padded to a
common width: one when only one number of one input is printed, else wide enough for the total
size of the files, and at least seven when an input is not a file. -/
def runWc (name : String) (args : List String) (stdin : List UInt8) (fs : Files) : Outcome :=
  let (opts, operands) := splitOptions args
  let letters := opts.flatMap fun o =>
    if o.startsWith "--" then
      match o with
      | "--lines" => ['l']
      | "--words" => ['w']
      | "--bytes" => ['c']
      | "--chars" => ['m']
      | "--max-line-length" => ['L']
      | _ => ['?']
    else (o.drop 1).toString.toList
  match letters.find? fun c => !"lwcmL".toList.contains c with
  | some c => usageFailure fs name ("invalid option -- " ++ quoted (String.singleton c))
  | none =>
    let chosen := if letters.isEmpty then ['l', 'w', 'c'] else letters
    let fields := ['l', 'w', 'm', 'c', 'L'].filter chosen.contains
    let inputs := readInputs name operands stdin fs
    let sizes := inputs.map fun (op, r) =>
      match r with
      | .ok bs => if op = "-" || op = "/dev/null" then none else some bs.length
      | .error _ => some 0
    let width :=
      if fields.length = 1 && inputs.length = 1 then 1
      else
        let total := sizes.foldl (fun acc s => acc + s.getD 0) 0
        let least := if sizes.any Option.isNone then 7 else 1
        max least (toString total).length
    let pad (n : Nat) : String :=
      let t := toString n
      String.ofList (List.replicate (width - t.length) ' ') ++ t
    let line (c : Counts) (label : Option String) : String :=
      let nums := fields.map fun f =>
        if f = 'l' then c.lines else if f = 'w' then c.words
        else if f = 'L' then c.longest else c.bytes
      " ".intercalate (nums.map pad) ++ (match label with
        | some l => " " ++ l
        | none => "") ++ "\n"
    let (out, err, total, failed) := inputs.foldl (fun (out, err, total, failed) (op, r) =>
      match r with
      | .ok bs =>
        let c := countBytes bs
        (out ++ line c (if operands.isEmpty then none else some op), err, total.add c, failed)
      | .error m => (out, err ++ m ++ "\n", total, true)) ("", "", ({} : Counts), false)
    let out := if inputs.length > 1 then out ++ line total (some "total") else out
    { execution := { stdout := Text.utf8Bytes out, stderr := Text.utf8Bytes err,
                     ending := .exited (if failed then 1 else 0) }, files := fs }

/-! ## head and tail -/

/-- How many lines or bytes to keep: from the start, or all but some at the end (for `head`), or
from a position (for `tail`). -/
structure Amount where
  bytes : Bool := false
  count : Nat := 10
  /-- `head -n -N` keeps all but the last N; `tail -n +N` starts at the Nth. -/
  signed : Bool := false
  deriving Repr, Inhabited

/-- Reads the options of `head` or `tail`: the amount and the operands, or the message. A `-`
before the count counts from the end for `head`, a `+` from the start for `tail`. -/
def readAmount (isHead : Bool) (args : List String) : Except String (Amount × List String) := Id.run do
  let mut amount : Amount := {}
  let mut rest := args
  let mut operands : List String := []
  for _ in args do
    match rest with
    | [] => pure ()
    | a :: more =>
      let (flag, value, after) :=
        if a = "-n" || a = "-c" then (a, more.head?, more.drop 1)
        else if (a.startsWith "-n" || a.startsWith "-c") && a.length > 2 then
          ((a.take 2).toString, some (a.drop 2).toString, more)
        else if a.startsWith "-" && a.length > 1 && (a.drop 1).all Char.isDigit then
          ("-n", some (a.drop 1).toString, more)
        else ("", none, more)
      if flag.isEmpty then
        operands := operands ++ [a]
        rest := after
      else
        match value with
        | none => return .error ("option requires an argument -- " ++ quoted ((flag.drop 1).toString))
        | some v =>
          let (signed, digits) :=
            if v.startsWith "-" || v.startsWith "+" then
              (v.startsWith (if isHead then "-" else "+"), (v.drop 1).toString)
            else (false, v)
          match readCount digits with
          | some n => amount := { bytes := flag = "-c", count := n, signed }
          | none => return .error ("invalid number of " ++ (if flag = "-c" then "bytes" else "lines") ++ ": " ++ quoted v)
          rest := after
  return .ok (amount, operands)

/-- The first lines (or bytes) of an input, or all but the last when `signed`. -/
def Amount.head (a : Amount) (bs : List UInt8) : List UInt8 :=
  if a.bytes then (if a.signed then bs.take (bs.length - a.count) else bs.take a.count)
  else
    let ls := bs.splitOn 10
    -- the pieces after splitting: every piece but the last ended with a newline
    let complete := ls.dropLast
    let keep := if a.signed then complete.length + (if ls.getLast? = some [] then 0 else 1) - a.count else a.count
    let withNl := complete.map (· ++ [10]) ++ (match ls.getLast? with
      | some [] | none => []
      | some l => [l])
    (withNl.take keep).flatten

/-- The last lines (or bytes) of an input, or from a position when `signed`. -/
def Amount.tail (a : Amount) (bs : List UInt8) : List UInt8 :=
  if a.bytes then (if a.signed then bs.drop (a.count - 1) else bs.drop (bs.length - a.count))
  else
    let ls := bs.splitOn 10
    let complete := ls.dropLast
    let withNl := complete.map (· ++ [10]) ++ (match ls.getLast? with
      | some [] | none => []
      | some l => [l])
    if a.signed then (withNl.drop (a.count - 1)).flatten
    else (withNl.drop (withNl.length - a.count)).flatten

/-- `head` or `tail` over their inputs, with a header before each when there are several. -/
def runEnds (name : String) (isHead : Bool) (args : List String) (stdin : List UInt8) (fs : Files) :
    Outcome :=
  match readAmount isHead args with
  | .error m => usageFailure fs name m
  | .ok (amount, operands) =>
    let inputs := readInputs name operands stdin fs
    let many := inputs.length > 1
    let (out, err, failed, _) := inputs.foldl (fun (out, err, failed, first) (op, r) =>
      match r with
      | .ok bs =>
        let header := if many then
            Text.utf8Bytes ((if first then "" else "\n") ++ "==> " ++ (if op = "-" then "standard input" else op) ++ " <==\n")
          else []
        (out ++ header ++ (if isHead then amount.head bs else amount.tail bs), err, failed, false)
      | .error _ =>
        let m := name ++ ": cannot open '" ++ op ++ "' for reading: No such file or directory"
        (out, err ++ Text.utf8Bytes (m ++ "\n"), true, first)) ([], [], false, true)
    { execution := { stdout := out, stderr := err, ending := .exited (if failed then 1 else 0) }, files := fs }

/-! ## tr -/

/-- The bytes of a named class. -/
def classBytes (cls : String) : Option (List UInt8) :=
  let all := (List.range 256).map Nat.toUInt8
  let pick (f : Char → Bool) : List UInt8 := all.filter fun b => f (Char.ofNat b.toNat)
  match cls with
  | "alpha" => some (pick fun c => c.isAlpha)
  | "digit" => some (pick fun c => c.isDigit)
  | "alnum" => some (pick fun c => c.isAlphanum)
  | "upper" => some (pick fun c => c.isUpper)
  | "lower" => some (pick fun c => c.isLower)
  | "space" => some (all.filter isSpaceByte)
  | "blank" => some [9, 32]
  | "punct" => some (pick fun c => c.toNat > 32 && c.toNat < 127 && !c.isAlphanum)
  | "xdigit" => some (pick fun c => c.isDigit || ('a' ≤ c && c ≤ 'f') || ('A' ≤ c && c ≤ 'F'))
  | "print" => some (pick fun c => c.toNat ≥ 32 && c.toNat < 127)
  | "graph" => some (pick fun c => c.toNat > 32 && c.toNat < 127)
  | "cntrl" => some (pick fun c => c.toNat < 32 || c.toNat = 127)
  | _ => none

/-- An item of a `tr` set. -/
inductive SetItem where
  | byte (b : UInt8)
  | bytes (bs : List UInt8)
  /-- `[c*n]`, or `[c*]` to fill. -/
  | repeated (b : UInt8) (n : Option Nat)
  deriving Repr, Inhabited

/-- Reads one byte of a set, with its escape. -/
def setByte (bs : List UInt8) : Option (UInt8 × List UInt8) :=
  match bs with
  | [] => none
  | 92 :: [] => some (92, [])
  | 92 :: rest =>
    let (v, after) := escapeAt rest
    some (v, after)
  | b :: rest => some (b, rest)

/-- Reads the items of a `tr` set. -/
def setItems (fuel : Nat) (bs : List UInt8) (acc : List SetItem) : Except String (List SetItem) :=
  match fuel with
  | 0 => .ok acc
  | fuel + 1 =>
    match bs with
    | [] => .ok acc
    | 91 :: 58 :: rest =>
      let name := rest.takeWhile (· ≠ 58)
      match rest.drop name.length with
      | 58 :: 93 :: more =>
        match classBytes (Text.decodeLossy name) with
        | some cls => setItems fuel more (acc ++ [.bytes cls])
        | none => .error ("invalid character class " ++ quoted (Text.decodeLossy name))
      | _ => setItems fuel (58 :: rest) (acc ++ [.byte 91])
    | 91 :: rest =>
      match setByte rest with
      | some (c, 42 :: more) =>
        let digits := more.takeWhile fun b => 48 ≤ b && b ≤ 57
        match more.drop digits.length with
        | 93 :: after =>
          let n := if digits.isEmpty then none else some (Text.decodeLossy digits).toNat!
          setItems fuel after (acc ++ [.repeated c (if n = some 0 then none else n)])
        | _ => setItems fuel rest (acc ++ [.byte 91])
      | _ => setItems fuel rest (acc ++ [.byte 91])
    | _ =>
      match setByte bs with
      | some (lo, 45 :: more) =>
        match setByte more with
        | some (hi, after) =>
          if hi < lo then
            .error ("range-endpoints of " ++ quoted (Text.decodeLossy (bs.take (bs.length - after.length))) ++
              " are in reverse collating sequence order")
          else setItems fuel after (acc ++ [.bytes ((List.range (hi.toNat - lo.toNat + 1)).map fun i => (lo.toNat + i).toUInt8)])
        | none => setItems fuel more (acc ++ [.byte lo, .byte 45])
      | some (b, more) => setItems fuel more (acc ++ [.byte b])
      | none => .ok acc

/-- The bytes of a set, a fill repeat taking up what the other set leaves. -/
def expandSet (items : List SetItem) (fill : Nat) : List UInt8 :=
  let fixed := items.foldl (fun n i => match i with
    | .byte _ => n + 1
    | .bytes bs => n + bs.length
    | .repeated _ (some k) => n + k
    | .repeated _ none => n) 0
  items.flatMap fun i => match i with
    | .byte b => [b]
    | .bytes bs => bs
    | .repeated b (some k) => List.replicate k b
    | .repeated b none => List.replicate (fill - fixed) b

/-- `tr`: translates the bytes of the first set to the second (the second's last byte repeated
to its length), or with `-d` deletes them; `-s` squeezes repeats of the last set's bytes; `-c`
takes the complement of the first set. -/
def runTr (name : String) (args : List String) (stdin : List UInt8) (fs : Files) : Outcome :=
  let (opts, operands) := splitOptions args
  let flags := opts.flatMap fun o => (o.drop 1).toString.toList
  let complement := flags.contains 'c' || flags.contains 'C'
  let delete := flags.contains 'd'
  let squeeze := flags.contains 's'
  let readSet (s : String) : Except String (List SetItem) :=
    let bs := Text.utf8Bytes s
    setItems (bs.length + 1) bs []
  match operands with
  | [] => usageFailure fs name "missing operand"
  | first :: rest =>
    match readSet first, rest.head?.map readSet with
    | .error m, _ => { execution := { stderr := messageLine name m, ending := .exited 1 }, files := fs }
    | _, some (.error m) => { execution := { stderr := messageLine name m, ending := .exited 1 }, files := fs }
    | .ok items1, second =>
      let set1raw := expandSet items1 0
      let all := (List.range 256).map Nat.toUInt8
      let set1 := if complement then all.filter (!set1raw.contains ·) else set1raw
      let items2 := match second with
        | some (.ok i) => some i
        | _ => none
      if delete && !squeeze && rest.length > 0 then
        usageFailure fs name ("extra operand " ++ quoted (rest.headD ""))
      else if !delete && !squeeze && items2.isNone then
        usageFailure fs name ("missing operand after " ++ quoted first ++
          "\nTwo strings must be given when translating.")
      else
        let set2 := (items2.map fun i => expandSet i set1.length).getD []
        let translated :=
          if delete then stdin.filter (!set1.contains ·)
          else match items2 with
            | some _ =>
              if set2.isEmpty then stdin
              else
                let padded := set2 ++ List.replicate (set1.length - set2.length) (set2.getLast?.getD 0)
                let table := set1.zip padded
                stdin.map fun b => match table.reverse.lookup b with
                  | some t => t
                  | none => b
            | none => stdin
        let squeezeSet := if delete || items2.isSome then set2 else set1
        let out := if squeeze then
            (translated.foldl (fun (acc : List UInt8 × Option UInt8) b =>
              if squeezeSet.contains b && acc.2 = some b then acc else (b :: acc.1, some b)) ([], none)).1.reverse
          else translated
        { execution := { stdout := out }, files := fs }

/-! ## cut -/

/-- A range of 1-based positions; an open end runs to the end. -/
structure Span where
  lo : Nat
  hi : Option Nat
  deriving Repr, Inhabited

/-- Reads a list of positions: `N`, `N-M`, `N-`, `-M`, joined by commas. -/
def readSpans (s : String) : Option (List Span) :=
  let parts := s.splitOn ","
  parts.foldl (fun acc p => acc.bind fun spans =>
    let num (t : String) : Option Nat := if !t.isEmpty && t.all Char.isDigit then some t.toNat! else none
    match p.splitOn "-" with
    | [n] => (num n).bind fun v => if v = 0 then none else some (spans ++ [{ lo := v, hi := some v }])
    | [a, b] =>
      let lo := if a.isEmpty then some 1 else num a
      let hi := if b.isEmpty then some none else (num b).map some
      match lo, hi with
      | some l, some h => if l = 0 || (a.isEmpty && b.isEmpty) then none else some (spans ++ [{ lo := l, hi := h }])
      | _, _ => none
    | _ => none) (some [])

/-- Whether a position is selected. -/
def selected (spans : List Span) (i : Nat) : Bool :=
  spans.any fun s => decide (s.lo ≤ i) && (match s.hi with
    | some h => decide (i ≤ h)
    | none => true)

/-- `cut`: with `-f`, the selected fields of each line (split at the delimiter, a tab unless
`-d` gives one), lines without it kept whole unless `-s`; with `-c` or `-b`, the selected
bytes. -/
def runCut (name : String) (args : List String) (stdin : List UInt8) (fs : Files) : Outcome := Id.run do
  let mut delim : Option String := none
  let mut fields : Option String := none
  let mut chars : Option String := none
  let mut onlyDelimited := false
  let mut rest := args
  let mut operands : List String := []
  for _ in args do
    match rest with
    | [] => pure ()
    | a :: more =>
      if a = "-d" || a = "-f" || a = "-c" || a = "-b" then
        match more with
        | v :: after =>
          if a = "-d" then delim := some v else if a = "-f" then fields := some v else chars := some v
          rest := after
        | [] => return usageFailure fs name ("option requires an argument -- " ++ quoted ((a.drop 1).toString))
      else if a.startsWith "-d" && a.length > 2 then delim := some (a.drop 2).toString; rest := more
      else if a.startsWith "-f" && a.length > 2 then fields := some (a.drop 2).toString; rest := more
      else if (a.startsWith "-c" || a.startsWith "-b") && a.length > 2 then chars := some (a.drop 2).toString; rest := more
      else if a = "-s" then onlyDelimited := true; rest := more
      else operands := operands ++ [a]; rest := more
  let list := match fields, chars with
    | some f, none => some (true, f)
    | none, some c => some (false, c)
    | _, _ => none
  match list with
  | none => return usageFailure fs name "you must specify a list of bytes, characters, or fields"
  | some (byField, text) =>
    match readSpans text with
    | none => return usageFailure fs name (if byField then "invalid field value " ++ quoted text else "invalid byte or character range")
    | some spans =>
      let d := delim.getD "\t"
      if d.length ≠ 1 then return usageFailure fs name "the delimiter must be a single character"
      let db := Text.utf8Bytes d
      let inputs := readInputs name operands stdin fs
      let (out, err, failed) := inputs.foldl (fun (out, err, failed) (_, r) =>
        match r with
        | .ok bs =>
          let lines := splitLines bs
          let cutLine (l : List UInt8) : Option (List UInt8) :=
            if byField then
              let parts := l.splitOn (db.headD 9)
              if parts.length = 1 then (if onlyDelimited then none else some l)
              else
                let kept := (parts.zipIdx.filter fun (_, i) => selected spans (i + 1)).map (·.1)
                some (db.intercalate kept)
            else some ((l.zipIdx.filter fun (_, i) => selected spans (i + 1)).map (·.1))
          (out ++ joinLines (lines.filterMap cutLine), err, failed)
        | .error m => (out, err ++ Text.utf8Bytes (m ++ "\n"), true)) ([], [], false)
      return { execution := { stdout := out, stderr := err, ending := .exited (if failed then 1 else 0) }, files := fs }

/-! ## sort, uniq and rev -/

/-- The number at the start of a line, as `sort -n` reads it: blanks, a sign, digits and a
fraction; no number is zero. -/
def leadingNumber (l : List UInt8) : Int × Nat × Nat :=
  let cs := (l.dropWhile fun b => b = 32 || b = 9).map fun b => Char.ofNat b.toNat
  let (neg, body) := match cs with
    | '-' :: r => (true, r)
    | r => (false, r)
  let whole := body.takeWhile Char.isDigit
  let frac := match body.drop whole.length with
    | '.' :: f => f.takeWhile Char.isDigit
    | _ => []
  let v : Nat := (whole ++ frac).foldl (fun a d => a * 10 + (d.toNat - 48)) 0
  ((if neg then -(v : Int) else v), frac.length, 0)

/-- Compares numbers of lines as `sort -n` does. -/
def compareNumeric (a b : List UInt8) : Ordering :=
  let (x, px, _) := leadingNumber a
  let (y, py, _) := leadingNumber b
  let p := max px py
  compare (x * Nat.pow 10 (p - px)) (y * Nat.pow 10 (p - py))

/-- The field of a line that `-k` picks: fields start where blanks end, and a key runs to the end
of the line unless a last field is given. -/
def keyOf (sep : Option UInt8) (first : Nat) (last : Option Nat) (l : List UInt8) : List UInt8 :=
  let fields : List (List UInt8) := match sep with
    | some s => l.splitOn s
    | none =>
      -- a field is its leading blanks and the non-blanks after them
      let rec split (fuel : Nat) (bs : List UInt8) (acc : List (List UInt8)) : List (List UInt8) :=
        match fuel with
        | 0 => acc
        | fuel + 1 =>
          if bs.isEmpty then acc
          else
            let blanks := bs.takeWhile fun b => b = 32 || b = 9
            let word := (bs.drop blanks.length).takeWhile fun b => b ≠ 32 && b ≠ 9
            split fuel (bs.drop (blanks.length + word.length)) (acc ++ [blanks ++ word])
      split (l.length + 1) l []
  let joiner : List UInt8 := match sep with
    | some s => [s]
    | none => []
  let picked := (fields.drop (first - 1)).take (match last with
    | some k => k + 1 - first
    | none => fields.length)
  joiner.intercalate picked

/-- `sort`: lines in byte order, or by number with `-n`, reversed with `-r`, one of each equal
run with `-u`; `-k` picks a key and `-t` its separator. -/
def runSort (name : String) (args : List String) (stdin : List UInt8) (fs : Files) : Outcome := Id.run do
  let mut numeric := false
  let mut reverse := false
  let mut unique := false
  let mut sep : Option UInt8 := none
  let mut key : Option (Nat × Option Nat) := none
  let mut rest := args
  let mut operands : List String := []
  for _ in args do
    match rest with
    | [] => pure ()
    | a :: more =>
      if a = "-t" || a = "-k" then
        match more with
        | v :: after =>
          if a = "-t" then sep := (Text.utf8Bytes v).head?
          else
            let ps := v.splitOn ","
            let num (t : String) : Nat := (t.takeWhile Char.isDigit).toString.toNat!
            key := some (num (ps.headD "1"), (ps[1]?).map num)
          rest := after
        | [] => return usageFailure fs name ("option requires an argument -- " ++ quoted ((a.drop 1).toString))
      else if a.startsWith "-k" && a.length > 2 then
        let ps := (a.drop 2).toString.splitOn ","
        let num (t : String) : Nat := (t.takeWhile Char.isDigit).toString.toNat!
        key := some (num (ps.headD "1"), (ps[1]?).map num)
        rest := more
      else if a.startsWith "-t" && a.length > 2 then sep := (Text.utf8Bytes (a.drop 2).toString).head?; rest := more
      else if a.startsWith "-" && a.length > 1 then
        for c in (a.drop 1).toString.toList do
          if c = 'n' then numeric := true
          else if c = 'r' then reverse := true
          else if c = 'u' then unique := true
        rest := more
      else operands := operands ++ [a]; rest := more
  let inputs := readInputs name operands stdin fs
  match inputs.find? fun (_, r) => match r with | .error _ => true | .ok _ => false with
  | some (_, .error m) => return { execution := { stderr := Text.utf8Bytes (m ++ "\n"), ending := .exited 2 }, files := fs }
  | _ =>
    let lines := inputs.flatMap fun (_, r) => match r with
      | .ok bs => splitLines bs
      | .error _ => []
    let keyFor (l : List UInt8) : List UInt8 := match key with
      | some (f, g) => keyOf sep f g l
      | none => l
    let compareKeys (a b : List UInt8) : Ordering :=
      if numeric then compareNumeric (keyFor a) (keyFor b) else compare (keyFor a) (keyFor b)
    let compareLines (a b : List UInt8) : Ordering :=
      match compareKeys a b with
      | .eq => if unique then .eq else compare a b
      | o => o
    let ordered := lines.mergeSort fun a b =>
      let o := compareLines a b
      if reverse then o != .lt else o != .gt
    let ordered := if unique then
        (ordered.foldl (fun (acc : List (List UInt8)) l => match acc with
          | prev :: _ => if compareKeys prev l == .eq then acc else l :: acc
          | [] => [l]) []).reverse
      else ordered
    return { execution := { stdout := joinLines ordered }, files := fs }

/-- `uniq`: one line of each run of equal adjacent lines; `-c` counts them, `-d` keeps only
repeated lines and `-u` only lines that are not. -/
def runUniq (name : String) (args : List String) (stdin : List UInt8) (fs : Files) : Outcome :=
  let (opts, operands) := splitOptions args
  let flags := opts.flatMap fun o => (o.drop 1).toString.toList
  let inputs := readInputs name (operands.take 1) stdin fs
  match inputs with
  | (_, .error m) :: _ => { execution := { stderr := Text.utf8Bytes (m ++ "\n"), ending := .exited 1 }, files := fs }
  | _ =>
    let bs := match inputs with
      | (_, .ok bs) :: _ => bs
      | _ => []
    let runs := (splitLines bs).foldl (fun (acc : List (List UInt8 × Nat)) l => match acc with
      | (prev, n) :: more => if prev = l then (prev, n + 1) :: more else (l, 1) :: acc
      | [] => [(l, 1)]) [] |>.reverse
    let kept := runs.filter fun (_, n) =>
      (!flags.contains 'd' || n > 1) && (!flags.contains 'u' || n = 1)
    let out := kept.flatMap fun (l, n) =>
      (if flags.contains 'c' then
        let t := toString n
        Text.utf8Bytes (String.ofList (List.replicate (7 - t.length) ' ') ++ t ++ " ")
      else []) ++ l ++ [10]
    { execution := { stdout := out }, files := fs }

/-- `rev`: each line's characters in reverse order. -/
def runRev (name : String) (args : List String) (stdin : List UInt8) (fs : Files) : Outcome :=
  let (_, operands) := splitOptions args
  let inputs := readInputs name operands stdin fs
  let (out, err, failed) := inputs.foldl (fun (out, err, failed) (_, r) =>
    match r with
    | .ok bs =>
      let ls := bs.splitOn 10
      let reversed := ls.map fun l => Text.utf8Bytes (String.ofList (Text.decodeLossy l).toList.reverse)
      (out ++ [10].intercalate reversed, err, failed)
    | .error m => (out, err ++ Text.utf8Bytes (m ++ "\n"), true)) ([], [], false)
  { execution := { stdout := out, stderr := err, ending := .exited (if failed then 1 else 0) }, files := fs }

end SnapshotAgent.Shell
