-- Writing formatted text: the formats of `printf` and the escapes of `echo`. The result is bytes,
-- since an escape may stand for any byte.
import GitSteward.Decimal.Reading
import GitSteward.Decimal.Text
import GitSteward.Text.Lossy

namespace GitSteward.Host.Format

/-- The byte of a character of ASCII. -/
def byte (c : Char) : UInt8 := c.toNat.toUInt8

def isOctal (b : UInt8) : Bool := byte '0' ≤ b && b ≤ byte '7'

def isDigit (b : UInt8) : Bool := byte '0' ≤ b && b ≤ byte '9'

/-- The byte that octal digits stand for. -/
def ofOctal (digits : Bytes) : UInt8 :=
  (digits.foldl (fun (n : Nat) (d : UInt8) => 8 * n + (d.toNat - 48)) 0).toUInt8

/-- The byte that a letter after a backslash stands for. -/
def letterEscape (b : UInt8) : Option UInt8 :=
  ([('\\', 92), ('a', 7), ('b', 8), ('e', 27), ('f', 12), ('n', 10), ('r', 13), ('t', 9), ('v', 11),
    ('\x22', 34)].find? fun p => byte p.1 = b).map (·.2)

/-- An escape, the backslash left out: what it stands for, and how much of the text it takes.
`leading` tells whether octal digits come after a zero that is not counted. -/
def escape (leading : Bool) (rest : Bytes) : Bytes × Nat :=
  match rest with
  | [] => ([92], 0)
  | b :: more =>
    if isOctal b then
      if leading && b = byte '0' then
        let digits := (more.take 3).takeWhile isOctal
        ([ofOctal digits], 1 + digits.length)
      else
        let digits := (rest.take 3).takeWhile isOctal
        ([ofOctal digits], digits.length)
    else match letterEscape b with
      | some value => ([value], 1)
      | none => ([92, b], 1)

/-- A text with its escapes resolved, and whether an escape says that all output ends there. -/
def unescape : Nat → Bytes → Bytes × Bool
  | 0, _ => ([], false)
  | _ + 1, [] => ([], false)
  | fuel + 1, b :: rest =>
    if b = 92 then
      if rest.head? = some (byte 'c') then ([], true)
      else
        let (value, taken) := escape true rest
        let (others, ended) := unescape fuel (rest.drop taken)
        (value ++ others, ended)
    else
      let (others, ended) := unescape fuel rest
      (b :: others, ended)

/-- What `echo` writes for arguments, with the escapes of the shell. -/
def echo (args : List Bytes) : Bytes :=
  let quiet := args.head? = some (Text.utf8 "-n")
  let newline := !quiet
  let text := List.intercalate [32] (if quiet then args.drop 1 else args)
  let (bytes, ended) := unescape (text.length + 1) text
  if ended || !newline then bytes else bytes ++ [10]

/-- How a value is laid out. -/
structure Layout where
  left : Bool := false
  zeros : Bool := false
  plus : Bool := false
  space : Bool := false
  alternate : Bool := false
  width : Nat := 0
  precision : Option Nat := none
deriving Repr, Inhabited

/-- Fills bytes up to the width. -/
def pad (l : Layout) (bytes : Bytes) : Bytes :=
  let gap := l.width - bytes.length
  if l.left then bytes ++ List.replicate gap 32 else List.replicate gap 32 ++ bytes

/-- A number with its sign, filled up with zeros where the layout says so. -/
def layNumber (l : Layout) (sign digits : String) : Bytes :=
  let digits := match l.precision with
    | some n => String.ofList (List.replicate (n - digits.length) '0') ++ digits
    | none =>
      if l.zeros && !l.left then
        String.ofList (List.replicate (l.width - digits.length - sign.length) '0') ++ digits
      else digits
  pad l (Text.utf8 (sign ++ digits))

/-- The number that an argument is, and whether all of it is one. -/
def number (arg : String) : Int × Bool :=
  match arg.toList with
  | '\x27' :: c :: _ | '\x22' :: c :: _ => (c.toNat, true)
  | cs =>
    let cs := cs.dropWhile (· = ' ')
    let (negative, cs) := match cs with
      | '-' :: cs => (true, cs)
      | '+' :: cs => (false, cs)
      | cs => (false, cs)
    let signed (n : Nat) : Int := if negative then -n else n
    match cs with
    | '0' :: x :: rest =>
      if x = 'x' || x = 'X' then
        let digits := rest.takeWhile fun c => c.isDigit || ('a' ≤ c.toLower && c.toLower ≤ 'f')
        let value (c : Char) : Nat :=
          if c.isDigit then c.toNat - 48 else c.toLower.toNat - 87
        (signed (digits.foldl (fun n c => 16 * n + value c) 0),
          !digits.isEmpty && digits.length = rest.length)
      else
        let digits := (x :: rest).takeWhile fun c => '0' ≤ c && c ≤ '7'
        (signed (digits.foldl (fun n c => 8 * n + (c.toNat - 48)) 0),
          digits.length = rest.length + 1)
    | cs =>
      let digits := cs.takeWhile Char.isDigit
      (signed (Decimal.ofDigits digits), !digits.isEmpty && digits.length = cs.length)

/-- What has been formatted: the bytes, the arguments that are left, and what went wrong. -/
structure Formatted where
  bytes : Bytes := []
  args : List Bytes
  problems : List String := []
  /-- whether an escape or an error has ended all output -/
  ended : Bool := false
  /-- whether that was an error -/
  broken : Bool := false
deriving Inhabited

/-- The sign of a number in a layout. -/
def signOf (l : Layout) (n : Int) : String :=
  if n < 0 then "-" else if l.plus then "+" else if l.space then " " else ""

/-- The digits of a number in a base. -/
def digitsIn (base : Nat) (n : Int) : String :=
  let n := if n < 0 then (n % 0x1_0000_0000_0000_0000).toNat else n.toNat
  String.ofList (Nat.toDigits base n)

/-- What is wrong with an argument that was read as a number. An empty one is zero. -/
def numberProblem (arg : String) (n : Int) (ok : Bool) : Option String :=
  if arg.isEmpty then none
  else if !ok then
    let first := arg.toList.dropWhile fun c => c = ' ' || c = '-' || c = '+'
    if first.head?.any Char.isDigit then some (arg ++ ": not completely converted")
    else some (arg ++ ": expected numeric value")
  else if n < -0x8000_0000_0000_0000 || 0x8000_0000_0000_0000 ≤ n then
    some (arg ++ ": Numerical result out of range")
  else none

/-- A number cut down to the range of 64 bits. -/
def clamp (n : Int) : Int := max (-0x8000_0000_0000_0000) (min n 0x7FFF_FFFF_FFFF_FFFF)

/-- A number that an argument must be. -/
def numeric (f : Formatted) (render : Int → Bytes) : Formatted :=
  match f.args with
  | [] => { f with bytes := f.bytes ++ render 0 }
  | arg :: rest =>
    let arg := Text.lossy arg
    let (n, ok) := number arg
    { f with
      bytes := f.bytes ++ render (clamp n)
      args := rest
      problems := f.problems ++ (numberProblem arg n ok).toList }

/-- A text that an argument is. -/
def textual (f : Formatted) (render : Bytes → Bytes) : Formatted :=
  { f with
    bytes := f.bytes ++ render (f.args.headD [])
    args := f.args.drop 1 }

/-- Ends all output with an error. -/
def fail (f : Formatted) (problem : String) : Formatted :=
  { f with problems := f.problems ++ [problem], ended := true, broken := true }

/-- Formats one argument in the way that a letter tells. `text` is the directive up to it. -/
def convert (f : Formatted) (l : Layout) (text : String) (letter : Char) : Formatted :=
  let cut (b : Bytes) : Bytes := match l.precision with
    | some n => b.take n
    | none => b
  match letter with
  | 's' => textual f fun b => pad l (cut b)
  | 'c' => textual f fun b => pad l (if b.isEmpty then [0] else b.take 1)
  | 'b' =>
    let text := f.args.headD []
    let (bytes, ended) := unescape (text.length + 1) text
    { f with bytes := f.bytes ++ pad l (cut bytes), args := f.args.drop 1, ended := ended }
  | 'd' | 'i' => numeric f fun n => layNumber l (signOf l n) (toString n.natAbs)
  | 'u' => numeric f fun n => layNumber l "" (digitsIn 10 n)
  | 'o' => numeric f fun n => layNumber l (if l.alternate then "0" else "") (digitsIn 8 n)
  | 'x' => numeric f fun n => layNumber l (if l.alternate then "0x" else "") (digitsIn 16 n)
  | 'X' => numeric f fun n =>
      layNumber l (if l.alternate then "0X" else "") (digitsIn 16 n).toUpper
  | _ => fail f (text ++ ": invalid directive")

def setFlag (l : Layout) (b : UInt8) : Option Layout :=
  if b = byte '-' then some { l with left := true }
  else if b = byte '0' then some { l with zeros := true }
  else if b = byte '+' then some { l with plus := true }
  else if b = byte ' ' then some { l with space := true }
  else if b = byte '#' then some { l with alternate := true }
  else none

/-- Reads flags. -/
def readFlags (l : Layout) : Bytes → Layout × Bytes
  | [] => (l, [])
  | b :: rest => match setFlag l b with
    | some l => readFlags l rest
    | none => (l, b :: rest)

/-- Reads a number of a layout, which may be an argument. -/
def readCount (f : Formatted) (bytes : Bytes) : Nat × Formatted × Bytes :=
  if bytes.head? = some (byte '*') then
    ((number (Text.lossy (f.args.headD []))).1.toNat, { f with args := f.args.drop 1 }, bytes.drop 1)
  else
    let digits := bytes.takeWhile isDigit
    (digits.foldl (fun (n : Nat) (d : UInt8) => 10 * n + (d.toNat - 48)) 0, f, bytes.drop digits.length)

/-- Reads a directive and formats what it asks for. -/
def directive (f : Formatted) (start : Bytes) : Formatted × Bytes :=
  let (l, bytes) := readFlags {} start
  let (width, f, bytes) := readCount f bytes
  let (precision, f, bytes) :=
    if bytes.head? = some (byte '.') then
      let (n, f, bytes) := readCount f (bytes.drop 1)
      (some n, f, bytes)
    else (none, f, bytes)
  match bytes with
  | [] => (fail f "missing format character", [])
  | b :: rest =>
    let text := start.take (start.length - rest.length)
    (convert f { l with width, precision } ("%" ++ Text.lossy text) (Char.ofNat b.toNat), rest)

/-- Goes through a format once. -/
def pass : Nat → Formatted → Bytes → Formatted
  | 0, f, _ => f
  | _ + 1, f, [] => f
  | fuel + 1, f, b :: rest =>
    if f.ended then f
    else if b = 92 then
      let (value, taken) := escape false rest
      pass fuel { f with bytes := f.bytes ++ value } (rest.drop taken)
    else if b = byte '%' then
      if rest.head? = some (byte '%') then
        pass fuel { f with bytes := f.bytes ++ [37] } (rest.drop 1)
      else
        let (f, rest) := directive f rest
        pass fuel f rest
    else pass fuel { f with bytes := f.bytes ++ [b] } rest

/-- Goes through a format until no arguments are left. A format that takes none is gone through
once. -/
def passes (format : Bytes) : Nat → Formatted → Formatted
  | 0, f => f
  | fuel + 1, f =>
    let before := f.args.length
    let f := pass (format.length + 1) f format
    if f.ended || f.args.isEmpty || f.args.length = before then f else passes format fuel f

/-- What `printf` writes, and its complaints. -/
def printf (format : Bytes) (args : List Bytes) : Formatted :=
  passes format (args.length + 1) { args }

end GitSteward.Host.Format
