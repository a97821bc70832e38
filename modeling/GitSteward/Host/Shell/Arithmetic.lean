-- Arithmetic of the shell: whole numbers of 64 bits, with the operators of C.
import GitSteward.Host.Shell.Script
import GitSteward.Host.Tool.Format

namespace GitSteward.Host.Shell

inductive Token where
  | number (n : Int)
  | name (s : String)
  | op (s : String)
deriving Repr, DecidableEq, Inhabited

inductive Expr where
  | number (n : Int)
  | name (s : String)
  | unary (op : String) (e : Expr)
  | binary (op : String) (a b : Expr)
  | choice (c a b : Expr)
  | assign (name op : String) (e : Expr)
deriving Repr, Inhabited

namespace Arithmetic

/-- The operators, longer ones before shorter ones. -/
def operators : List String := [
  "<<=", ">>=", "<<", ">>", "<=", ">=", "==", "!=", "&&", "||", "+=", "-=", "*=", "/=", "%=", "&=",
  "|=", "^=", "+", "-", "*", "/", "%", "<", ">", "=", "!", "~", "&", "|", "^", "?", ":", "(", ")"]

/-- The tokens of an expression. Characters that mean nothing are operators that there are none of,
and so is what follows the digits of a number without a gap. -/
def tokens : Nat → List Char → Except String (List Token)
  | 0, _ => .ok []
  | _ + 1, [] => .ok []
  | fuel + 1, c :: rest =>
    if c = ' ' || c = '\t' || c = '\n' then tokens fuel rest
    else if isNameChar c then do
      let word := String.ofList (c :: rest.takeWhile isNameChar)
      let others ← tokens fuel (rest.dropWhile isNameChar)
      if c.isDigit then
        let (n, ok) := Format.number word
        return .number (Format.clamp n) :: if ok then others else .op "" :: others
      else return .name word :: others
    else match operators.find? fun o => o.toList.isPrefixOf (c :: rest) with
      | some o => do return .op o :: (← tokens fuel ((c :: rest).drop o.length))
      | none => do return .op c.toString :: (← tokens fuel rest)

/-- How tightly a binary operator binds. -/
def level (op : String) : Option Nat :=
  [("||", 1), ("&&", 2), ("|", 3), ("^", 4), ("&", 5), ("==", 6), ("!=", 6), ("<", 7), (">", 7),
    ("<=", 7), (">=", 7), ("<<", 8), (">>", 8), ("+", 9), ("-", 9), ("*", 10), ("/", 10),
    ("%", 10)].lookup op

def assignments : List String :=
  ["=", "+=", "-=", "*=", "/=", "%=", "&=", "|=", "^=", "<<=", ">>="]

abbrev Parsed := Except String (Expr × List Token)

mutual

/-- An expression with all operators. -/
def expression : Nat → List Token → Parsed
  | 0, _ => .error "expecting primary"
  | fuel + 1, ts =>
    let plain : Parsed := do
      let (condition, ts) ← binary fuel 1 ts
      match ts with
      | .op "?" :: ts =>
        let (yes, ts) ← expression fuel ts
        match ts with
        | .op ":" :: ts =>
          let (no, ts) ← expression fuel ts
          return (.choice condition yes no, ts)
        | _ => throw "expecting ':'"
      | ts => return (condition, ts)
    match ts with
    | .name n :: .op o :: rest =>
      if assignments.contains o then do
        let (value, ts) ← expression fuel rest
        return (.assign n (String.ofList o.toList.dropLast) value, ts)
      else plain
    | _ => plain

/-- An expression whose operators bind at least so tightly. -/
def binary : Nat → Nat → List Token → Parsed
  | 0, _, _ => .error "expecting primary"
  | fuel + 1, least, ts => do
    let (first, ts) ← unary fuel ts
    binaryRest fuel least first ts

def binaryRest : Nat → Nat → Expr → List Token → Parsed
  | 0, _, _, _ => .error "expecting EOF"
  | fuel + 1, least, first, ts =>
    match ts with
    | .op o :: rest =>
      match level o with
      | some n =>
        if n < least then .ok (first, ts)
        else do
          let (second, ts) ← binary fuel (n + 1) rest
          binaryRest fuel least (.binary o first second) ts
      | none => .ok (first, ts)
    | _ => .ok (first, ts)

def unary : Nat → List Token → Parsed
  | 0, _ => .error "expecting primary"
  | fuel + 1, ts =>
    match ts with
    | .number n :: rest => .ok (.number n, rest)
    | .name s :: rest => .ok (.name s, rest)
    | .op "(" :: rest => do
      let (e, ts) ← expression fuel rest
      match ts with
      | .op ")" :: ts => return (e, ts)
      | _ => throw "expecting ')'"
    | .op o :: rest =>
      if ["+", "-", "!", "~"].contains o then do
        let (e, ts) ← unary fuel rest
        return (.unary o e, ts)
      else .error "expecting primary"
    | [] => .error "expecting primary"

end

/-- The expression that a text spells. -/
def parse (text : List Char) : Except String Expr := do
  let ts ← tokens (text.length + 1) text
  let (e, rest) ← expression (8 * ts.length + 8) ts
  if rest.isEmpty then return e else throw "expecting EOF"

/-- A number in 64 bits. -/
def wrap (n : Int) : Int := Int.bmod n (Nat.pow 2 64)

def ofBool (b : Bool) : Int := if b then 1 else 0

/-- A number as bits. -/
def bits (n : Int) : Nat := (n % Int.ofNat (Nat.pow 2 64)).toNat

def apply (op : String) (a b : Int) : Except String Int :=
  match op with
  | "+" => .ok (wrap (a + b))
  | "-" => .ok (wrap (a - b))
  | "*" => .ok (wrap (a * b))
  | "/" => if b = 0 then .error "division by zero" else .ok (wrap (a.tdiv b))
  | "%" => if b = 0 then .error "division by zero" else .ok (a.tmod b)
  | "<" => .ok (ofBool (a < b))
  | ">" => .ok (ofBool (b < a))
  | "<=" => .ok (ofBool (a ≤ b))
  | ">=" => .ok (ofBool (b ≤ a))
  | "==" => .ok (ofBool (a = b))
  | "!=" => .ok (ofBool (a ≠ b))
  | "&" => .ok (wrap (bits a &&& bits b : Nat))
  | "|" => .ok (wrap (bits a ||| bits b : Nat))
  | "^" => .ok (wrap (bits a ^^^ bits b : Nat))
  | "<<" => .ok (wrap (a * Int.ofNat (Nat.pow 2 (bits b % 64))))
  | ">>" => .ok (a / Int.ofNat (Nat.pow 2 (bits b % 64)))
  | _ => .ok b

/-- The values of variables as texts. -/
abbrev Values := List (String × String)

/-- The number that a variable holds. -/
def valueOf (vars : Values) (name : String) : Except String Int :=
  let text := (vars.lookup name).getD ""
  let isBlank (c : Char) : Bool := c = ' ' || c = '\t' || c = '\n'
  let digits := ((text.toList.dropWhile isBlank).reverse.dropWhile isBlank).reverse
  if text.isEmpty then .ok 0
  else
    let (n, ok) := Format.number (String.ofList digits)
    if ok then .ok (Format.clamp n) else .error ("Illegal number: " ++ text)

/-- The value of an expression, and the variables after it. -/
def eval (vars : Values) : Expr → Except String (Int × Values)
  | .number n => .ok (n, vars)
  | .name s => do return (← valueOf vars s, vars)
  | .unary op e => do
    let (n, vars) ← eval vars e
    return (match op with
      | "-" => wrap (-n)
      | "!" => ofBool (n = 0)
      | "~" => -n - 1
      | _ => n, vars)
  | .binary "&&" a b => do
    let (n, vars) ← eval vars a
    if n = 0 then return (0, vars)
    let (m, vars) ← eval vars b
    return (ofBool (m ≠ 0), vars)
  | .binary "||" a b => do
    let (n, vars) ← eval vars a
    if n ≠ 0 then return (1, vars)
    let (m, vars) ← eval vars b
    return (ofBool (m ≠ 0), vars)
  | .binary op a b => do
    let (n, vars) ← eval vars a
    let (m, vars) ← eval vars b
    return (← apply op n m, vars)
  | .choice c a b => do
    let (n, vars) ← eval vars c
    if n ≠ 0 then eval vars a else eval vars b
  | .assign name op e => do
    let (m, vars) ← eval vars e
    let n ← if op.isEmpty then pure m else do apply op (← valueOf vars name) m
    return (n, (name, toString n) :: vars.filter (·.1 ≠ name))

end Arithmetic

end GitSteward.Host.Shell
