-- Patterns of the shell. A quoted character of a pattern stands for itself.

namespace GitSteward.Host.Shell

/-- A pattern: characters, and whether each is quoted. -/
abbrev Pattern := List (Char × Bool)

/-- The classes of characters that have names. -/
def classNames : List (String × (Char → Bool)) :=
  let printable (c : Char) : Bool := ' ' ≤ c && c ≤ '~'
  let blank (c : Char) : Bool := c = ' ' || c = '\t'
  let space (c : Char) : Bool := c = ' ' || ('\t' ≤ c && c ≤ '\r')
  [("alnum", Char.isAlphanum), ("alpha", Char.isAlpha), ("blank", blank),
    ("cntrl", fun c => c < ' ' || c = '\x7f'), ("digit", Char.isDigit),
    ("graph", fun c => printable c && c ≠ ' '), ("lower", Char.isLower), ("print", printable),
    ("punct", fun c => printable c && c ≠ ' ' && !c.isAlphanum), ("space", space),
    ("upper", Char.isUpper),
    ("xdigit", fun c => c.isDigit || ('a' ≤ c.toLower && c.toLower ≤ 'f'))]

/-- The class that is named after an opening bracket, and the rest of the pattern after it. -/
def classAfter (p : Pattern) : Option ((Char → Bool) × Pattern) :=
  classNames.findSome? fun (name, test) =>
    let text := ":" ++ name ++ ":]"
    if text.toList.isPrefixOf (p.map (·.1)) then some (test, p.drop text.length) else none

/-- The members of a set in brackets, and the rest of the pattern after it. -/
def bracket (first : Bool) : Nat → Pattern → List (Char → Bool) →
    Option (List (Char → Bool) × Pattern)
  | 0, _, _ => none
  | _ + 1, [], _ => none
  | fuel + 1, (c, q) :: rest, members =>
    if c = ']' && !q && !first then some (members, rest)
    else match if c = '[' && !q then classAfter rest else none with
      | some (test, after) => bracket false fuel after (test :: members)
      | none =>
        let single (d : Char) : Bool := d = c
        match rest with
        | ('-', false) :: (d, dq) :: more =>
          if d = ']' && !dq then bracket false fuel rest (single :: members)
          else bracket false fuel more ((fun e => c ≤ e && e ≤ d) :: members)
        | _ => bracket false fuel rest (single :: members)

/-- Whether a pattern matches all of a text. -/
def Pattern.matches : Nat → Pattern → List Char → Bool
  | 0, _, _ => false
  | _ + 1, [], text => text.isEmpty
  | fuel + 1, ('*', false) :: rest, text =>
    Pattern.matches fuel rest text ||
    match text with
    | [] => false
    | _ :: more => Pattern.matches fuel (('*', false) :: rest) more
  | fuel + 1, ('?', false) :: rest, text =>
    match text with
    | [] => false
    | _ :: more => Pattern.matches fuel rest more
  | fuel + 1, (c, q) :: rest, text =>
    let plain := match text with
      | [] => false
      | d :: more => c = d && Pattern.matches fuel rest more
    if c = '[' && !q then
      let (negated, body) := match rest with
        | ('!', false) :: body => (true, body)
        | body => (false, body)
      match bracket true (body.length + 1) body [], text with
      | some (members, after), d :: more =>
        (members.any fun m => m d) != negated && Pattern.matches fuel after more
      | some _, [] => false
      | none, _ => plain
    else plain

/-- Whether a pattern matches all of a text. -/
def Pattern.fits (p : Pattern) (text : List Char) : Bool :=
  p.matches (2 * (p.length + text.length) + 2) text

/-- Whether a pattern is more than a text. -/
def Pattern.isWild (p : Pattern) : Bool :=
  p.any fun c => !c.2 && (c.1 = '*' || c.1 = '?' || c.1 = '[')

/-- A text without what a pattern matches at its beginning. -/
def Pattern.cutStart (p : Pattern) (longest : Bool) (text : List Char) : List Char :=
  let lengths := (List.range (text.length + 1)).filter fun n => p.fits (text.take n)
  match if longest then lengths.getLast? else lengths.head? with
  | some n => text.drop n
  | none => text

/-- A text without what a pattern matches at its end. -/
def Pattern.cutEnd (p : Pattern) (longest : Bool) (text : List Char) : List Char :=
  let lengths := (List.range (text.length + 1)).filter fun n => p.fits (text.drop n)
  match if longest then lengths.head? else lengths.getLast? with
  | some n => text.take n
  | none => text

end GitSteward.Host.Shell
