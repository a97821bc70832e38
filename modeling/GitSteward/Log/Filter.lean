-- Which events of the log are shown. A filter is a list of directives, each of which limits the
-- events of some origins, with some field, or within some work. Of those that speak of an event
-- itself the most specific one decides. Those that speak of the work that it happened in may show
-- it as well. An event of which none speaks is not shown.
import GitSteward.Decimal.Whole
import GitSteward.Log
import GitSteward.Text.Alphanumeric

namespace GitSteward

/-- A field that must be there, and the value it must have. -/
structure FieldTest where
  name : String
  value : Option String := none
deriving Repr, DecidableEq, Inhabited

/-- What one directive says. -/
structure LogDirective where
  /-- how the origins of its events start -/
  origin : Option String := none
  /-- the name of the work that its events happen in -/
  span : Option String := none
  field : Option FieldTest := none
  /-- the greatest rank that is shown, or 0 for none -/
  limit : Nat := LogLevel.trace.rank
deriving Repr, DecidableEq, Inhabited

abbrev LogFilter := List LogDirective

namespace LogDirective

/-! ## Reading -/

/-- The words for limits, by rank. -/
def limitNames : List String := ["off", "error", "warn", "info", "debug", "trace"]

/-- The limit that a text names, by a word in any case or by its rank. -/
def limit? (text : String) : Option Nat :=
  match Decimal.readWhole text.toList with
  | .ok n => if n < limitNames.length then some n else none
  | .error _ => limitNames.idxOf? text.toLower

/-- Whether an origin or a limit may start with a character. -/
def startsWord (c : Char) : Bool :=
  c = '-' || c = ':' || c = '_' || Text.isAlphanumeric c

/-- Which part of a directive comes next, and the octet where it starts. -/
inductive Part where
  | any
  | word (start : Nat)
  | span (start : Nat)
  | field (start : Nat)
  | fieldEnd
  | spanEnd
  | limit (start : Nat)
deriving Repr, DecidableEq, Inhabited

/-- The octets of a text from one place up to another. -/
def cut (text : String) (start stop : Nat) : Option String :=
  String.fromUTF8? (text.toUTF8.extract start stop)

/-- A field and its value. What follows a second equals sign is passed over. -/
def fieldTest (text : String) : FieldTest :=
  match text.splitOn "=" with
  | name :: value :: _ => ⟨name, some value⟩
  | _ => ⟨text, none⟩

/-- The directive and its next part after a character at octet `i`. -/
def step (text : String) (d : LogDirective) (part : Part) (i : Nat) (c : Char) :
    Option (LogDirective × Part) :=
  match part with
  | .any =>
    if c = '[' then some (d, .span (i + 1))
    else if startsWord c then some (d, .word i)
    else none
  | .word start =>
    if c = '=' then (cut text start i).map fun t => ({ d with origin := some t }, .limit (i + 1))
    else if c = '[' then
      (cut text start i).map fun t => ({ d with origin := some t }, .span (i + 1))
    else some (d, part)
  | .span start =>
    if c = ']' then (cut text start i).map fun t => ({ d with span := some t }, .spanEnd)
    else if c = '\x7b' then
      (cut text start i).map fun t =>
        ({ d with span := if t.isEmpty then none else some t }, .field (i + 1))
    else some (d, part)
  | .field start =>
    if c = '\x7d' then do
      let t ← cut text start i
      if t.isEmpty then none else some ({ d with field := some (fieldTest t) }, .fieldEnd)
    else some (d, part)
  | .fieldEnd => if c = ']' then some (d, .spanEnd) else none
  | .spanEnd => if c = '=' then some (d, .limit (i + 1)) else none
  | .limit _ => some (d, part)

/-- The directive once its last part is over. One without a limit has the greatest. -/
def finish (text : String) (d : LogDirective) : Part → Option LogDirective
  | .word start =>
    (cut text start text.utf8ByteSize).map fun t =>
      match limit? t with
      | some limit => { limit }
      | none => { origin := some t }
  | .limit start => do
    let t ← cut text start text.utf8ByteSize
    if t.isEmpty then return d
    return { d with limit := ← limit? t }
  | .spanEnd => some d
  | _ => none

/-- The directive that characters from octet `i` on go on with. -/
def read (text : String) (d : LogDirective) (part : Part) (i : Nat) :
    List Char → Option LogDirective
  | [] => finish text d part
  | c :: rest => do
    let (d, part) ← step text d part i c
    read text d part (i + c.utf8Size) rest

/-- The directive that a text holds: a limit, or any of an origin, a span with a field, and a
limit for these. The blanks around it do not count as characters, but what stands at a place is
looked up in the text with the blanks. -/
def ofText? (text : String) : Option LogDirective :=
  read text {} .any 0 (Text.trimEnd text |>.toList.dropWhile Text.isBlank)

/-! ## What a directive speaks of -/

/-- Whether it speaks of events themselves. -/
def isOfEvents (d : LogDirective) : Bool :=
  d.span.isNone && d.field.all (·.value.isNone)

/-- Whether it speaks of the work that events happen in. -/
def isOfSpans (d : LogDirective) : Bool := d.span.isSome || d.field.isSome

/-- Whether its origin is one of those of a name. -/
def covers (d : LogDirective) (origin : String) : Bool := d.origin.all fun o => origin.startsWith o

/-- Whether it speaks of an event itself. -/
def speaksOf (d : LogDirective) (e : LogEvent) : Bool :=
  d.isOfEvents && d.covers e.origin && d.field.all (e.fieldNames.contains ·.name)

/-- Whether it speaks of a piece of work. -/
def speaksOfSpan (d : LogDirective) (s : LogSpan) : Bool :=
  d.isOfSpans && d.covers s.origin && d.span.all (· = s.name) &&
    d.field.all fun f => match s.fields.lookup f.name with
      | some value => f.value.all (· = value)
      | none => false

/-- Whether the first of two directives is less specific than the second: its origin is shorter,
or it has no field, or a field of an earlier name. -/
def isLess (a b : LogDirective) : Bool :=
  let size (d : LogDirective) : Nat := (d.origin.map (·.utf8ByteSize + 1)).getD 0
  let field (d : LogDirective) : String := (d.field.map (·.name)).getD ""
  size a < size b || (size a = size b && decide (field a < field b))

end LogDirective

namespace LogFilter

/-- The filter that shows events up to a level, wherever they come from. -/
def upTo (level : LogLevel) : LogFilter := [{ limit := level.rank }]

/-- The filter that a text holds: directives with commas between them. An empty text shows
errors only. -/
def ofText? (text : String) : Option LogFilter :=
  if text.isEmpty then some (upTo .error)
  else
    (((text.splitOn ",").filter (! ·.isEmpty)).mapM LogDirective.ofText?).map fun
      | [] => upTo .error
      | filter => filter

/-- The more specific of two directives, the second one if neither is. -/
def better (a b : LogDirective) : LogDirective := if b.isLess a then a else b

/-- The limit for an event by those directives that speak of it itself. -/
def limitOf (f : LogFilter) (e : LogEvent) : Nat :=
  match f.filter (·.speaksOf e) with
  | [] => 0
  | d :: rest => (rest.foldl better d).limit

/-- Whether a piece of work is kept track of. It is if some directive lets its level through,
or looks at values, which are not known before the work starts. -/
def tracks (f : LogFilter) (s : LogSpan) : Bool :=
  f.any fun d => s.level.rank ≤ d.limit || d.field.any (·.value.isSome)

/-- The limit for what happens in a piece of work. -/
def limitWithin (f : LogFilter) (s : LogSpan) : Nat :=
  if f.tracks s then
    ((f.filter (·.speaksOfSpan s)).map (·.limit)).foldl max 0
  else 0

/-- Whether an event is shown. -/
def shows (f : LogFilter) (e : LogEvent) : Bool :=
  e.level.rank ≤ f.limitOf e ||
    e.span.any fun s => e.level.rank ≤ f.limitWithin s

end LogFilter

end GitSteward
