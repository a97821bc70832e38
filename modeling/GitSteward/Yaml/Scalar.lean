-- What scalars stand for: nothing, truth values, numbers and texts.
import GitSteward.Yaml.Event
import GitSteward.Decimal.Reading

namespace GitSteward.Yaml

/-- What a scalar stands for. -/
inductive Value where
  | null
  | bool (b : Bool)
  | int (n : Int)
  | float (x : Float)
  | text (s : String)
deriving Repr, Inhabited

/-! ## The tags of scalars -/

def boolTag : TagBytes := tagBytes "tag:yaml.org,2002:bool"

def intTag : TagBytes := tagBytes "tag:yaml.org,2002:int"

def floatTag : TagBytes := tagBytes "tag:yaml.org,2002:float"

def nullTag : TagBytes := tagBytes "tag:yaml.org,2002:null"

/-- The name of a tag that is local to the application: the text after its exclamation
mark, or the mark itself where nothing follows it. -/
def localName? (tag : Option TagBytes) : Option String :=
  match tag with
  | some (0x21 :: rest) =>
    let name := if rest.isEmpty then [0x21] else rest
    String.fromUTF8? ⟨name.toArray⟩
  | _ => none

/-! ## Reading scalars -/

/-- Whether a text spells nothing. -/
def isNull (s : String) : Bool := s = "null" || s = "Null" || s = "NULL" || s = "~"

/-- The truth value that a text spells. -/
def readBool? (s : String) : Option Bool :=
  if s = "true" || s = "True" || s = "TRUE" then some true
  else if s = "false" || s = "False" || s = "FALSE" then some false
  else none

/-- The value of a digit in a base of at most 16. -/
def digit? (base : Nat) (c : Char) : Option Nat :=
  let d :=
    if '0' ≤ c ∧ c ≤ '9' then c.toNat - '0'.toNat
    else if 'a' ≤ c ∧ c ≤ 'f' then c.toNat - 'a'.toNat + 10
    else if 'A' ≤ c ∧ c ≤ 'F' then c.toNat - 'A'.toNat + 10
    else 16
  if d < base then some d else none

/-- The number that digits spell, if there are any and it is at most `limit`. -/
def readDigits? (base limit : Nat) (cs : List Char) : Option Nat :=
  if cs.isEmpty then none
  else
    (cs.foldl (fun n? c => n?.bind fun n => (digit? base c).map (n * base + ·)) (some 0)).filter
      (· ≤ limit)

/-- Whether a text is a number with a zero too many in front, which makes it a text. -/
def isPaddedNumber (cs : List Char) : Bool :=
  let body := match cs with
    | '-' :: cs => cs
    | '+' :: cs => cs
    | cs => cs
  match body with
  | '0' :: rest => !rest.isEmpty && rest.all Char.isDigit
  | _ => false

/-- The digits after the mark of a base, with that base. -/
def splitBase? : List Char → Option (Nat × List Char)
  | '0' :: 'x' :: cs => some (16, cs)
  | '0' :: 'o' :: cs => some (8, cs)
  | '0' :: 'b' :: cs => some (2, cs)
  | _ => none

/-- A number of at most `limit` that has no minus sign. -/
def readUnsigned? (limit : Nat) (s : String) : Option Nat :=
  let cs := s.toList
  let body := match cs with
    | '+' :: cs => cs
    | cs => cs
  match splitBase? body with
  | some (base, digits) => readDigits? base limit digits
  | none => if isPaddedNumber cs then none else readDigits? 10 limit body

/-- A number with a minus sign, of at least `-limit`. -/
def readNegative? (limit : Nat) (s : String) : Option Int :=
  match s.toList with
  | '-' :: cs =>
    let magnitude := match splitBase? cs with
      | some (base, digits) => readDigits? base limit digits
      | none => if isPaddedNumber cs then none else readDigits? 10 limit cs
    magnitude.map fun n => -(n : Int)
  | _ => none

/-- The largest number of 64 bits. -/
def maxWord : Nat := 0xFFFF_FFFF_FFFF_FFFF

/-- A whole number of at most 128 bits. -/
def readInt? (s : String) : Option Int :=
  ((readUnsigned? (Nat.pow 2 128 - 1) s).map Int.ofNat).or (readNegative? (Nat.pow 2 127) s)

/-- A number with a point or an exponent, infinity, or no number at all. -/
def readFloat? (s : String) : Option Float :=
  let unsigned := match s.toList with
    | '+' :: cs => String.ofList cs
    | _ => s
  if [".inf", ".Inf", ".INF"].contains unsigned then some (1.0 / 0.0)
  else if ["-.inf", "-.Inf", "-.INF"].contains s then some (-1.0 / 0.0)
  else if [".nan", ".NaN", ".NAN"].contains s then some (0.0 / 0.0)
  else match s.toList with
    | '+' :: '+' :: _ | '+' :: '-' :: _ => none
    | cs => Decimal.readFinite? cs

/-- What a plain scalar stands for. -/
def Value.ofPlain (s : String) : Value :=
  if s.isEmpty || isNull s then .null
  else match readBool? s, readInt? s with
    | some b, _ => .bool b
    | none, some n => .int n
    | none, none =>
      if isPaddedNumber s.toList then .text s
      else (readFloat? s).elim (.text s) .float

/-- What a scalar stands for, or the kind of value that its tag asks for in vain. -/
def Scalar.value (s : Scalar) : Except String Value :=
  match s.tag with
  | none => .ok (if s.style = .plain then .ofPlain s.text else .text s.text)
  | some tag =>
    if tag = boolTag then
      (readBool? s.text).elim (.error "a boolean") fun b => .ok (.bool b)
    else if tag = intTag then
      (readInt? s.text).elim (.error "an integer") fun n => .ok (.int n)
    else if tag = floatTag then
      (readFloat? s.text).elim (.error "a float") fun x => .ok (.float x)
    else if tag = nullTag then
      if isNull s.text then .ok .null else .error "null"
    else if tag.head? = some 0x21 && s.style = .plain then .ok (.ofPlain s.text)
    else .ok (.text s.text)

/-- Whether a scalar can be read as a value of the kind that `tag` names: it is plain, or
literal with that very tag. -/
def Scalar.canBe (s : Scalar) (tag : TagBytes) : Bool :=
  s.style = .plain || (s.style = .literal && s.tag = some tag)

end GitSteward.Yaml
