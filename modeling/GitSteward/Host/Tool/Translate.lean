-- Translating bytes: the sets of `tr` and what it does with them.
import GitSteward.Host.Tool.Format

namespace GitSteward.Host.Translate

open Format

/-- The bytes from one to another. -/
def range (first last : UInt8) : Bytes :=
  (List.range (last.toNat + 1 - first.toNat)).map fun i => (first.toNat + i).toUInt8

/-- The classes of bytes that have names. -/
def classes : List (String × Bytes) :=
  let lower := range (byte 'a') (byte 'z')
  let upper := range (byte 'A') (byte 'Z')
  let digit := range (byte '0') (byte '9')
  [("lower", lower), ("upper", upper), ("digit", digit), ("alpha", upper ++ lower),
    ("alnum", digit ++ upper ++ lower), ("blank", [9, 32]), ("space", [9, 10, 11, 12, 13, 32])]

/-- A class at the beginning of a set, and what follows it. -/
def classAt (bytes : Bytes) : Option (Bytes × Bytes) :=
  classes.findSome? fun (name, members) =>
    let written := Text.utf8 ("[:" ++ name ++ ":]")
    if bytes.take written.length = written then some (members, bytes.drop written.length)
    else none

/-- One byte of a set, written as itself or as an escape, and what follows it. -/
def single (b : UInt8) (rest : Bytes) : UInt8 × Bytes :=
  if b = 92 && !rest.isEmpty then
    let (value, taken) := escape false rest
    (value.getLastD b, rest.drop taken)
  else (b, rest)

/-- The bytes that a set stands for, in order. -/
def members : Nat → Bytes → Bytes
  | 0, _ => []
  | _ + 1, [] => []
  | fuel + 1, b :: rest =>
    match classAt (b :: rest) with
    | some (bytes, after) => bytes ++ members fuel after
    | none =>
      let (first, after) := single b rest
      match after with
      | dash :: c :: more =>
        if dash = byte '-' then
          let (last, after) := single c more
          range first last ++ members fuel after
        else first :: members fuel after
      | _ => first :: members fuel after

def membersOf (set : String) : Bytes :=
  let bytes := Text.utf8 set
  members (bytes.length + 1) bytes

/-- What is done with bytes. -/
structure Translation where
  /-- for each byte what it becomes, or nothing if it is left out -/
  table : Array (Option UInt8)
  /-- bytes of which only the first in a row is kept -/
  squeezed : Bytes := []
deriving Inhabited

/-- The second set, as long as the first one: its last byte is repeated. -/
def extend (n : Nat) (set : Bytes) : Bytes :=
  set ++ List.replicate (n - set.length) (set.getLastD 0)

/-- What options and sets ask for. -/
def ofArgs (complement delete squeeze : Bool) (sets : List String) : Option Translation :=
  let all := range 0 255
  let choose (set : String) : Bytes :=
    let chosen := membersOf set
    if complement then all.filter (!chosen.contains ·) else chosen
  let keep := all.map some
  match delete, squeeze, sets with
  | true, false, [set] =>
    let gone := choose set
    some { table := (all.map fun b => if gone.contains b then none else some b).toArray }
  | true, true, [set, set2] =>
    let gone := choose set
    some {
      table := (all.map fun b => if gone.contains b then none else some b).toArray
      squeezed := membersOf set2 }
  | false, true, [set] => some { table := keep.toArray, squeezed := choose set }
  | false, _, [set, set2] =>
    let source := choose set
    let target := extend source.length (membersOf set2)
    let pairs := (source.zip target).reverse
    some {
      table := (all.map fun b => some ((pairs.lookup b).getD b)).toArray
      squeezed := if squeeze then membersOf set2 else [] }
  | _, _, _ => none

/-- Leaves out bytes that repeat the one before them. -/
def squeeze (set : Bytes) : Option UInt8 → Bytes → Bytes
  | _, [] => []
  | last, b :: rest =>
    if last = some b && set.contains b then squeeze set last rest
    else b :: squeeze set (some b) rest

/-- Translates bytes. -/
def Translation.apply (t : Translation) (bytes : Bytes) : Bytes :=
  let changed := bytes.filterMap fun b => t.table.getD b.toNat (some b)
  if t.squeezed.isEmpty then changed else squeeze t.squeezed none changed

end GitSteward.Host.Translate
