import ElmAssay.Machine.Rules.Value
import Std.Data.HashMap

/-!
# Tables of associations

A table holds values by keys, which are texts (`Associations`). Whole numbers are keys too, and they are looked for as
such where all keys are. The order of the keys (`Associations.keys`) comes from the buckets that they fall into; in a bucket
those stand in front that were looked for last.
-/

namespace ElmAssay.Machine.Rules

/-- A key as it is looked for. -/
inductive Key
  | text (s : Octets)
  | number (n : Int)
  deriving DecidableEq, Repr

/-- The text of a key. -/
def Key.shown : Key → Octets
  | text s => s
  | number n => Numeral.signedText n

/-- The buckets of a table: those of the texts, if texts were looked for at all, and those of the numbers. -/
structure Buckets where
  texts : Option (Array (List Octets))
  numbers : Array (List Int)
  deriving Repr

/-- How the keys of a table are kept. -/
inductive Arrangement
  | nothing
  /-- The numbers from one up to a count. -/
  | row (count : Nat)
  | buckets (b : Buckets)
  deriving Repr

/-- A table. -/
structure Associations where
  values : Std.HashMap Octets Value
  arrangement : Arrangement

namespace Buckets

/-- The count of buckets of a new table. -/
def startCount : Nat := 64

/-- The count of keys for each bucket above which there are more buckets. -/
def crowd : Nat := 12

/-- The number that decides on the bucket of a text. -/
def hash (s : Octets) : UInt32 := s.foldl (fun h c => (h ^^^ c.val) * 16777619) 2166136261

/-- The count of buckets. -/
def count (b : Buckets) : Nat := b.numbers.size

/-- Buckets without keys. -/
def empty (hasTexts : Bool) (count : Nat) : Buckets :=
  ⟨if hasTexts then some (Array.replicate count []) else none, Array.replicate count []⟩

/-- The bucket of a text. -/
def textPlace (b : Buckets) (s : Octets) : Nat := (hash s).toNat % b.count

/-- The bucket of a number. -/
def numberPlace (b : Buckets) (n : Int) : Nat := (n % b.count).toNat

/-- The buckets with a text in front of the others of its bucket. -/
def withText (b : Buckets) (s : Octets) : Buckets :=
  let i := b.textPlace s
  let ⟨texts, numbers⟩ := b
  ⟨texts.map fun t => t.modify i fun keys => s :: keys.filter (· != s), numbers⟩

/-- The buckets with a number in front of the others of its bucket. -/
def withNumber (b : Buckets) (n : Int) : Buckets :=
  let i := b.numberPlace n
  let ⟨texts, numbers⟩ := b
  ⟨texts, numbers.modify i fun keys => n :: keys.filter (· != n)⟩

/-- Whether a number was looked for as such. -/
def hasNumber (b : Buckets) (n : Int) : Bool := ((b.numbers[b.numberPlace n]?).getD []).contains n

/-- The buckets in which all keys have their places as texts. -/
def withTexts (b : Buckets) : Buckets :=
  match b.texts with
  | some _ => b
  | none =>
    let all := b.numbers.toList.flatten
    all.foldl (fun b n => b.withText (Numeral.signedText n)) { b with texts := some (Array.replicate b.count []) }

/-- Twice as many buckets. -/
def doubled (b : Buckets) : Buckets :=
  let size := 2 * b.count
  let wide : Buckets := empty b.texts.isSome size
  let numbers :=
    b.numbers.toList.flatten.reverse.foldl (fun (acc : Buckets) n => acc.withNumber n) wide
  (b.texts.elim [] fun t => t.toList.flatten.reverse).foldl (fun acc s => acc.withText s) numbers

/-- The buckets without a key. -/
def without (b : Buckets) (k : Key) : Buckets :=
  let s := k.shown
  let textPlace := b.textPlace s
  let b := { b with texts := b.texts.map fun t => t.modify textPlace fun keys => keys.filter (· != s) }
  match k, s.toInt? with
  | .number n, _ => { b with numbers := b.numbers.modify (b.numberPlace n) fun keys => keys.filter (· != n) }
  | .text _, some n => { b with numbers := b.numbers.modify (b.numberPlace n) fun keys => keys.filter (· != n) }
  | .text _, none => b

/-- The numbers up to a count, none of which has its place as a text. -/
def ofRow (count : Nat) : Buckets :=
  let size := (List.range 40).foldl (fun size _ => if size * crowd < count then 2 * size else size) startCount
  (List.range count).foldl (fun b (i : Nat) => b.withNumber ((i : Int) + 1)) (empty false size)

end Buckets

namespace Associations

/-- The table without keys. -/
def empty : Associations := ⟨∅, .nothing⟩

instance : Inhabited Associations := ⟨empty⟩

/-- The table of the values of a row. -/
def ofList (values : List Value) : Associations :=
  let step (acc : Std.HashMap Octets Value × Nat) (v : Value) : Std.HashMap Octets Value × Nat :=
    (acc.1.insert (Numeral.text acc.2) v, acc.2 + 1)
  ⟨(values.foldl step (∅, 1)).1, if values.isEmpty then .nothing else .row values.length⟩

/-- The buckets of a table that is not kept as a row any more. -/
def bucketsFor (arrangement : Arrangement) (k : Key) : Buckets :=
  let b :=
    match arrangement with
    | .nothing => Buckets.empty (match k with | .text _ => true | .number _ => false) Buckets.startCount
    | .row count => Buckets.ofRow count
    | .buckets b => b
  match k with
  | .text _ => b.withTexts
  | .number _ => b

/-- The arrangement in which a key is in front of its bucket, for so many keys. -/
def settled (arrangement : Arrangement) (k : Key) (isThere : Bool) (size : Nat) : Arrangement :=
  let b := bucketsFor arrangement k
  let isCrowded := !isThere && b.count * Buckets.crowd < size + 1
  let isShown := match k with | .number n => b.hasNumber n | .text _ => false
  let b := if isCrowded then b.doubled else b
  let b := if isShown then b else b.withText k.shown
  .buckets (match k with | .number n => b.withNumber n | .text _ => b)

/-- Whether an arrangement has a key in a row. -/
def isInRow : Arrangement → Key → Bool
  | .row count, .number n => 1 ≤ n && n ≤ count
  | _, _ => false

/-- The table after a key was looked for, which is there or comes in. -/
def touched : Associations → Key → Associations
  | ⟨values, arrangement⟩, k =>
    if isInRow arrangement k then ⟨values, arrangement⟩
    else
      let isThere := values.contains k.shown
      let size := values.size
      ⟨values, settled arrangement k isThere size⟩

/-- Whether there is a value for a key, with the table after the key was looked for. -/
def has (a : Associations) (k : Key) : Bool × Associations :=
  if a.values.contains k.shown then (true, a.touched k)
  else
    match a.arrangement, k with
    | .nothing, _ => (false, a)
    | .row _, .number _ => (false, a)
    | arrangement, _ => (false, { a with arrangement := .buckets (bucketsFor arrangement k) })

/-- The value for a key, which comes in if it is not there, with the table after that. -/
def get (a : Associations) (k : Key) : Value × Associations :=
  let s := k.shown
  let a := a.touched k
  match a.values[s]? with
  | some v => (v, a)
  | none => (.unset, { a with values := a.values.insert s .unset })

/-- The table with a value for a key. -/
def set (a : Associations) (k : Key) (v : Value) : Associations :=
  let a := a.touched k
  { a with values := a.values.insert k.shown v }

/-- The table without a key. -/
def erase : Associations → Key → Associations
  | ⟨values, arrangement⟩, k =>
    if values.contains k.shown then
      let values := values.erase k.shown
      if values.isEmpty then empty else ⟨values, .buckets ((bucketsFor arrangement k).without k)⟩
    else ⟨values, arrangement⟩

/-- The count of keys. -/
def size (a : Associations) : Nat := a.values.size

/-- The keys in order, with the table in which all of them have their places as texts. -/
def keys (a : Associations) : List Octets × Associations :=
  match a.arrangement with
  | .nothing => ([], a)
  | _ =>
    let b := bucketsFor a.arrangement (.text "")
    (b.texts.elim [] fun t => t.toList.flatten, { a with arrangement := .buckets b })

end Associations
end ElmAssay.Machine.Rules
