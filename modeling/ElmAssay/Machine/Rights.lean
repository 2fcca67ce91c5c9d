import ElmAssay.Machine.Call
import ElmAssay.Machine.Numeral

/-!
# Rights

The rights of a file say what its owner, its group and all others may do with it. They are shown by letters
(`Rights.shown`) or octal digits, and a change of them is written by octal digits or by letters, clause by clause
(`Rights.read?`, `Rights.after`).
-/

namespace ElmAssay.Machine.Rights

/-- The right to run as the owner. -/
def asOwner : Nat := 0o4000

/-- The right to run as the group. -/
def asGroup : Nat := 0o2000

/-- The right to take away only what is one's own. -/
def keeps : Nat := 0o1000

/-- All rights. -/
def all : Nat := 0o7777

/-- Whether some of the rights of a mask are there. -/
def hasAny (rights mask : Nat) : Bool := rights &&& mask != 0

/-- The rights without those of a mask. -/
def without (rights mask : Nat) : Nat := rights &&& (all ^^^ (mask &&& all))

/-! ## Shown by letters -/

/-- The letters of one class, whose right to run shows a further one by `letter`. -/
def lettersOf (rights shift further : Nat) (letter : Char) : List Char :=
  let has (bit : Nat) : Bool := rights / shift / bit % 2 == 1
  let run :=
    match has 1, hasAny rights further with
    | true, true => letter
    | false, true => letter.toUpper
    | true, false => 'x'
    | false, false => '-'
  [if has 4 then 'r' else '-', if has 2 then 'w' else '-', run]

/-- Rights by nine letters. -/
def letters (rights : Nat) : Octets :=
  String.ofList (lettersOf rights 64 asOwner 's' ++ lettersOf rights 8 asGroup 's' ++ lettersOf rights 1 keeps 't')

/-- The letter of a kind. -/
def kindLetter : Kind → Char
  | .file => '-'
  | .directory => 'd'
  | .link => 'l'
  | .device => 'c'
  | .pipe => 'p'

/-- The kind and the rights of something by ten letters. -/
def shown (i : Info) : Octets := String.singleton (kindLetter i.kind) ++ letters i.rights

/-- Rights by octal digits, at least so many. -/
def octal (width rights : Nat) : Octets := Numeral.padLeft '0' width (String.ofList (Numeral.digitsIn 8 rights))

/-! ## Changes -/

/-- Which rights a change is about. -/
inductive Subject
  | these (rights : Nat)
  /-- The rights that a class has already. -/
  | copied (rights : Nat)
  /-- The right to run, if some class has it or if it is a directory, and others. -/
  | running (rights : Nat)
  deriving DecidableEq, Repr

/-- A change: an operator, the classes that it is for, its subject, and the rights that it names. -/
structure Change where
  operator : Char
  classes : Nat
  subject : Subject
  named : Nat
  deriving DecidableEq, Repr

/-- The rights of a class by its letter. -/
def classRights? : Char → Option Nat
  | 'u' => some 0o4700
  | 'g' => some 0o2070
  | 'o' => some 0o1007
  | 'a' => some all
  | _ => none

/-- The rights by a letter. -/
def letterRights? : Char → Option Nat
  | 'r' => some 0o444
  | 'w' => some 0o222
  | 'x' => some 0o111
  | 's' => some 0o6000
  | 't' => some 0o1000
  | _ => none

/-- The rights of a class without those beyond reading, writing and running. -/
def plainRights? : Char → Option Nat
  | 'u' => some 0o700
  | 'g' => some 0o070
  | 'o' => some 0o007
  | _ => none

/-- The classes at the front of a clause, and the rest. -/
def takeClasses : Nat → List Char → Nat × List Char
  | classes, c :: s =>
    match classRights? c with
    | some rights => takeClasses (classes ||| rights) s
    | none => (classes, c :: s)
  | classes, [] => (classes, [])

/-- The rights that letters spell, whether the right to run is conditional, and the rest. -/
def takeLetters : Nat → Bool → List Char → Nat × Bool × List Char
  | rights, conditional, c :: s =>
    if c = 'X' then takeLetters rights true s
    else
      match letterRights? c with
      | some more => takeLetters (rights ||| more) conditional s
      | none => (rights, conditional, c :: s)
  | rights, conditional, [] => (rights, conditional, [])

/-- Whether a character is an operator of changes. -/
def isOperator (c : Char) : Bool := c == '=' || c == '+' || c == '-'

/-- What stands behind an operator: the change, and the rest. -/
def readSubject (operator : Char) (classes : Nat) (s : List Char) : Option (Change × List Char) :=
  let digits := s.takeWhile (Numeral.isDigitIn 8)
  let rest := s.drop digits.length
  if !digits.isEmpty then
    let rights := Numeral.valueIn 8 digits
    if all < rights || classes != 0 || !(rest.isEmpty || rest.head? == some ',') then none
    else some (⟨operator, all, .these rights, all⟩, rest)
  else
    match s.head?.bind plainRights? with
    | some rights => some (⟨operator, classes, .copied rights, if classes = 0 then rights else classes &&& rights⟩, s.drop 1)
    | none =>
      let (rights, conditional, rest) := takeLetters 0 false s
      some
        (⟨operator, classes, if conditional then .running rights else .these rights,
          if classes = 0 then rights else classes &&& rights⟩, rest)

/-- The changes of a clause from its first operator on, and the rest. The fuel bounds their count. -/
def readOperators : Nat → Nat → List Char → Option (List Change × List Char)
  | fuel + 1, classes, c :: s =>
    if isOperator c then do
      let (change, rest) ← readSubject c classes s
      let (more, rest) ← readOperators fuel classes rest
      return (change :: more, rest)
    else some ([], c :: s)
  | _, _, s => some ([], s)

/-- The changes of one clause by letters. -/
def readClause (clause : List Char) : Option (List Change) :=
  let (classes, s) := takeClasses 0 clause
  match readOperators (s.length + 1) classes s with
  | some (change :: more, []) => some (change :: more)
  | _ => none

/-- The changes that a text writes. Few octal digits leave the rights of a directory that they do not name. -/
def read? (text : Octets) : Option (List Change) :=
  let cs := text.toList
  if cs.head?.any (Numeral.isDigitIn 8) then
    let rights := Numeral.valueIn 8 cs
    if !cs.all (Numeral.isDigitIn 8) || all < rights then none
    else
      let named := if cs.length < 5 then (rights &&& 0o7000) ||| 0o777 else all
      some [⟨'=', all, .these rights, named⟩]
  else if cs.isEmpty then none
  else ((Text.cut ',' cs).mapM readClause).map List.flatten

/-- Rights after one change. A mask holds back what is not asked for any class. -/
def Change.apply (isDirectory : Bool) (mask rights : Nat) (c : Change) : Nat :=
  let spared := if isDirectory then without 0o6000 c.named else 0
  let value :=
    match c.subject with
    | .these r => r
    | .copied r =>
      let own := r &&& rights
      let spread (bits : Nat) : Nat := if hasAny own bits then bits else 0
      own ||| spread 0o444 ||| spread 0o222 ||| spread 0o111
    | .running r => if isDirectory || hasAny rights runRights then r ||| runRights else r
  let value := without (if c.classes = 0 then without value mask else value &&& c.classes) spared
  match c.operator with
  | '=' => (rights &&& ((if c.classes = 0 then 0 else without all c.classes) ||| spared)) ||| value
  | '+' => rights ||| value
  | _ => without rights value

/-- Rights after changes. -/
def after (changes : List Change) (isDirectory : Bool) (mask rights : Nat) : Nat :=
  changes.foldl (fun rights c => c.apply isDirectory mask rights) rights

end ElmAssay.Machine.Rights
