import ElmAssay.Machine.Utility.Reading

/-!
# Two ordered files

Two files whose lines are in order are gone through side by side: their lines are put into columns by where they are found
(`comm`), or lines with the same field are joined (`join`). A line out of its order is told of.
-/

namespace ElmAssay.Machine.Utility

open Text Work

/-- How the order of lines is checked. -/
inductive OrderCheck
  | never
  /-- From the first line on that is in one file alone. -/
  | whenUnpaired
  | always
  deriving DecidableEq, Repr

/-! ## Columns -/

/-- What is known while two files are gone through: whether a line was in one of them alone, which files were told of, and
the counts of the columns. -/
structure Collation where
  isUnpaired : Bool
  told : List Nat
  counts : List Nat

/-- Tells that a line does not follow the one before it in a file, if that is checked; a strict check ends the utility. -/
def checkOrder (check : OrderCheck) (m : Collation) (file : Nat) (before after : Option Octets) : Work Collation := do
  match before, after with
  | some a, some b =>
    let counts := check = .always || (check = .whenUnpaired && m.isUnpaired)
    if counts && !m.told.contains file && b < a then
      if check = .always then Work.fail 1 s!"file {file} is not in sorted order"
      complain s!"file {file} is not in sorted order"
      return { m with told := file :: m.told }
    else return m
  | _, _ => return m

/-- How columns are written. -/
structure ColumnStyle where
  shows : Nat → Bool
  mark : Octets
  lineEnd : Char

/-- The text in front of a column. -/
def ColumnStyle.indent (s : ColumnStyle) (column : Nat) : Octets :=
  String.join ((List.range (column - 1)).map fun i => if s.shows (i + 1) then s.mark else "")

/-- Goes through two files. `before` and `before2` are the last lines of each. The fuel bounds the lines. -/
def mergeFiles (check : OrderCheck) (style : ColumnStyle) :
    Nat → Collation → Option Octets × Option Octets → List Octets → List Octets → Work Collation
  | 0, m, _, _, _ => return m
  | fuel + 1, m, (before, before2), left, right => do
    let order : Option Ordering :=
      match left, right with
      | [], [] => none
      | [], _ => some .gt
      | _, [] => some .lt
      | a :: _, b :: _ => some (compare a b)
    match order with
    | none => return m
    | some order =>
      let column := match order with
        | .lt => 1
        | .gt => 2
        | .eq => 3
      let line := ((if order = .gt then right else left).head?).getD ""
      if style.shows column then put ((style.indent column ++ line).push style.lineEnd)
      let m := { m with counts := m.counts.modify (column - 1) (· + 1), isUnpaired := m.isUnpaired || order != .eq }
      let advance (m : Collation) (file : Nat) (goes : Bool) (before : Option Octets) (lines : List Octets) :
          Work (Collation × Option Octets × List Octets) := do
        match goes, lines with
        | true, a :: rest =>
          let m ← if rest.isEmpty then checkOrder check m file before (some a) else checkOrder check m file (some a) rest.head?
          return (m, some a, rest)
        | _, lines => return (m, before, lines)
      let (m, before, left) ← advance m 1 (order != .gt) before left
      let (m, before2, right) ← advance m 2 (order != .lt) before2 right
      mergeFiles check style fuel m (before, before2) left right

/-- The two operands of a utility. -/
def twoOperands (options : Arguments) : Work (Octets × Octets) := do
  match options.operands with
  | [] => failUsage 1 "missing operand"
  | [a] =>
    let shown := Shown.marked a
    failUsage 1 s!"missing operand after {shown}"
  | _ :: _ :: extra :: _ =>
    let shown := Shown.marked extra
    failUsage 1 s!"extra operand {shown}"
  | [a, b] => return (a, b)

/-- The lines of a file that has to be there. -/
def readLines (mark : Char) (path : Octets) : Work (List Octets) := do
  match ← readOperand path with
  | .ok data => return partsBy mark data
  | .error r => Work.fail 1 (aboutFile path r.wording)

/-- Compares two ordered files line by line. -/
def comm : Utility := fun _ call => complete call.name do
  let options ← Arguments.read
    [.flag '1' "", .flag '2' "", .flag '3' "", .named 'O' "output-delimiter" .value, .named 'N' "nocheck-order" .nothing,
     .named 'K' "check-order" .nothing, .named 'T' "total" .nothing, .flag 'z' "zero-terminated"] 1 call.arguments
  let mark ←
    match (options.values 'O').eraseDups with
    | [] => pure "\t"
    | [m] => pure (if m.isEmpty then "\x00" else m)
    | _ => Work.fail 1 "multiple output delimiters specified"
  let (a, b) ← twoOperands options
  let lineEnd := lineMark (options.has 'z')
  let left ← readLines lineEnd a
  let right ← readLines lineEnd b
  let check : OrderCheck :=
    match options.last? ['N', 'K'] with
    | some 'N' => .never
    | some _ => .always
    | none => .whenUnpaired
  let style : ColumnStyle := ⟨fun column => !options.has (Char.ofNat (48 + column)), mark, lineEnd⟩
  let m ← mergeFiles check style (left.length + right.length + 1) ⟨false, [], [0, 0, 0]⟩ (none, none) left right
  if options.has 'T' then put ((mark.intercalate (m.counts.map Numeral.text ++ ["total"])).push lineEnd)
  if !m.told.isEmpty then Work.fail 1 "input is not in sorted order"

/-! ## Joining -/

/-- A field of a joined line: the common field, or a field of one of the files. -/
inductive JoinField
  | common
  | ofFile (file field : Nat)
  deriving DecidableEq, Repr

/-- How lines are joined. -/
structure Joining where
  fields : Nat × Nat
  mark : Option Char
  ignoresCase : Bool
  shows : List JoinField
  /-- Whether the fields are those of the first lines. -/
  isAuto : Bool
  filler : Octets
  /-- The files of which lines alone are written, and whether joined lines are. -/
  alone : List Nat
  showsPairs : Bool
  check : OrderCheck
  hasHeader : Bool
  lineEnd : Char

/-- The fields of a line. -/
def Joining.split (o : Joining) (line : Octets) : List Octets :=
  match o.mark with
  | some '\n' => [line]
  | some c => (Text.cut c line.toList).map String.ofList
  | none =>
    let isBlank (c : Char) : Bool := c == ' ' || c == '\t' || c == '\n'
    let rec go : List Char → List Char → List Octets
      | [], [] => []
      | [], word => [String.ofList word.reverse]
      | c :: cs, word =>
        if isBlank c then (if word.isEmpty then [] else [String.ofList word.reverse]) ++ go cs [] else go cs (c :: word)
    go line.toList []

/-- The field by which a line of a file is joined. -/
def Joining.key (o : Joining) (file : Nat) (fields : List Octets) : Octets :=
  (fields[if file = 1 then o.fields.1 else o.fields.2]?).getD ""

/-- The order of two keys. -/
def Joining.order (o : Joining) (a b : Octets) : Ordering :=
  if o.ignoresCase then compare (a.map Char.toLower) (b.map Char.toLower) else compare a b

/-- The line that joins two lines, one of which may be missing. -/
def Joining.line (o : Joining) (left right : Option (List Octets)) : Octets :=
  let joint := (o.mark.getD ' ').toString
  let field (file n : Nat) : Octets :=
    match (if file = 1 then left else right).bind (·[n]?) with
    | some t => if t.isEmpty then o.filler else t
    | none => o.filler
  let key :=
    match left, right with
    | some l, _ => (l[o.fields.1]?).getD ""
    | none, some r => (r[o.fields.2]?).getD ""
    | none, none => ""
  let text :=
    if o.shows.isEmpty then
      let rest (file : Nat) (fields : Option (List Octets)) : List Octets :=
        (((fields.getD []).zipIdx.filter fun f => f.2 != (if file = 1 then o.fields.1 else o.fields.2)).map Prod.fst).map
          fun t => if t.isEmpty then o.filler else t
      joint.intercalate ((if key.isEmpty then o.filler else key) :: rest 1 left ++ rest 2 right)
    else
      joint.intercalate (o.shows.map fun f =>
        match f with
        | .common => if key.isEmpty then o.filler else key
        | .ofFile file n => field file n)
  text.push o.lineEnd

/-- A line of a file with its fields and its number. -/
structure JoinLine where
  text : Octets
  fields : List Octets
  number : Nat

/-- Tells that a line of a file does not follow the one before it, if that is checked. -/
def checkJoin (o : Joining) (m : Collation) (file : Nat) (path : Octets) (lines : List JoinLine) : Work Collation := do
  match lines with
  | a :: b :: _ =>
    let counts := o.check = .always || (o.check = .whenUnpaired && m.isUnpaired)
    if counts && !m.told.contains file && o.order (o.key file a.fields) (o.key file b.fields) == .gt then
      let message := s!"{path}:{b.number}: is not sorted: {b.text}"
      if o.check = .always then Work.fail 1 message
      complain message
      return { m with told := file :: m.told }
    else return m
  | _ => return m

/-- Checks the order of lines that are passed. -/
def passJoin (o : Joining) (file : Nat) (path : Octets) : Nat → Collation → List JoinLine → Work Collation
  | 0, m, _ => return m
  | n + 1, m, lines => do
    let m ← checkJoin o m file path lines
    passJoin o file path n m (lines.drop 1)

/-- Joins the lines of two files. The fuel bounds the lines. -/
def joinFiles (o : Joining) (paths : Octets × Octets) : Nat → Collation → List JoinLine → List JoinLine → Work Collation
  | 0, m, _, _ => return m
  | fuel + 1, m, left, right => do
    let alone (m : Collation) (file : Nat) (a : JoinLine) : Work Collation := do
      if o.alone.contains file then
        put (if file = 1 then o.line (some a.fields) none else o.line none (some a.fields))
      return { m with isUnpaired := true }
    match left, right with
    | [], [] => return m
    | a :: as, [] =>
      let m ← alone m 1 a
      let m ← checkJoin o m 1 paths.1 left
      if o.alone.contains 1 || o.check != .never then joinFiles o paths fuel m as [] else return m
    | [], b :: bs =>
      let m ← alone m 2 b
      let m ← checkJoin o m 2 paths.2 right
      if o.alone.contains 2 || o.check != .never then joinFiles o paths fuel m [] bs else return m
    | a :: as, b :: bs =>
      match o.order (o.key 1 a.fields) (o.key 2 b.fields) with
      | .lt =>
        let m ← alone m 1 a
        let m ← checkJoin o m 1 paths.1 left
        joinFiles o paths fuel m as (b :: bs)
      | .gt =>
        let m ← alone m 2 b
        let m ← checkJoin o m 2 paths.2 right
        joinFiles o paths fuel m (a :: as) bs
      | .eq =>
        let key := o.key 1 a.fields
        let ls := left.takeWhile fun l => o.order (o.key 1 l.fields) key == .eq
        let rs := right.takeWhile fun r => o.order (o.key 2 r.fields) key == .eq
        let m ← passJoin o 1 paths.1 ls.length m left
        let m ← passJoin o 2 paths.2 rs.length m right
        if o.showsPairs then
          for l in ls do
            for r in rs do put (o.line (some l.fields) (some r.fields))
        joinFiles o paths fuel m (left.drop ls.length) (right.drop rs.length)

/-- A field number that an option gives, from zero on. -/
def joinFieldOf (text : Octets) : Work Nat := do
  match Size.read "" text.toList with
  | .ok 0 =>
    let shown := Shown.marked text
    Work.fail 1 s!"invalid field number: {shown}"
  | .ok n => return n - 1
  | .error .malformed =>
    let shown := Shown.marked text
    Work.fail 1 s!"invalid field number: {shown}"
  | .error _ => return Size.limit

/-- The fields that an option lists. -/
def joinFieldsOf (text : Octets) : Work (List JoinField) := do
  let parts := (((text.toList.splitBy fun a b => (a == ',' || a == ' ' || a == '\t') == (b == ',' || b == ' ' || b == '\t')).filter
    fun part => !part.head?.any fun c => c == ',' || c == ' ' || c == '\t')).map String.ofList
  parts.mapM fun part => do
    let shown := Shown.marked part
    match part.toList with
    | ['0'] => return .common
    | '1' :: '.' :: rest => return .ofFile 1 (← joinFieldOf (String.ofList rest))
    | '2' :: '.' :: rest => return .ofFile 2 (← joinFieldOf (String.ofList rest))
    | '0' :: _ => Work.fail 1 s!"invalid field specifier: {shown}"
    | '1' :: _ => Work.fail 1 s!"invalid field specifier: {shown}"
    | '2' :: _ => Work.fail 1 s!"invalid field specifier: {shown}"
    | _ => Work.fail 1 s!"invalid file number in field spec: {shown}"

/-- The number of a file that an option gives. -/
def joinFileOf (text : Octets) : Work Nat := do
  match text with
  | "1" => return 1
  | "2" => return 2
  | _ =>
    let shown := Shown.marked text
    Work.fail 1 s!"invalid file number: {shown}"

/-- The one field that options give, which must agree. -/
def agreedField (options : Arguments) (keys : List Char) : Work Nat := do
  let given ← (options.options.filter fun o => keys.contains o.1).mapM fun o => joinFieldOf (o.2.getD "")
  match given with
  | [] => return 0
  | n :: rest =>
    if let some m := rest.find? (· != n) then
      let a := n + 1
      let b := m + 1
      Work.fail 1 s!"incompatible join fields {a}, {b}"
    return n

/-- Joins the lines of two ordered files that have a field in common. -/
def join : Utility := fun _ call => complete call.name do
  let options ← Arguments.read
    [.valued 'a' "", .valued 'e' "", .flag 'i' "ignore-case", .valued 'j' "", .valued 'o' "", .valued 't' "", .valued 'v' "",
     .valued '1' "", .valued '2' "", .named 'K' "check-order" .nothing, .named 'N' "nocheck-order" .nothing,
     .named 'H' "header" .nothing, .flag 'z' "zero-terminated"] 1 call.arguments
  let alone ← (options.values 'a').mapM joinFileOf
  let only ← (options.values 'v').mapM joinFileOf
  let isAuto := (options.values 'o').contains "auto"
  let shows ← ((options.values 'o').filter (· != "auto")).mapM joinFieldsOf
  let first ← agreedField options ['j', '1']
  let second ← agreedField options ['j', '2']
  let mark ←
    match options.value? 't' with
    | none => pure none
    | some t =>
      match t.toList with
      | [] => pure (some '\n')
      | [c] => pure (some c)
      | ['\\', '0'] => pure (some '\x00')
      | _ =>
        let shown := Shown.marked t
        Work.fail 1 s!"multi-character tab {shown}"
  match (options.values 'e').eraseDups with
  | _ :: _ :: _ => Work.fail 1 "conflicting empty-field replacement strings"
  | _ => pure ()
  let (a, b) ← twoOperands options
  if a = "-" && b = "-" then Work.fail 1 "both files cannot be standard input"
  let o : Joining :=
    { fields := (first, second), mark, ignoresCase := options.has 'i', shows := shows.flatten, isAuto
      filler := (options.value? 'e').getD "", alone := alone ++ only, showsPairs := only.isEmpty
      check := match options.last? ['N', 'K'] with
        | some 'N' => .never
        | some _ => .always
        | none => .whenUnpaired
      hasHeader := options.has 'H', lineEnd := lineMark (options.has 'z') }
  let read (path : Octets) : Work (List JoinLine) := do
    return ((← readLines o.lineEnd path).zipIdx 1).map fun (line, n) => ⟨line, o.split line, n⟩
  let left ← read a
  let right ← read b
  let count (lines : List JoinLine) : Nat := (lines.head?.elim 0 fun l => l.fields.length)
  let shown : List JoinField :=
    if isAuto then
      .common :: (((List.range (count left)).filter (· != first)).map (.ofFile 1) ++
        ((List.range (count right)).filter (· != second)).map (.ofFile 2))
    else o.shows
  let o := { o with shows := shown }
  let start : Collation := ⟨false, [], []⟩
  let (left, right) ←
    if o.hasHeader then
      if !(left.isEmpty && right.isEmpty) then put (o.line (left.head?.map JoinLine.fields) (right.head?.map JoinLine.fields))
      pure (left.drop 1, right.drop 1)
    else pure (left, right)
  let m ← joinFiles o (a, b) (left.length + right.length + 1) start left right
  if !m.told.isEmpty then Work.fail 1 "input is not in sorted order"

end ElmAssay.Machine.Utility
