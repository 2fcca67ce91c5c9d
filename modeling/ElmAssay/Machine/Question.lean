import ElmAssay.Machine.Call

/-!
# Questions about files

The questions that conditions ask about a file, by their letters (`Question.asks`), and the comparisons of numbers and
of texts, by their operators (`Question.compareWholes?`, `Question.compareTexts?`).
-/

namespace ElmAssay.Machine.Question

/-- The letters of the questions about a file. -/
def letters : List Char :=
  ['r', 'w', 'x', 'e', 'f', 'd', 'c', 'b', 'p', 'u', 'g', 'k', 's', 'h', 'O', 'G', 'L', 'S']

/-- The answer to a question about a file. -/
def asks (letter : Char) (path : Octets) : Routine Bool := do
  match ← if letter = 'h' ∨ letter = 'L' then Routine.infoOfName path else Routine.info path with
  | .error _ => return false
  | .ok i =>
    return match letter with
    | 'f' => i.isFile
    | 'd' => i.isDirectory
    | 'c' => i.kind == .device
    | 'p' => i.kind == .pipe
    | 'h' => i.isLink
    | 'L' => i.isLink
    | 's' => i.size != 0
    | 'x' => i.isDirectory || i.isRunnable
    | 'u' => i.rights &&& 0o4000 != 0
    | 'g' => i.rights &&& 0o2000 != 0
    | 'k' => i.rights &&& 0o1000 != 0
    | 'e' => true
    | 'r' => true
    | 'w' => true
    | 'O' => true
    | 'G' => true
    | _ => false

/-- Whether two paths lead to the same file. -/
def areSame (a b : Octets) : Routine Bool := do
  match ← Routine.info a, ← Routine.info b with
  | .ok i, .ok j =>
    if i.serial != 0 || j.serial != 0 then return i.serial == j.serial
    match ← Routine.ask (.resolve a), ← Routine.ask (.resolve b) with
    | .ok l, .ok m => return l == m
    | _, _ => return false
  | _, _ => return false

/-- The time when what a path leads to changed last. -/
def timeOf? (path : Octets) : Routine (Option Int) := do
  return (← Routine.info path).toOption.map Info.changed

/-- Whether what a path leads to changed after what another one leads to. What is not there is older than all else if
`missingIsOld`, and else compares to nothing. -/
def isNewer (missingIsOld : Bool) (a b : Octets) : Routine Bool := do
  match ← timeOf? a, ← timeOf? b with
  | some s, some t => return t < s
  | some _, none => return missingIsOld
  | none, _ => return false

/-- What a comparison of whole numbers says. -/
def compareWholes? (operator : String) (a b : Int) : Option Bool :=
  match operator with
  | "-eq" => some (a == b)
  | "-ne" => some (a != b)
  | "-lt" => some (decide (a < b))
  | "-le" => some (decide (a ≤ b))
  | "-gt" => some (decide (b < a))
  | "-ge" => some (decide (b ≤ a))
  | _ => none

/-- What a comparison of texts says. -/
def compareTexts? (operator : String) (a b : Octets) : Option Bool :=
  match operator with
  | "=" => some (a == b)
  | "!=" => some (a != b)
  | "<" => some (decide (a < b))
  | ">" => some (decide (b < a))
  | _ => none

end ElmAssay.Machine.Question
