import CertKeeper.Action
import CertKeeper.Files.Path

/-!
# File trees

Directories and files by the names that lead to them from the root, and the calls on them, each
of which can fail on its own.  Writing calls take their outcome from a list of troubles ahead;
where it has run out they work.
-/

namespace CertKeeper

/-- A place in the tree, without dots. -/
abbrev Location := List Text

inductive Node where
  | file (mode : Nat) (content : Bytes)
  | directory (mode : Nat)
deriving DecidableEq, Repr

namespace Node

def mode : Node → Nat
  | file m _ | directory m => m

def isDirectory : Node → Bool
  | directory _ => true
  | file _ _ => false

def withMode (m : Nat) : Node → Node
  | file _ content => file m content
  | directory _ => directory m

end Node

structure Tree where
  nodes : List (Location × Node)
  /-- What is going to happen to the next writing calls: nothing, or a failure. -/
  troubles : List (Option SystemCode)
  /-- Where the system says, when it is asked, that the process may not write.  Whether a call that
  writes there then fails is for the troubles to say. -/
  barred : List Location
deriving DecidableEq, Repr

namespace Tree

def empty : Tree := ⟨[], [], []⟩

/-! ### Looking -/

def node? (t : Tree) (l : Location) : Option Node :=
  if l.isEmpty then some (.directory 0o755) else (t.nodes.find? fun n => n.1 = l).map Prod.snd

def nameLimit : Nat := 255

def pathLimit : Nat := 4095

/-- How many bytes the system is given for a text; a surrogate that stands for a byte is one. -/
def byteCount : Text → Nat
  | [] => 0
  | c :: rest => (if c.isSurrogate then 1 else (Utf8.encodePoint c).length) + byteCount rest

def isLong (name : Text) : Bool := nameLimit < byteCount name

def walk (t : Tree) (here : Location) : List Text → Except SystemCode Location
  | [] => .ok here
  | name :: rest =>
    let up := Text.ofString ".."
    if isLong name then .error .nameTooLong
    else
      let next := if name = up then here.dropLast else here ++ [name]
      if rest.isEmpty then .ok next
      else
        match t.node? next with
        | none => .error .noEntry
        | some (.file _ _) => .error .notDirectory
        | some (.directory _) => walk t next rest

/-- Where a path leads; one that is too long is refused before any of it is looked at. -/
def resolve (t : Tree) (p : Path) : Except SystemCode Location :=
  if pathLimit < byteCount p.spell then .error .nameTooLong else t.walk [] p.parts

def stat (t : Tree) (p : Path) : Except SystemCode Node := do
  match t.node? (← t.resolve p) with
  | some n => .ok n
  | none => .error .noEntry

def names (t : Tree) (l : Location) : List Text :=
  t.nodes.filterMap fun n =>
    if n.1.length = l.length + 1 ∧ n.1.dropLast = l then n.1.getLast? else none

/-! ### Changing -/

/-- Puts a node in place of what is at a location, or at the end. -/
def putNode (l : Location) (n : Node) : List (Location × Node) → List (Location × Node)
  | [] => [(l, n)]
  | m :: rest => if m.1 = l then (l, n) :: rest else m :: putNode l n rest

def put (t : Tree) (l : Location) (n : Node) : Tree := { t with nodes := putNode l n t.nodes }

def prune (t : Tree) (l : Location) : Tree :=
  { t with nodes := t.nodes.filter fun n => !l.isPrefixOf n.1 }

def trouble (t : Tree) : Option SystemCode × Tree :=
  match t.troubles with
  | [] => (none, t)
  | x :: rest => (x, { t with troubles := rest })

theorem find?_putNode_self (l : Location) (n : Node) (ns : List (Location × Node)) :
    ((putNode l n ns).find? fun m => m.1 = l).map Prod.snd = some n := by
  induction ns with
  | nil => simp [putNode]
  | cons m rest ih =>
    rw [putNode]
    split
    · simp
    · next other => simp only [List.find?_cons, other, decide_false]; exact ih

theorem node?_put_self (t : Tree) (l : Location) (n : Node) (h : l ≠ []) :
    (t.put l n).node? l = some n := by
  have nonempty : l.isEmpty = false := by cases l <;> simp_all
  simp only [node?, nonempty, put]
  simpa using find?_putNode_self l n t.nodes

theorem find?_putNode_other {l m : Location} (h : m ≠ l) (n : Node) (ns : List (Location × Node)) :
    (putNode l n ns).find? (fun x => x.1 = m) = ns.find? fun x => x.1 = m := by
  induction ns with
  | nil => simp [putNode, Ne.symm h]
  | cons x rest ih =>
    rw [putNode]
    split
    · next at_l =>
      have other : ¬ x.1 = m := by rw [at_l]; exact Ne.symm h
      simp [Ne.symm h, other]
    · simp only [List.find?_cons, ih]

theorem node?_put_other (t : Tree) {l m : Location} (n : Node) (h : m ≠ l) :
    (t.put l n).node? m = t.node? m := by
  simp only [node?, put, find?_putNode_other h]

/-! ### Calls -/

def failing {α : Type} (p : Path) (outcome : Except SystemCode α) : Except Fault α :=
  match outcome with
  | .ok a => .ok a
  | .error code => .error (Fault.system code p.spell)

/-- Failures that only mean that nothing is there. -/
def isAbsence (code : SystemCode) : Bool := code = .noEntry || code = .notDirectory

def isAbsent (p : Path) (code : SystemCode) : Bool := isAbsence code || p.isUnnameable

/-- Whether something is there; only a failure that says more is one. -/
def exists? (t : Tree) (p : Path) : Except Fault Bool :=
  match t.stat p with
  | .ok _ => .ok true
  | .error code => if isAbsent p code then .ok false else .error (Fault.system code p.spell)

def isDirectory (t : Tree) (p : Path) : Except Fault Bool :=
  match t.stat p with
  | .ok n => .ok n.isDirectory
  | .error code => if isAbsent p code then .ok false else .error (Fault.system code p.spell)

/-- Whether something is there that the process may write to. -/
def isWritable (t : Tree) (p : Path) : Bool :=
  match t.resolve p with
  | .error _ => false
  | .ok l => (t.node? l).isSome && !t.barred.contains l

def contentAt (t : Tree) (p : Path) : Except Fault Bytes :=
  failing p do
    match ← t.stat p with
    | .file _ content => .ok content
    | .directory _ => .error .isDirectory

def setMode (t : Tree) (p : Path) (mode : Nat) : Except Fault Tree :=
  failing p do
    let l ← t.resolve p
    match t.node? l with
    | some n => .ok (t.put l (n.withMode mode))
    | none => .error .noEntry

def makeDirectory (t : Tree) (p : Path) : Except SystemCode Tree := do
  let l ← t.resolve p
  match t.node? l with
  | some _ => .error .fileExists
  | none => .ok (t.put l (.directory 0o755))

/-- Makes a directory and those it is in; what is a directory already is no failure. -/
def makeDirectories (t : Tree) (p : Path) : Nat → Except Fault Tree
  | 0 => failing p (t.makeDirectory p)
  | fuel + 1 =>
    match t.makeDirectory p with
    | .ok t => .ok t
    | .error .noEntry =>
      if p.parts.isEmpty then .error (Fault.system .noEntry p.spell)
      else
        match t.makeDirectories p.parent fuel with
        | .error e => .error e
        | .ok t =>
          match t.makeDirectory p with
          | .ok t => .ok t
          | .error code =>
            match t.isDirectory p with
            | .ok true => .ok t
            | _ => .error (Fault.system code p.spell)
    | .error code =>
      match t.isDirectory p with
      | .ok true => .ok t
      | _ => .error (Fault.system code p.spell)

/-- Makes a new file for writing; nothing may be there. -/
def create (t : Tree) (p : Path) (mode : Nat) : Except SystemCode Unit × Tree :=
  match t.trouble with
  | (some code, t) => (.error code, t)
  | (none, t) =>
    match t.resolve p with
    | .error code => (.error code, t)
    | .ok l =>
      match t.node? l with
      | some _ => (.error .fileExists, t)
      | none => (.ok (), t.put l (.file mode []))

def fill (t : Tree) (p : Path) (content : Bytes) : Except SystemCode Unit × Tree :=
  match t.trouble with
  | (some code, t) => (.error code, t)
  | (none, t) =>
    match t.resolve p with
    | .error code => (.error code, t)
    | .ok l =>
      match t.node? l with
      | some (.file mode _) => (.ok (), t.put l (.file mode content))
      | some (.directory _) => (.error .isDirectory, t)
      | none => (.error .noEntry, t)

/-- Moves a file over whatever file is at the target. -/
def replace (t : Tree) (source target : Path) : Except SystemCode Unit × Tree :=
  match t.trouble with
  | (some code, t) => (.error code, t)
  | (none, t) =>
    match t.resolve source, t.resolve target with
    | .ok s, .ok d =>
      match t.node? s, t.node? d with
      | none, _ => (.error .noEntry, t)
      | some _, some (.directory _) => (.error .isDirectory, t)
      | some n, _ => (.ok (), (t.prune s).put d n)
    | .error code, _ => (.error code, t)
    | _, .error code => (.error code, t)

def unlink (t : Tree) (p : Path) : Except SystemCode Unit × Tree :=
  match t.trouble with
  | (some code, t) => (.error code, t)
  | (none, t) =>
    match t.resolve p with
    | .error code => (.error code, t)
    | .ok l =>
      match t.node? l with
      | none => (.error .noEntry, t)
      | some (.directory _) => (.error .isDirectory, t)
      | some (.file _ _) => (.ok (), t.prune l)

/-! ### Listing -/

def textBefore : Text → Text → Bool
  | [], _ => true
  | _ :: _, [] => false
  | a :: as, b :: bs => if a = b then textBefore as bs else decide (a.val < b.val)

def locationBefore : Location → Location → Bool
  | [], _ => true
  | _ :: _, [] => false
  | a :: as, b :: bs => if a = b then locationBefore as bs else textBefore a b

/-- The names in a directory that have an ending, in order; nothing where no directory is. -/
def namesEnding (t : Tree) (p : Path) (ending : Text) : List Text :=
  match t.resolve p with
  | .error _ => []
  | .ok l =>
    match t.node? l with
    | some (.directory _) =>
      ((t.names l).filter (Text.endsWith ending)).mergeSort textBefore
    | _ => []

def below (t : Tree) (l : Location) : List (Location × Node) :=
  ((t.nodes.filter fun n => l.isPrefixOf n.1 && n.1.length ≠ l.length).map fun n =>
    (n.1.drop l.length, n.2)).mergeSort fun a b => locationBefore a.1 b.1

/-- The places below a directory with their modes, in order; a slash ends those of directories. -/
def listing? (t : Tree) (p : Path) : Option (List (Text × Nat)) :=
  match t.resolve p, t.stat p with
  | .ok l, .ok (.directory _) =>
    some ((t.below l).map fun f =>
      (Text.join [Path.slash] f.1 ++ (if f.2.isDirectory then [Path.slash] else []), f.2.mode))
  | _, _ => none

/-! ### The world outside -/

/-- Writes a file as an editor would: the directories it is in are made, and a file that is there
keeps its mode. -/
def edit (t : Tree) (p : Path) (content : Bytes) : Except Fault Tree := do
  let t ← t.makeDirectories p.parent p.parts.length
  failing p do
    let l ← t.resolve p
    match t.node? l with
    | some (.directory _) => .error .isDirectory
    | some (.file mode _) => .ok (t.put l (.file mode content))
    | none => .ok (t.put l (.file 0o644 content))

end Tree

end CertKeeper
