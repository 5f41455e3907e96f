/-
# The command line

What a node is started with: flags in any order, each with one value.  `--id=2`, `--id 2`,
`-i2`, `-i=2` and `-i 2` say the same.  A value is looked at when the next flag begins or the
line ends: **a word that is no flag is told before the value in front of it that does not
read**, and that value before a call for help.  What the line leaves out the environment may
say, and after it the defaults.
-/

import Replica.Settings

namespace Replica.Launch

/-- What a value can be given for. -/
inductive Flag where
  | node
  | directory
  | address
  | peers
  | savePause
deriving DecidableEq, Repr

/-- Why a command line is not taken. -/
inductive Refusal where
  /-- It asks for help. -/
  | help
  /-- A word that is no flag where none waits for a value. -/
  | unknown
  /-- A flag without its value, or a directory without a name. -/
  | noValue
  /-- A value that does not read. -/
  | badValue
  /-- A value for the call for help. -/
  | needlessValue
  /-- A flag that is there twice. -/
  | repeated
  /-- A flag that has to be there and is not. -/
  | missing
deriving DecidableEq, Repr

/-- The status with which a program ends that does not take its command line. -/
def Refusal.exitCode : Refusal → Nat
  | .help => 0
  | _ => 2

/-- What a node is started with. -/
structure Options where
  node : UInt32
  directory : String
  address : String
  peers : List String
  /-- The seconds from one snapshot to the next. -/
  savePause : Nat
deriving DecidableEq, Repr

/-- The settings of the node that is started. -/
def Options.settings (o : Options) : Settings :=
  { node := o.node, directory := o.directory, peers := o.peers }

/-! ## Words -/

/-- What a name on the line stands for. -/
inductive Named where
  | flag (flag : Flag)
  | help
deriving DecidableEq, Repr

def Named.ofText? : String → Option Named
  | "id" => some (.flag .node)
  | "data-dir" => some (.flag .directory)
  | "addr" => some (.flag .address)
  | "peers" => some (.flag .peers)
  | "persist-interval" => some (.flag .savePause)
  | "help" => some .help
  | _ => none

def Named.ofLetter? : Char → Option Named
  | 'i' => some (.flag .node)
  | 'd' => some (.flag .directory)
  | 'a' => some (.flag .address)
  | 'p' => some (.flag .peers)
  | 'h' => some .help
  | _ => none

/-- One word of the line. -/
inductive Word where
  /-- No name: a value, if one is waited for. -/
  | plain (text : String)
  /-- What a name stands for, and the value that is attached to it. -/
  | name (named : Option Named) (value : Option String)
  /-- Two dashes and no name: all words behind them are plain. -/
  | divider
deriving DecidableEq, Repr

/-- Behind a letter the value needs no sign; the call for help takes none. -/
def Word.ofLetter (c : Char) (rest : List Char) : Word :=
  match Named.ofLetter? c, rest with
  | some .help, _ => .name (some .help) none
  | named, [] => .name named none
  | named, '=' :: value => .name named (some (String.ofList value))
  | named, value => .name named (some (String.ofList value))

def Word.ofText (s : String) : Word :=
  match s.toList with
  | ['-', '-'] => .divider
  | '-' :: '-' :: rest =>
    let name := rest.takeWhile (· ≠ '=')
    .name (Named.ofText? (String.ofList name)) (match rest.drop name.length with
      | [] => none
      | _ :: value => some (String.ofList value))
  | '-' :: c :: rest => .ofLetter c rest
  | _ => .plain s

/-! ## Values -/

/-- The values that have been given. -/
structure Given where
  node : Option UInt32 := none
  directory : Option String := none
  address : Option String := none
  peers : Option String := none
  savePause : Option Nat := none
deriving DecidableEq, Repr

namespace Given

def has (g : Given) : Flag → Bool
  | .node => g.node.isSome
  | .directory => g.directory.isSome
  | .address => g.address.isSome
  | .peers => g.peers.isSome
  | .savePause => g.savePause.isSome

/-- Reads a value.  A node number may have a sign, a minus before zero too. -/
def put (g : Given) (value : String) : Flag → Except Refusal Given
  | .node =>
    match Text.Decimal.readInt Text.Decimal.greatestInt64 value.toList with
    | .ok n =>
      if 0 ≤ n && n ≤ Text.Decimal.greatestWord32 then
        .ok { g with node := some (UInt32.ofNat n.toNat) }
      else .error .badValue
    | .error _ => .error .badValue
  | .directory =>
    if value.isEmpty then .error .noValue else .ok { g with directory := some value }
  | .address => .ok { g with address := some value }
  | .peers => .ok { g with peers := some value }
  | .savePause =>
    match Text.Decimal.readNat Text.Decimal.greatestWord64 value.toList with
    | .ok n => .ok { g with savePause := some n }
    | .error _ => .error .badValue

/-- **A value that reads is there.** -/
theorem has_of_put {g g' : Given} {value : String} {flag : Flag}
    (h : g.put value flag = .ok g') : g'.has flag = true := by
  cases flag
  · simp only [put] at h
    split at h
    · split at h
      · cases h
        rfl
      · cases h
    · cases h
  · simp only [put] at h
    split at h
    · cases h
    · cases h
      rfl
  · cases h
    rfl
  · cases h
    rfl
  · simp only [put] at h
    split at h
    · cases h
      rfl
    · cases h

/-- Reads the value of a flag that may be there only once. -/
def putOnce (g : Given) (value : String) (flag : Flag) : Except Refusal Given :=
  if g.has flag then .error .repeated else g.put value flag

/-- **No flag is taken twice.** -/
theorem putOnce_of_has {g : Given} {value : String} {flag : Flag} (h : g.has flag = true) :
    g.putOnce value flag = .error .repeated := by
  simp [putOnce, h]

/-- Reads the value that the environment has for a flag that is not there. -/
def fill (g : Given) (flag : Flag) : Option String → Except Refusal Given
  | some value => if g.has flag then .ok g else g.put value flag
  | none => .ok g

end Given

/-! ## Lines -/

/-- A line as far as it has been read. -/
structure Line where
  given : Given := {}
  /-- The last flag with its value, which may still have to come. -/
  pending : Option (Flag × Option String) := none
deriving DecidableEq, Repr

namespace Line

/-- Looks at the value of the last flag. -/
def settle (l : Line) : Except Refusal Given :=
  match l.pending with
  | none => .ok l.given
  | some (_, none) => .error .noValue
  | some (flag, some value) => l.given.putOnce value flag

def step (l : Line) : Word → Except Refusal Line
  | .plain text =>
    match l.pending with
    | some (flag, none) => .ok { l with pending := some (flag, some text) }
    | _ => .error .unknown
  | .name none _ => .error .unknown
  | .name (some .help) (some _) => .error .needlessValue
  | .name (some .help) none => do
    let _ ← l.settle
    throw .help
  | .name (some (.flag flag)) (some value) => do
    return { given := ← (← l.settle).putOnce value flag }
  | .name (some (.flag flag)) none => do
    return { given := ← l.settle, pending := some (flag, none) }
  | .divider => .ok l

/-- Reads the words of a line.  There is no place for a word behind a divider. -/
def read : Line → List String → Except Refusal Given
  | l, [] => l.settle
  | l, s :: rest =>
    match Word.ofText s with
    | .divider => if rest.isEmpty then l.settle else .error .unknown
    | w => do read (← l.step w) rest

end Line

/-- Reads a command line. -/
def Options.read (line : List String) (env : Environment) : Except Refusal Options := do
  let g ← Line.read {} line
  let g ← g.fill .node env.node
  let g ← g.fill .directory env.directory
  let g ← g.fill .peers env.peers
  match g.node, g.address with
  | some node, some address =>
    return {
      node, address
      directory := g.directory.getD ({} : Settings).directory
      peers := parsePeers (g.peers.getD "")
      savePause := g.savePause.getD 10 }
  | _, _ => throw .missing

/-- What the line may hold. -/
def usage : String := "\n".intercalate [
  "Usage: replica [OPTIONS] --id <ID> --addr <ADDR>",
  "",
  "Options:",
  "  -i, --id <ID>               the number of the node, below 1000 (or "
    ++ Environment.nodeVariable ++ ")",
  "  -d, --data-dir <DIR>        where its files are (or " ++ Environment.directoryVariable ++ ")",
  "  -a, --addr <ADDR>           the address at which it serves, such as 127.0.0.1:7001",
  "  -p, --peers <PEERS>         the addresses of its peers, with commas (or "
    ++ Environment.peersVariable ++ ")",
  "      --persist-interval <S>  the seconds from one snapshot to the next",
  "  -h, --help                  shows this"]

end Replica.Launch
