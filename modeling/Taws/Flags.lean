import Taws.Text

/-!
# Flags

The flags of a command, as the package `flag` of Go parses them: `-name=value` or `-name value`, with one dash or
with two, up to `--` or to the first argument that is no flag.  Every flag here takes a value.

* `Flag` — the name of a flag, and what its value does to the options of the command.
* `argument` — what an argument is by its spelling.
* `parse` — the options, and the arguments that are left.
* `parse_settings` — settings are taken in their order.
-/

namespace Taws.Flags

structure Flag (σ : Type) where
  name : Bytes
  /-- `none` where the value is refused. -/
  set : Bytes → σ → Option σ

inductive FlagError where
  | badSyntax (arg : Bytes)
  | notDefined (name : Bytes)
  | help
  | needsArgument (name : Bytes)
  | invalidValue (name value : Bytes)
  deriving DecidableEq

inductive Argument where
  | operand
  | terminator
  | bad
  | flag (name : Bytes) (value : Option Bytes)
  deriving DecidableEq

/-- What stands before and after the first `'='`. -/
def splitValue : Bytes → Bytes × Option Bytes
  | [] => ([], none)
  | byte :: text => if byte = 0x3d then ([], some text) else (byte :: (splitValue text).1, (splitValue text).2)

/-- What stands behind the dashes; an `'='` at its beginning does not separate a value. -/
def named : Bytes → Argument
  | [] => .bad
  | first :: text =>
    if first = 0x2d ∨ first = 0x3d then .bad else .flag (first :: (splitValue text).1) (splitValue text).2

def argument : Bytes → Argument
  | [0x2d, 0x2d] => .terminator
  | 0x2d :: 0x2d :: name => named name
  | 0x2d :: first :: name => named (first :: name)
  | _ => .operand

variable {σ : Type}

def lookup (flags : List (Flag σ)) (name : Bytes) : Option (Flag σ) := flags.find? fun flag => flag.name = name

/-- The flag of this name gets its value. -/
def assign (flags : List (Flag σ)) (name value : Bytes) (options : σ) : Option σ :=
  (lookup flags name).bind fun flag => flag.set value options

/-- `"help"` and `"h"` -/
def helpNames : List Bytes := [[0x68, 0x65, 0x6c, 0x70], [0x68]]

def notDefined (name : Bytes) : FlagError := if name ∈ helpNames then .help else .notDefined name

def parse (flags : List (Flag σ)) : List Bytes → σ → Except FlagError (σ × List Bytes)
  | [], options => .ok (options, [])
  | arg :: args, options =>
    match argument arg with
    | .operand => .ok (options, arg :: args)
    | .terminator => .ok (options, args)
    | .bad => .error (.badSyntax arg)
    | .flag name (some value) =>
      match lookup flags name with
      | none => .error (notDefined name)
      | some flag =>
        match flag.set value options with
        | none => .error (.invalidValue name value)
        | some options => parse flags args options
    | .flag name none =>
      match lookup flags name with
      | none => .error (notDefined name)
      | some flag =>
        match args with
        | [] => .error (.needsArgument name)
        | value :: args =>
          match flag.set value options with
          | none => .error (.invalidValue name value)
          | some options => parse flags args options

/-! ## Settings -/

/-- `--name=value` -/
def setting (name value : Bytes) : Bytes := 0x2d :: 0x2d :: (name ++ 0x3d :: value)

/-- The arguments for settings. -/
def render (settings : List (Bytes × Bytes)) : List Bytes := settings.map fun pair => setting pair.1 pair.2

/-- A name that can be told from what stands around it. -/
structure Spelled (name : Bytes) : Prop where
  notEmpty : name ≠ []
  noDash : name.head? ≠ some 0x2d
  noEquals : 0x3d ∉ name

instance (name : Bytes) : Decidable (Spelled name) :=
  decidable_of_iff (name ≠ [] ∧ name.head? ≠ some 0x2d ∧ 0x3d ∉ name)
    ⟨fun ⟨notEmpty, noDash, noEquals⟩ => ⟨notEmpty, noDash, noEquals⟩,
      fun ⟨notEmpty, noDash, noEquals⟩ => ⟨notEmpty, noDash, noEquals⟩⟩

theorem splitValue_append {name : Bytes} (noEquals : 0x3d ∉ name) (value : Bytes) :
    splitValue (name ++ 0x3d :: value) = (name, some value) := by
  induction name with
  | nil => rfl
  | cons byte name inductionHypothesis =>
    rw [List.mem_cons, not_or] at noEquals
    rw [List.cons_append, splitValue, if_neg (Ne.symm noEquals.1), inductionHypothesis noEquals.2]

theorem argument_setting {name : Bytes} (spelled : Spelled name) (value : Bytes) :
    argument (setting name value) = .flag name (some value) := by
  obtain ⟨notEmpty, noDash, noEquals⟩ := spelled
  cases name with
  | nil => exact absurd rfl notEmpty
  | cons first name =>
    rw [List.mem_cons, not_or] at noEquals
    have isNamed : argument (setting (first :: name) value) = named (first :: (name ++ 0x3d :: value)) := rfl
    have separates : ¬ (first = 0x2d ∨ first = 0x3d) := by
      rintro (isDash | isEquals)
      · exact noDash (congrArg some isDash)
      · exact noEquals.1 isEquals.symm
    rw [isNamed, named, if_neg separates, splitValue_append noEquals.2]

theorem parse_setting {flags : List (Flag σ)} {name value : Bytes} {options next : σ} (spelled : Spelled name)
    (assigned : assign flags name value options = some next) (args : List Bytes) :
    parse flags (setting name value :: args) options = parse flags args next := by
  obtain ⟨flag, isFlag, isSet⟩ := Option.bind_eq_some_iff.mp assigned
  rw [parse, argument_setting spelled]
  simp only [isFlag, isSet]

/-- Settings are taken in their order, so that the last one for a flag is the one that counts. -/
theorem parse_settings {flags : List (Flag σ)} {settings : List (Bytes × Bytes)} {options last : σ}
    (spelled : ∀ name ∈ settings.map Prod.fst, Spelled name)
    (assigned : settings.foldlM (fun options pair => assign flags pair.1 pair.2 options) options = some last)
    (args : List Bytes) :
    parse flags (render settings ++ args) options = parse flags args last := by
  induction settings generalizing options with
  | nil =>
    cases assigned
    rfl
  | cons pair settings inductionHypothesis =>
    rw [List.map_cons, List.forall_mem_cons] at spelled
    obtain ⟨next, first, later⟩ := Option.bind_eq_some_iff.mp assigned
    rw [render, List.map_cons, List.cons_append, parse_setting spelled.1 first]
    exact inductionHypothesis spelled.2 later

/-- `--` -/
def terminator : Bytes := [0x2d, 0x2d]

theorem parse_terminator (flags : List (Flag σ)) (args : List Bytes) (options : σ) :
    parse flags (terminator :: args) options = .ok (options, args) := rfl

end Taws.Flags
