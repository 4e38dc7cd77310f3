import Invalidation.Failure
import Invalidation.Settings.Environment

/-!
# Sources of settings

Settings come from sources: the arguments, the environment, files, a directory of secrets and a
command line. Options say where the sources are and how they are asked. No source but arguments and
environment has anything to say here, so their options only have to make sense. First everything
that a source is built from is checked, then what is needed to ask it, in the order of the sources.
A pair may also stand for all sources, the first part of which holds them: none of them leaves each
setting to its default, and a value is no source that can be asked.

Source: the arguments that `BinderSettings` has from `BaseSettings`. What files, directories and
command lines hold is not modelled.
-/

set_option autoImplicit false

namespace Invalidation

inductive SourceOption where
  /-- What the names of variables begin with. -/
  | beginning
  /-- Which names begin so. -/
  | beginningUse
  /-- Whether letter case matters in the names of variables. -/
  | exactCase
  /-- Whether a variable with an empty text counts as absent. -/
  | skipsEmpty
  /-- The text that stands for `null`. -/
  | nullText
  /-- Up to how many parts a name may be split. -/
  | splitLimit
  | files
  | secrets
  /-- The words of a command line. -/
  | words
  /-- Sources in the place of all others. -/
  | instead
  deriving DecidableEq, Repr

/-- Where settings come from besides the arguments. -/
inductive Sources where
  /-- From variables of the environment that are looked for so. -/
  | environment (lookup : Lookup)
  /-- From nowhere, and arguments do not count either. -/
  | nowhere
  deriving DecidableEq, Repr

namespace Sources

def ensureLimit (raw : Raw) : Except Failure Unit :=
  match raw with
  | .text _ | .list _ | .object _ =>
    if raw.truthy then .error (.notNumber raw.kind) else .ok ()
  | _ => .ok ()

def ensureLength : Raw → Except Failure Unit
  | .null | .text _ | .list _ | .object _ => .ok ()
  | value => .error (.noLength value.kind)

/-- The first value of a list that is no text, by its kind. -/
def noText? (values : List Raw) : Option RawKind :=
  (values.map Raw.kind).find? (· != .text)

/-- Files and directories are named by a text or by the members of a collection. -/
def ensurePaths : Raw → Except Failure Unit
  | .null | .text _ => .ok ()
  | value =>
    match value.collection? with
    | .ok paths =>
      match noText? paths.members with
      | some found => .error (.notPath found)
      | none => .ok ()
    | .error found => .error (.noMembers found)

/-- The words of a command line are a list, and a truth value or a zero says whether there are any
to look at. -/
def ensureWords : Raw → Except Failure Unit
  | .null | .bool _ | .list _ | .minusZero => .ok ()
  | value => if value.number? = some 0 then .ok () else .error (.notWords value.kind)

/-- Whether the names of variables have a beginning, where that is said. -/
def usesBeginning : Raw → Bool
  | .null | .text "variable" | .text "all" => true
  | _ => false

/-- What the names of variables begin with. A value that names cannot begin with is met where the
variable of the first setting is looked for, or where letter case is taken out of it. -/
def beginning (firstSetting : String) (isUsed exactCase : Bool) (raw : Raw) :
    Except Failure String :=
  match raw, isUsed with
  | .null, true => .ok Lookup.standard.beginning
  | .text value, true => .ok value
  | _, true => .error (.notJoined firstSetting)
  | .list _, false | .object _, false =>
    if exactCase then .ok "" else .error (.noLetters raw.kind)
  | _, false => .ok ""

/-- Sources as the options say; what they leave out or say `null` about is as usual. -/
def usual (firstSetting : String) (option : SourceOption → Raw) : Except Failure Sources := do
  ensureLimit (option .splitLimit)
  ensureLength (option .beginning)
  ensurePaths (option .files)
  ensureWords (option .words)
  let exactCase := (option .exactCase).truthy
  let beginning ← beginning firstSetting (usesBeginning (option .beginningUse)) exactCase
    (option .beginning)
  ensurePaths (option .secrets)
  return .environment
    { beginning := beginning
      exactCase := exactCase
      skipsEmpty := (option .skipsEmpty).truthy
      nullText := match option .nullText with
        | .text value => some value
        | _ => none }

/-- Asks the sources that the first part of a pair holds. -/
def ask (sources : Raw) : Except Failure Sources :=
  if !sources.truthy then .ok .nowhere
  else
    match sources.collection? with
    | .ok sources =>
      match sources.members with
      | source :: _ => .error (.notSource source.kind)
      | [] => .ok .nowhere
    | .error found => .error (.noMembers found)

def instead (pair : Raw) : Except Failure Sources :=
  match pair.collection? with
  | .ok pair =>
    match pair.members with
    | [sources, _] => ask sources
    | _ :: _ :: _ => .error .moreThanTwo
    | members => .error (.fewerThanTwo members.length)
  | .error found => .error (.notPair found)

def ofOptions (firstSetting : String) (options : List (SourceOption × Raw)) :
    Except Failure Sources :=
  let option (o : SourceOption) : Raw := (options.lookup o).getD .null
  match option .instead with
  | .null => usual firstSetting option
  | pair => instead pair

end Sources

end Invalidation
