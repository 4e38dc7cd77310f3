import Invalidation.Call
import Invalidation.Target

/-!
# Failures

Why an action could not be carried out, as a cause with the data that belongs to it, and the
text in which each cause is reported.

Source: `IllegalStateError` and `UnmappedEntityKindError`, and what the program's calls to its
libraries raise.
-/

set_option autoImplicit false

namespace Invalidation

inductive SinkKind where
  | recorder | watched | cluster
  deriving DecidableEq, Repr

inductive SinkAction where
  | recorded | recordedFor | clear | journal | join | nodes | broadcast
  deriving DecidableEq, Repr

inductive Failure where
  /-- A record or a setting was not valid. There is at least one fault. -/
  | invalid (first : Fault) (more : List Fault)
  /-- No route leads from the change and kind of a notification to a region. -/
  | unrouted (change : Option Change) (kind : Kind)
  /-- A command that must name a key names none. -/
  | keyless
  | notNotification (cls : RecordClass)
  | alreadyBound
  /-- A binder was stopped while it retained no detachments. -/
  | nothingRetained
  | refused (method : Method)
  | unreachable (node : String)
  /-- A journal was given a negative bound. -/
  | negativeBound
  | boundNotInteger
  /-- A journal was given a bound that does not fit into a word. -/
  | boundTooLarge
  /-- The name of a log level names the default line layout instead. -/
  | levelIsLayout
  /-- The name of a log level names the table of line layouts instead. -/
  | levelIsLayoutTable
  /-- Something was set that all records of a class share. -/
  | sharedField (cls : RecordClass) (field : String)
  /-- Something was set that follows from the fields of a record. -/
  | derivedField (cls : RecordClass) (field : String)
  /-- What refers to the records of a class was set. -/
  | referenced (cls : RecordClass)
  | notFields (found : RawKind)
  | notName (found : RawKind)
  | notClass (found : RawKind)
  | notWriter (found : RawKind)
  | noMembers (found : RawKind)
  /-- A value was looked for in a collection that cannot hold it. -/
  | misfit (cause : Misfit)
  /-- Two values have no order, the first and the second of these kinds. -/
  | unordered (left right : RawKind)
  /-- A value is no region; the text shows it. -/
  | notRegion (shown : String)
  | notIndex (found : RawKind)
  | indexTooLarge
  | notCount (found : RawKind)
  /-- Settings were given arguments without names. -/
  | unnamed (found : RawKind)
  /-- Settings were given themselves as an argument. -/
  | selfGiven
  /-- The beginning of the names of variables is no text, but something without a length. -/
  | noLength (found : RawKind)
  /-- The beginning of the names of variables cannot be put in front of the setting. -/
  | notJoined (setting : String)
  /-- The beginning of the names of variables has no letters. -/
  | noLetters (found : RawKind)
  | notNumber (found : RawKind)
  | notPath (found : RawKind)
  | notWords (found : RawKind)
  /-- A value was to be taken for a pair and has no members. -/
  | notPair (found : RawKind)
  | fewerThanTwo (count : Nat)
  | moreThanTwo
  | notSource (found : RawKind)
  /-- The target of a request is no text; the text shows it. -/
  | targetNotText (found : RawKind) (shown : String)
  | methodNotText (found : RawKind)
  /-- The target of a request is not well formed, or not served. -/
  | badTarget (defect : TargetDefect)
  | raised (text : String)
  /-- There is no binder, node or binding with the index. -/
  | outOfRange
  /-- The sink at hand does not offer the action. -/
  | unsupported (sink : SinkKind) (action : SinkAction)
  | tooDeep
  deriving DecidableEq, Repr

namespace Failure

def changeText (change : Option Change) : String := (change.map code).getD "None"

def message : Failure → String
  | invalid _ _ => "invalid value"
  | unrouted change kind =>
    "No cache route for " ++ changeText change ++ " notifications of kind '" ++ code kind ++ "'"
  | keyless => "command names no key"
  | notNotification cls => cls.name ++ " is no notification"
  | alreadyBound => "Cache refresh handlers are already bound"
  | nothingRetained => "No unbind actions retained; start(support_teardown=True) was not used"
  | refused method => code method ++ " failed"
  | unreachable node => node
  | negativeBound => "maxlen must be non-negative"
  | boundNotInteger => "an integer is required"
  | boundTooLarge => "a bound has to fit into a word"
  | levelIsLayout => "Unknown level: '%(levelname)s:%(name)s:%(message)s'"
  | levelIsLayoutTable => "log level names the table of line layouts"
  | sharedField cls field => field ++ " is the same for all records of " ++ cls.name
  | derivedField cls field => field ++ " follows from the fields of " ++ cls.name
  | referenced cls => "references to records of " ++ cls.name ++ " cannot be set"
  | notFields _ => "fields have to come from an object"
  | notName _ => "only a text can be a name"
  | notClass _ => "a value is no class of records"
  | notWriter _ => "a value cannot write records"
  | noMembers _ => "a value has no members"
  | misfit (.noText _) => "only a text can be a part of a text"
  | misfit (.noKey _) => "a list or an object cannot be a key"
  | unordered _ _ => "keys have no order"
  | notRegion shown => shown ++ " is no region"
  | notIndex _ => "an index has to be an integer"
  | indexTooLarge => "an index has to fit into a word"
  | notCount _ => "a count has to be an integer"
  | unnamed _ => "settings take arguments by name"
  | selfGiven => "settings cannot be an argument of themselves"
  | noLength _ => "the beginning of a name has to be a text"
  | notJoined setting => "no variable name for " ++ setting
  | noLetters _ => "the beginning of a name has no letters"
  | notNumber _ => "a limit has to be a number"
  | notPath _ => "only a text can name a file"
  | notWords _ => "the words of a command line have to be a list"
  | notPair _ => "a value has no members"
  | fewerThanTwo count =>
    "not enough values to unpack (expected 2, got " ++ toString count ++ ")"
  | moreThanTwo => "too many values to unpack (expected 2)"
  | notSource _ => "a value is no source of settings"
  | targetNotText _ shown => "request target is no text: " ++ shown
  | methodNotText _ => "request method is no text"
  | badTarget defect => defect.message
  | raised text => text
  | outOfRange => "no such index"
  | unsupported _ _ => "action not supported by this sink"
  | tooDeep => "handlers are nested too deep"

end Failure

end Invalidation
