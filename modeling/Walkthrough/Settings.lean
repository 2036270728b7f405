import Walkthrough.Toml.Document
import Walkthrough.Value.Pairs

/-!
Settings: how long a pause may last, what navigation waits for, how page functions are polled,
whether a failed step ends a run, and how log lines begin. They come from the environment, from a
TOML document and from defaults, in this order of precedence, each setting by itself.
-/
namespace Walkthrough

structure Settings where
  /-- The longest pause, in milliseconds. -/
  maxWaitMs : Int
  /-- What navigation waits for, unless an action says otherwise. -/
  waitUntil : String
  /-- How page functions are polled, unless an action says otherwise. -/
  polling : String
  /-- Whether a run ends at the first failed step. -/
  stopOnError : Bool
  /-- What log lines begin with. -/
  logPrefix : String
  deriving DecidableEq, Repr

inductive SettingsFault
  | infinitePause
  | undefinedPause
  | unreadablePause (text : String)
  | longPause (digits : Nat)
  | wrongPause (type : String)
  /-- A setting that is a text is given a value with an integer too great to be written out. -/
  | unwritableText
  | noTable (type : String)
  | notEntries (fault : NotEntries)
  | document (fault : Toml.Fault)
  deriving DecidableEq, Repr

/-- The report of a settings fault; a text is quoted up to two hundred characters. -/
def SettingsFault.message : SettingsFault → String
  | .infinitePause => "cannot convert float infinity to integer"
  | .undefinedPause => "cannot convert float NaN to integer"
  | .unreadablePause text =>
    "invalid literal for int() with base 10: " ++
      String.ofList ((Text.quoted text).toList.take 200)
  | .longPause digits => Number.tooLongMessage digits
  | .wrongPause type =>
    s!"int() argument must be a string, a bytes-like object or a real number, not '{type}'"
  | .unwritableText => Number.tooGreatMessage
  | .noTable type => s!"'{type}' object is not a mapping"
  | .notEntries f => f.message
  | .document f => f.message

namespace Settings

/-- What holds where nothing is set. -/
def standard : Settings := ⟨30000, "networkidle2", "raf", true, "ActionExecutor"⟩

def toEntries (s : Settings) : Entries := [
  ("max_wait_ms", .int s.maxWaitMs),
  ("default_wait_until", .text s.waitUntil),
  ("default_polling", .text s.polling),
  ("stop_on_error", .bool s.stopOnError),
  ("log_prefix", .text s.logPrefix)]

/-- A value as a number of milliseconds; a fraction is cut off. -/
def readPause : Value → Except SettingsFault Int
  | .int n => .ok n
  | .bool b => .ok (if b then 1 else 0)
  | .float x =>
    match Number.Binary64.ofFloat x with
    | .nan => .error .undefinedPause
    | .infinite _ => .error .infinitePause
    | .finite .. => .ok (Number.Binary64.truncate x)
  | .text s =>
    match Number.readInteger s.toList with
    | .ok n => .ok n
    | .error .malformed => .error (.unreadablePause s)
    | .error (.tooLong digits) => .error (.longPause digits)
  | v => .error (.wrongPause v.typeName)

/-- Whether the text of a value is one of the words for yes, in any case. -/
def readSwitch (v : Value) : Bool :=
  ["true", "1", "yes"].contains (Number.lowerWord v.display.toList)

def textKeys : List String :=
  ["default_wait_until", "default_polling", "stop_on_error", "log_prefix"]

/-- Settings from entries; those that have none keep their standard value. -/
def ofEntries (es : Entries) : Except SettingsFault Settings :=
  let given := standard.toEntries.merge es
  let get (key : String) : Value := given.getD key
  match readPause (get "max_wait_ms") with
  | .error e => .error e
  | .ok maxWaitMs =>
    if textKeys.all fun key => (get key).isWritable then
      .ok {
        maxWaitMs
        waitUntil := (get "default_wait_until").display
        polling := (get "default_polling").display
        stopOnError := readSwitch (get "stop_on_error")
        logPrefix := (get "log_prefix").display }
    else .error .unwritableText

def ofValue (v : Value) : Except SettingsFault Settings :=
  match v.toEntries with
  | .error e => .error (.notEntries e)
  | .ok es => ofEntries es

/-- What the names of variables that hold settings begin with. -/
def variablePrefix : String := "ACTION_ENGINE_"

/-- The key that a variable sets: what follows the beginning of its name, in lower case. -/
def variableKey? (name : String) : Option String :=
  if variablePrefix.toList.isPrefixOf name.toList then
    some (Number.lowerWord (name.toList.drop variablePrefix.length))
  else none

/-- The entries that an environment sets; of several variables for a key the last one counts. -/
def ofEnvironment (env : List (String × String)) : Entries :=
  Entries.merge [] (env.filterMap fun (name, value) =>
    (variableKey? name).map fun key => (key, .text value))

/-- The entries that a TOML document sets: its `engine` table. -/
def ofDocument (text : String) : Except SettingsFault Entries :=
  match Toml.read text.toList with
  | .error f => .error (.document f)
  | .ok root =>
    match Entries.get? root "engine" with
    | none => .ok []
    | some (.object es) => .ok es
    | some v => .error (.noTable v.typeName)

/-- Settings from an environment and, where it sets nothing, from a document. -/
def load (document : Option String) (env : List (String × String)) :
    Except SettingsFault Settings :=
  match document with
  | none => ofEntries (ofEnvironment env)
  | some text =>
    match ofDocument text with
    | .error e => .error e
    | .ok es => ofEntries (es.merge (ofEnvironment env))

end Settings

end Walkthrough
