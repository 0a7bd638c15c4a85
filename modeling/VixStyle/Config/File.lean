/-
Settings files. A dedicated file holds settings at its top level or in the table `vixlint`; a file that several tools
share holds them in the table `tool.vixlint`. What is wrong with the file is a fault that names the file, with these
exceptions that a reader of the file cannot tell from its own errors: a path that does not get as far as the disk, text
that is not UTF-8, a value beyond a limit, and a `tool` that is no table, met while the settings are read or while they
are searched for.
-/
import VixStyle.Config.Mapping
import VixStyle.FileTree
import VixStyle.Text.Search
import VixStyle.Toml.Reader

namespace VixStyle.Config

open Setting

/-- the name of a file that holds nothing but settings -/
def dedicatedName : String := "vixlint.toml"

/-- the name of a file that tools share -/
def sharedName : String := "pyproject.toml"

/-- the key of the table with the settings -/
def settingsKey : String := "vixlint"

/-- the key of the table with the tables of all tools -/
def toolKey : String := "tool"

/-- what is wrong with a settings file -/
inductive ConfigFault where
  | unreadable (file : Path) (fault : FileFault)
  | malformed (file : Path)
  | noTable (file : Path)
  | setting (file : Path) (fault : SettingFault)
  | undecodable (fault : Text.Utf8Fault)
  | limit (l : Limit)
  | nulInPath
  | tooLong (file : Path)
  | toolWithoutMembers
  | toolWithoutKeys

namespace ConfigFault

/-- whether the fault is one of the settings, which names their file -/
def namesFile : ConfigFault → Bool
  | unreadable .. | malformed .. | noTable .. | setting .. => true
  | undecodable .. | limit .. | nulInPath | tooLong .. | toolWithoutMembers | toolWithoutKeys => false

/-- whether a command reports the fault and ends in order -/
def isReported : ConfigFault → Bool
  | tooLong .. | toolWithoutMembers | toolWithoutKeys => false
  | limit l => l.ofNumber
  | _ => true

def message : ConfigFault → String
  | unreadable file fault => s!"{file.toText}: cannot read configuration: {fault.reason}"
  | malformed file => s!"{file.toText}: invalid TOML: malformed document"
  | noTable file => s!"{file.toText}: vixlint settings must be a table"
  | setting file fault => s!"{file.toText}: {fault.message}"
  | undecodable fault => fault.message
  | limit l => l.message
  | nulInPath => nulMessage
  | tooLong file => FileFault.nameTooLong.message file
  | toolWithoutMembers => "the tool entry has no members"
  | toolWithoutKeys => "the tool entry has no keys"

end ConfigFault

/-- the document in a file -/
def readDocument [Machine] (t : FileTree) (file : Path) : Except ConfigFault Table :=
  match t.readUtf8 file with
  | .error .nulInPath => .error .nulInPath
  | .error (.disk fault) => .error (.unreadable file fault)
  | .error (.undecodable fault) => .error (.undecodable fault)
  | .ok text =>
    match Toml.read text with
    | .error .malformed => .error (.malformed file)
    | .error (.limit l) => .error (.limit l)
    | .ok document => .ok document

/-- the value that should be the table of settings in a document of the name `name` -/
def settingsValue (name : String) (document : Table) : Except ConfigFault Value :=
  if name = sharedName then
    match document.lookup toolKey with
    | none => .ok (.table [])
    | some (.table tools) => .ok ((tools.lookup settingsKey).getD (.table []))
    | some _ => .error .toolWithoutMembers
  else .ok ((document.lookup settingsKey).getD (.table document))

/-- the table of settings in a file -/
def readSettings [Machine] (t : FileTree) (file : Path) : Except ConfigFault Table := do
  match ← settingsValue file.name (← readDocument t file) with
  | .table settings => return settings
  | _ => throw (.noTable file)

/-- the options that a file gives -/
def readOptions [Machine] (t : FileTree) (file : Path) : Except ConfigFault Options := do
  (optionsOf (← readSettings t file)).mapError fun fault =>
    match fault with
    | .limit l => .limit l
    | fault => .setting file fault

/--
whether the tools of a document have an entry for the settings: a key of a table, an item of a list or a part of a text
-/
def mentionsSettings (document : Table) : Except ConfigFault Bool :=
  match document.lookup toolKey with
  | none => .ok false
  | some (.table tools) => .ok (tools.lookup settingsKey).isSome
  | some (.list tools) => .ok (tools.any fun tool => tool.text? == some settingsKey)
  | some (.text tools) => .ok (Text.occursIn settingsKey.toList tools.toList)
  | some _ => .error .toolWithoutKeys

end VixStyle.Config
