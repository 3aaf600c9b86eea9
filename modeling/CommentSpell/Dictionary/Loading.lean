import CommentSpell.Dictionary.BuiltIn
import CommentSpell.Dictionary.Ranked
import CommentSpell.Dictionary.WordList

/-!
# Loading dictionaries

A dictionary comes from an affix file and a word list, or from the word list that the search engine
brings for a language.  The engine is a part of the host that may be missing, and the words of its
own lists are data of the host: a dictionary for a language is loaded here without words.

Both files are read before the engine is asked for; for a language the engine comes first.
-/

namespace CommentSpell

/-- What a session needs of the machine it runs on. -/
structure Host where
  files : FileStore := ∅
  engineInstalled : Bool := true
deriving DecidableEq

/-- The two files of a dictionary. -/
inductive FileRole where
  | affix
  | wordList
deriving DecidableEq

namespace FileRole

/-- `role.name` is the name of the file in messages. -/
def name : FileRole → String
  | affix => "affix file"
  | wordList => "word list"

end FileRole

/-- Why a dictionary could not be loaded. -/
inductive LoadError where
  /-- There is no file at the path. -/
  | missing (role : FileRole) (path : Path)
  /-- What is at the path could not be read. -/
  | unreadable (role : FileRole) (path : Path) (fault : ReadFault)
  /-- The path holds the character of code zero, which no path of the host can have. -/
  | zeroInPath
  /-- The word list has no entries. -/
  | noWords (path : Path)
  /-- The search engine is not installed. -/
  | engineMissing
  /-- The engine has no word list for the language. -/
  | unknownLanguage (language : Text)
  /-- The name of the language holds the character of code zero. -/
  | zeroInLanguage (language : Text)
  /-- A loader of the host failed for a reason of its own. -/
  | hostFailure (reason : String)
deriving DecidableEq

namespace LoadError

/-- `failure.message` is the wording of `failure`. -/
def message : LoadError → String
  | missing role path => s!"Missing {role.name}: {path.shown}"
  | unreadable role path fault => s!"Unreadable {role.name} {path.shown}: {fault.message path}"
  | zeroInPath => "embedded null byte"
  | noWords path => s!"Word list {path.shown} contains no words"
  | engineMissing => "pyspellchecker is not installed; install it with `pip install pyspellchecker`"
  | unknownLanguage language =>
    let shown := String.ofList (Text.quoted language)
    let small := String.ofList (Text.lower language)
    s!"Cannot load built-in dictionary for {shown}: The provided dictionary language ({small}) does not exist!"
  | zeroInLanguage language =>
    let shown := String.ofList (Text.quoted language)
    s!"Cannot load built-in dictionary for {shown}: embedded null byte"
  | hostFailure reason => reason

end LoadError

/-! ### Sources -/

/-- Where the words of a dictionary come from. -/
inductive DictionarySource where
  | files (affix words : Path) (locale : Option Text)
  | language (language : Option Text)
deriving DecidableEq

namespace Host

/-- `host.writeFiles nodes` writes `nodes` among the files of `host`, up to the first that cannot be
written. -/
def writeFiles (host : Host) (nodes : List (Path × FileNode)) : Except WriteFault Unit × Host :=
  let (result, files) := host.files.writeAll nodes
  (result, { host with files })

/-- `host.readFile role path` is the text of the file at `path`, which is the `role` file of a
dictionary. -/
def readFile (host : Host) (role : FileRole) (path : Path) : Except LoadError Text :=
  if path.toText.elem '\x00' then .error .zeroInPath
  else
    match host.files.readText path with
    | .ok text => .ok text
    | .error .notFound => .error (.missing role path)
    | .error fault => .error (.unreadable role path fault)

/-- `host.requireEngine` fails if the engine is not installed. -/
def requireEngine (host : Host) : Except LoadError Unit :=
  if host.engineInstalled then .ok () else .error .engineMissing

/-- `host.loadRanked source reach maxSuggestions` is the dictionary of `source`, which searches within
`reach` and suggests up to `maxSuggestions` words. -/
def loadRanked (host : Host) (source : DictionarySource) (reach : Reach)
    (maxSuggestions : Option Int) : Except LoadError RankedDictionary :=
  match source with
  | .files affix words locale => do
    let affixText ← host.readFile .affix affix
    let content ← host.readFile .wordList words
    match WordList.parse content with
    | [] => .error (.noWords words)
    | entries => do
      host.requireEngine
      return { table := (∅ : WordTable).load entries, reach, locale, affixText, maxSuggestions }
  | .language language => do
    host.requireEngine
    match language with
    | some (c :: rest) =>
      if (c :: rest).elem '\x00' then .error (.zeroInLanguage (c :: rest))
      else if BuiltIn.isKnown (c :: rest) then
        return { table := ∅, reach, locale := language, maxSuggestions }
      else .error (.unknownLanguage (c :: rest))
    | _ => return { table := ∅, reach, locale := language, maxSuggestions }

end Host

end CommentSpell
