import CommentSpell.Host.FileStore
import CommentSpell.Text.Lowercase

/-!
# Built-in word lists

The search engine brings word lists for twelve languages, each a file in one folder of the engine.  A
language is named by the path of its file, seen from that folder, in any case and without the ending
of the file name.  Mostly that path is one step, as in `eu`, but steps that lead nowhere or out of the
folder and back are followed too, so `./eu` is the same language.
-/

namespace CommentSpell

namespace BuiltIn

/-- The languages that have a word list, by the shortest of their names. -/
def languages : List Text :=
  ["ar", "de", "en", "es", "eu", "fa", "fr", "it", "lv", "nl", "pt", "ru"].map String.toList

/-- The steps to the folder of the word lists, from the folder in which the engine is installed. -/
def folder : List Text :=
  ["spellchecker", "resources"].map String.toList

/-- The ending of the file names. -/
def ending : Text :=
  ".json.gz".toList

/-- The files of the engine that hold word lists, with the folders on the way to them.  Their words are
data of the host and not kept here. -/
def files : FileStore :=
  ⟨(folder.take 1, .directory) :: (folder, .directory)
    :: languages.map fun language => (folder ++ [language ++ ending], .file [])⟩

/-- `path language` is the path at which the word list of `language` would be. -/
def path (language : Text) : Path where
  root := []
  steps := folder ++ (Path.ofText (Text.lower language ++ ending)).steps

/-- `isKnown language` iff there is a word list for `language`. -/
def isKnown (language : Text) : Bool :=
  match files.find (path language) with
  | .ok (.file _) => true
  | _ => false

end BuiltIn

end CommentSpell
