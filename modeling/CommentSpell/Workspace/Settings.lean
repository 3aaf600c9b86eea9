import CommentSpell.Dictionary.OnDemand
import CommentSpell.Report.Diagnostic
import CommentSpell.Source.Document

/-!
# Settings

The settings of a session, checked when they are made: the two files of a dictionary are given
together or not at all, words of at least one letter are checked, the number of suggestions is not
negative, and the search goes one or two edits far.  `Options` holds the values as they are given, and
`Settings.ofOptions` checks them, the names of enumerations first.
-/

namespace CommentSpell

/-- The values from which settings are made. -/
structure Options where
  language : Option Text := some "en".toList
  locale : Option Text := some "en_US".toList
  affixPath : Option Text := none
  dictionaryPath : Option Text := none
  editDistance : Literal := .int 2
  minWordLength : Literal := .int 3
  /-- The number of suggestions; there is no limit if it is absent. -/
  maxSuggestions : Literal := .absent
  /-- The name of the severity. -/
  severity : Option Literal := none
  /-- A value that stands in place of the severity without being read as a name. -/
  severityValue : Option Literal := none
  /-- The names of the kinds. -/
  supportedKinds : Option (List Literal) := none
deriving DecidableEq

/-- Why values do not make settings. -/
inductive SettingsError where
  /-- A name does not belong to its enumeration, for the given `cause`. -/
  | invalid (cause : InvalidValue)
  /-- One of the two files of a dictionary is missing. -/
  | unpairedPaths (affix words : Option Path)
  | minWordLength (value : Literal)
  | maxSuggestions (value : Literal)
  | editDistance (value : Literal)
  /-- The `value` is given where a number is needed. -/
  | notANumber (value : Literal)
  /-- The `value` is no severity. -/
  | severity (value : Literal)
deriving DecidableEq

namespace SettingsError

/-- `pathShown path?` is `path?` as messages show it. -/
def pathShown : Option Path → String
  | none => "None"
  | some path => s!"PosixPath({path.quoted})"

/-- `refusal.message` is the wording of `refusal`. -/
def message : SettingsError → String
  | invalid cause => cause.message
  | unpairedPaths affix words =>
    s!"affix_path and dictionary_path must be given together, got affix_path={pathShown affix}, dictionary_path={pathShown words}"
  | minWordLength value =>
    let given := String.ofList value.plain
    s!"min_word_length must be >= 1, got {given}"
  | maxSuggestions value =>
    let given := String.ofList value.plain
    s!"max_suggestions must be >= 0 or None, got {given}"
  | editDistance value =>
    let given := String.ofList value.plain
    s!"edit_distance must be 1 or 2, got {given}"
  | notANumber value =>
    let given := String.ofList value.plain
    s!"not a number: {given}"
  | severity value =>
    let shown := String.ofList value.shown
    s!"severity must be a Severity, got {shown}"

end SettingsError

/-- The settings of a session. -/
structure Settings where
  language : Option Text := some "en".toList
  locale : Option Text := some "en_US".toList
  /-- The affix file and the word list of the dictionary, if it comes from files. -/
  files? : Option (Path × Path) := none
  reach : Reach := .two
  minWordLength : Nat := 3
  maxSuggestions : Option Nat := none
  severity : Severity := .warning
  supportedKinds : List DocumentKind := DocumentKind.all
  minWordLength_pos : 1 ≤ minWordLength := by decide
deriving DecidableEq

namespace Settings

instance : Inhabited Settings := ⟨{}⟩

/-- `severityOf options` is the severity that `options` name; a value that stands in its place is kept
to be refused later. -/
def severityOf (options : Options) : Except InvalidValue (Except Literal Severity) :=
  match options.severity.mapM Severity.ofLiteral with
  | .error cause => .error cause
  | .ok severity? =>
    match options.severityValue with
    | some value => .ok (.error value)
    | none => .ok (.ok (severity?.getD .warning))

/-- `kindsOf options` are the kinds that `options` name, in the order of their names. -/
def kindsOf (options : Options) : Except InvalidValue (List DocumentKind) :=
  match options.supportedKinds with
  | none => .ok DocumentKind.all
  | some names =>
    (names.mapM DocumentKind.ofLiteral).map fun kinds => DocumentKind.all.filter (· ∈ kinds)

/-- `filesOf options` are the two files of a dictionary, which are given together or not at all. -/
def filesOf (options : Options) : Except SettingsError (Option (Path × Path)) :=
  match options.affixPath.map Path.ofText, options.dictionaryPath.map Path.ofText with
  | some affix, some words => .ok (some (affix, words))
  | none, none => .ok none
  | affix, words => .error (.unpairedPaths affix words)

theorem one_le_toNat {n : Int} (h : 1 ≤ n) : 1 ≤ n.toNat := by
  omega

/-- `minWordLengthOf value` is `value` as the least length of a word that is checked; it is at least
one. -/
def minWordLengthOf (value : Literal) : Except SettingsError { n : Nat // 1 ≤ n } :=
  match value.int? with
  | none => .error (.notANumber value)
  | some n => if h : 1 ≤ n then .ok ⟨n.toNat, one_le_toNat h⟩ else .error (.minWordLength value)

/-- `maxSuggestionsOf value` is `value` as the limit of suggestions; it is not negative, and `.absent`
is no limit. -/
def maxSuggestionsOf (value : Literal) : Except SettingsError (Option Nat) :=
  match value, value.int? with
  | .absent, _ => .ok none
  | _, none => .error (.notANumber value)
  | _, some n => if n < 0 then .error (.maxSuggestions value) else .ok (some n.toNat)

/-- `reachOf value` is `value` as the reach of the search for suggestions, which is one edit or two. -/
def reachOf (value : Literal) : Except SettingsError Reach :=
  match value.int? with
  | some 1 => .ok .one
  | some 2 => .ok .two
  | _ => .error (.editDistance value)

/-- `ofOptions options` are the settings that `options` describe, or the first reason to refuse them. -/
def ofOptions (options : Options) : Except SettingsError Settings := do
  let severity? ← (severityOf options).mapError .invalid
  let supportedKinds ← (kindsOf options).mapError .invalid
  let files? ← filesOf options
  let minWordLength ← minWordLengthOf options.minWordLength
  let maxSuggestions ← maxSuggestionsOf options.maxSuggestions
  let reach ← reachOf options.editDistance
  let severity ← severity?.mapError .severity
  return {
    language := options.language
    locale := options.locale
    files?
    reach
    minWordLength := minWordLength.val
    maxSuggestions
    severity
    supportedKinds
    minWordLength_pos := minWordLength.property }

/-- `settings.usesFiles` iff the dictionary comes from files. -/
def usesFiles (settings : Settings) : Bool :=
  settings.files?.isSome

/-- `settings.supports language` iff documents in `language` are checked. -/
def supports (settings : Settings) (language : Text) : Bool :=
  (DocumentKind.ofLanguage? language).any (· ∈ settings.supportedKinds)

/-- `settings.source` is where the dictionary comes from. -/
def source (settings : Settings) : DictionarySource :=
  match settings.files? with
  | some (affix, words) => .files affix words settings.locale
  | none => .language settings.language

/-- `settings.provider` is the dictionary that `settings` describe, loaded when it is first needed. -/
def provider (settings : Settings) : OnDemand :=
  .ofSource settings.source settings.reach (settings.maxSuggestions.map Int.ofNat)

end Settings

end CommentSpell
