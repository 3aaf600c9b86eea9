import CommentSpell.Dictionary.Loading

/-!
# Dictionaries on demand

A dictionary is loaded when it is first needed and then kept.  A failed attempt is not kept: the next
need is a new attempt, on the files of that moment.  Attempts are counted, and a loader may answer
differently at each of them.
-/

namespace CommentSpell

/-- A `Loader` loads a dictionary at the attempt of the given number, which is one for the first
attempt. -/
abbrev Loader := (attempt : Nat) → Host → Except LoadError Dictionary

/-- A dictionary that `load` makes when it is first needed: `loaded?` after so many `attempts`. -/
structure OnDemand where
  load : Loader
  attempts : Nat := 0
  loaded? : Option Dictionary := none

namespace OnDemand

/-- `provider.isLoaded` iff the dictionary has been loaded. -/
def isLoaded (provider : OnDemand) : Bool :=
  provider.loaded?.isSome

/-- `ready dictionary` has `dictionary` from the start. -/
def ready (dictionary : Dictionary) : OnDemand where
  load _ _ := .ok dictionary
  loaded? := some dictionary

/-- `ofSource source reach maxSuggestions` loads the dictionary of `source` by `Host.loadRanked` when
it is first needed. -/
def ofSource (source : DictionarySource) (reach : Reach) (maxSuggestions : Option Int) :
    OnDemand where
  load _ host := (host.loadRanked source reach maxSuggestions).map RankedDictionary.toDictionary

/-- `provider.get host` is the dictionary, which is loaded from `host` if it has not been loaded
before, and the provider after that. -/
def get (provider : OnDemand) (host : Host) : Except LoadError Dictionary × OnDemand :=
  match provider.loaded? with
  | some dictionary => (.ok dictionary, provider)
  | none =>
    let attempted := { provider with attempts := provider.attempts + 1 }
    match provider.load attempted.attempts host with
    | .ok dictionary => (.ok dictionary, { attempted with loaded? := some dictionary })
    | .error failure => (.error failure, attempted)

end OnDemand

end CommentSpell
