import CommentSpell.Proofs.Workspace.Dependence

/-!
# Loading once

The loader is called when an operation needs the dictionary and there is none (`step_of_load_error`,
`step_of_load_ok`), and at no other time (`step_of_not_loading`).  Along a run its calls are counted by the
failures that are answered (`attempts_run`).  Once a dictionary is loaded the provider stays as it is, and
neither the files nor the loader have a part in what is answered (`history_moved`).
-/

namespace CommentSpell

/-! ### The provider -/

namespace OnDemand

variable {provider : OnDemand} {host : Host}

theorem get_of_load_ok (hnone : provider.loaded? = none) {dictionary : Dictionary}
    (hload : provider.load (provider.attempts + 1) host = .ok dictionary) :
    provider.get host = (.ok dictionary,
      { provider with attempts := provider.attempts + 1, loaded? := some dictionary }) := by
  unfold get
  rw [hnone]
  dsimp only
  rw [hload]

theorem get_of_load_error (hnone : provider.loaded? = none) {cause : LoadError}
    (hload : provider.load (provider.attempts + 1) host = .error cause) :
    provider.get host = (.error cause, { provider with attempts := provider.attempts + 1 }) := by
  unfold get
  rw [hnone]
  dsimp only
  rw [hload]

end OnDemand

namespace Workspace

variable {workspace : Workspace} {operation : Operation}

/-! ### Steps -/

/-- `failsToLoad answer` iff `answer` is a failure to load. -/
def failsToLoad : Except Failure Answer → Bool
  | .error (.load _) => true
  | _ => false

theorem failsToLoad_eq_false_of_ne {answer : Except Failure Answer}
    (h : ∀ cause, answer ≠ .error (.load cause)) : failsToLoad answer = false := by
  unfold failsToLoad
  split
  · rename_i cause
    exact absurd rfl (h cause)
  · rfl

/-- If the dictionary is not needed, or is loaded, `workspace.step operation` leaves the provider as
it is and does not fail to load. -/
theorem step_of_not_loading
    (h : operation.needsDictionary workspace.session.settings → workspace.session.provider.isLoaded) :
    (workspace.step operation).2.session.provider = workspace.session.provider
      ∧ failsToLoad (workspace.step operation).1 = false := by
  cases hneeds : operation.needsDictionary workspace.session.settings with
  | true =>
    have hconsults := consults_step hneeds
    obtain ⟨dictionary, hloaded⟩ := Option.isSome_iff_exists.mp (h hneeds)
    have hget := OnDemand.get_of_loaded hloaded workspace.host
    refine ⟨by rw [hconsults.provider_eq, hget], failsToLoad_eq_false_of_ne fun cause hfailed => ?_⟩
    rw [hconsults.load_iff, hget] at hfailed
    cases hfailed
  | false =>
    cases hwrites : operation.writesFiles with
    | false =>
      have hquiet := isQuiet_step hneeds hwrites
      exact ⟨hquiet.provider_eq, failsToLoad_eq_false_of_ne hquiet.ne_load⟩
    | true =>
      cases operation with
      | writeFiles nodes =>
        refine ⟨rfl, ?_⟩
        show failsToLoad (((workspace.host.writeFiles nodes).1.mapError .write).map fun _ => .done) = false
        cases (workspace.host.writeFiles nodes).1 <;> rfl
      | _ => cases hwrites

section Loading

variable (hneeds : operation.needsDictionary workspace.session.settings)
  (hnone : workspace.session.provider.loaded? = none)

include hneeds hnone

/-- If the dictionary is needed and the loader fails, its `cause` is the answer of
`workspace.step operation`, and the provider has one attempt more. -/
theorem step_of_load_error {cause : LoadError}
    (hload : workspace.session.provider.load (workspace.session.provider.attempts + 1) workspace.host
      = .error cause) :
    (workspace.step operation).1 = .error (.load cause)
      ∧ (workspace.step operation).2.session.provider
          = { workspace.session.provider with attempts := workspace.session.provider.attempts + 1 } := by
  have hconsults := consults_step hneeds
  have hget := OnDemand.get_of_load_error hnone hload
  exact ⟨(hconsults.load_iff cause).mpr (by rw [hget]), by rw [hconsults.provider_eq, hget]⟩

/-- If the dictionary is needed and the loader gives `dictionary`, then the provider keeps it, with
one attempt more, and `workspace.step operation` is answered by it. -/
theorem step_of_load_ok {dictionary : Dictionary}
    (hload : workspace.session.provider.load (workspace.session.provider.attempts + 1) workspace.host
      = .ok dictionary) :
    (workspace.step operation).2.session.provider
        = { workspace.session.provider with
            attempts := workspace.session.provider.attempts + 1, loaded? := some dictionary }
      ∧ failsToLoad (workspace.step operation).1 = false
      ∧ ∀ host, ((workspace.moved host (.ready dictionary)).step operation).1
          = (workspace.step operation).1 := by
  have hconsults := consults_step hneeds
  have hget := OnDemand.get_of_load_ok hnone hload
  refine ⟨by rw [hconsults.provider_eq, hget], failsToLoad_eq_false_of_ne fun cause hfailed => ?_,
    fun host => ?_⟩
  · rw [hconsults.load_iff, hget] at hfailed
    cases hfailed
  · have hmoved := hconsults.moved host (.ready dictionary) (by rw [hget, OnDemand.get_of_loaded rfl])
    rw [show (workspace.moved host (.ready dictionary)).step operation = _ from hmoved]

end Loading

/-! ### Runs -/

/-- `workspace.step operation` calls the loader once if it answers a failure to load, and once if it
loads the dictionary. -/
theorem attempts_step (workspace : Workspace) (operation : Operation) :
    let provider := workspace.session.provider
    let provider' := (workspace.step operation).2.session.provider
    provider'.load = provider.load
      ∧ (provider.isLoaded → provider'.isLoaded)
      ∧ provider'.attempts = provider.attempts + (failsToLoad (workspace.step operation).1).toNat
          + (provider'.isLoaded && !provider.isLoaded).toNat := by
  intro provider provider'
  by_cases hloading : operation.needsDictionary workspace.session.settings → provider.isLoaded
  · obtain ⟨hprovider, hanswer⟩ := step_of_not_loading hloading
    rw [hanswer, show provider' = provider from hprovider]
    simp
  · rw [Classical.not_imp] at hloading
    obtain ⟨hneeds, hunloaded⟩ := hloading
    have hnone : provider.loaded? = none := by
      simpa [OnDemand.isLoaded] using hunloaded
    cases hload : provider.load (provider.attempts + 1) workspace.host with
    | error cause =>
      obtain ⟨hanswer, hprovider⟩ := step_of_load_error hneeds hnone hload
      rw [hanswer, show provider' = _ from hprovider]
      simp [OnDemand.isLoaded, failsToLoad, hnone, provider]
    | ok dictionary =>
      obtain ⟨hprovider, hanswer, -⟩ := step_of_load_ok hneeds hnone hload
      rw [hanswer, show provider' = _ from hprovider]
      simp [OnDemand.isLoaded, hnone, provider]

theorem attempts_run (workspace : Workspace) (operations : List Operation) :
    let provider := workspace.session.provider
    let provider' := (workspace.run operations).2.session.provider
    provider'.load = provider.load
      ∧ (provider.isLoaded → provider'.isLoaded)
      ∧ provider'.attempts = provider.attempts + (workspace.run operations).1.countP failsToLoad
          + (provider'.isLoaded && !provider.isLoaded).toNat := by
  induction operations generalizing workspace with
  | nil => simp [run]
  | cons operation operations ih =>
    obtain ⟨hload, hkeeps, hattempts⟩ := workspace.attempts_step operation
    obtain ⟨hload', hkeeps', hattempts'⟩ := ih (workspace.step operation).2
    rw [run_cons]
    refine ⟨hload'.trans hload, hkeeps' ∘ hkeeps, ?_⟩
    dsimp only at hattempts' ⊢
    rw [hattempts', hattempts, List.countP_cons]
    -- the dictionary is loaded at one step at most
    have honce : ∀ before between after : Bool, (before → between) → (between → after) →
        (between && !before).toNat + (after && !between).toNat = (after && !before).toNat := by decide
    have hloaded := honce _ _ _ hkeeps hkeeps'
    cases failsToLoad (workspace.step operation).1 <;> simp <;> omega

/-- `workspace.run operations` does not change a provider that has loaded a `dictionary`. -/
theorem provider_run_of_loaded {dictionary : Dictionary}
    (hloaded : workspace.session.provider.loaded? = some dictionary) (operations : List Operation) :
    (workspace.run operations).2.session.provider = workspace.session.provider := by
  refine run_invariant (P := fun reached => reached.session.provider = workspace.session.provider)
    (fun operation _ reached hreached => ?_) rfl
  have hisLoaded : reached.session.provider.isLoaded := by
    rw [hreached, OnDemand.isLoaded, hloaded]
    rfl
  rw [(step_of_not_loading fun _ => hisLoaded).1, hreached]

/-- `workspace.moved host provider` takes the same step as `workspace`, if both have loaded the same
`dictionary` and no files are written. -/
theorem step_moved {dictionary : Dictionary}
    (hloaded : workspace.session.provider.loaded? = some dictionary) (host : Host) {provider : OnDemand}
    (hloaded' : provider.loaded? = some dictionary) (hwrites : operation.writesFiles = false) :
    (workspace.moved host provider).step operation
      = ((workspace.step operation).1, (workspace.step operation).2.moved host provider) := by
  cases hneeds : operation.needsDictionary workspace.session.settings with
  | true =>
    have hget := OnDemand.get_of_loaded hloaded workspace.host
    have hget' := OnDemand.get_of_loaded hloaded' host
    have hmoved := (consults_step hneeds).moved host provider (by rw [hget, hget'])
    rwa [hget'] at hmoved
  | false => exact (isQuiet_step hneeds hwrites).moved host provider (hloaded'.trans hloaded.symm)

/-- Once `dictionary` is loaded, the answers of a run are those of a session that was given
`dictionary`, on any `host`, without the writes of files. -/
theorem history_moved {dictionary : Dictionary}
    (hloaded : workspace.session.provider.loaded? = some dictionary) (host : Host)
    (operations : List Operation) :
    (workspace.history operations).filter (fun entry => !entry.1.writesFiles)
      = (workspace.moved host (.ready dictionary)).history
          (operations.filter fun operation => !operation.writesFiles) := by
  induction operations generalizing workspace with
  | nil => rfl
  | cons operation operations ih =>
    have hkept := provider_run_of_loaded hloaded [operation]
    have hloaded' : (workspace.step operation).2.session.provider.loaded? = some dictionary := by
      rw [show (workspace.step operation).2.session.provider = _ from hkept, hloaded]
    rw [history_cons]
    cases hwrites : operation.writesFiles with
    | true =>
      -- a write of files changes the host only
      rw [List.filter_cons_of_neg (by simp [hwrites]), List.filter_cons_of_neg (by simp [hwrites]),
        ih hloaded']
      cases operation with
      | writeFiles nodes => rfl
      | _ => cases hwrites
    | false =>
      rw [List.filter_cons_of_pos (by simp [hwrites]), List.filter_cons_of_pos (by simp [hwrites]),
        ih hloaded', history_cons, step_moved hloaded host rfl hwrites]

/-- **The dictionary is loaded once, and failures are tried again.** Take any `operation` after any
run `before`, with writes of files among the operations and a loader that may fail or not at each
call.  By then the loader has been called once for each failure to load that was answered, and once if
the dictionary has been loaded.  If `operation` does not need the dictionary, or it is loaded, the
loader is not called.  Otherwise it is called on `reached.host`: a failure is the `answer` and leaves
the dictionary to be loaded, and a `dictionary` is kept.  Once it is kept, the provider stays as it is,
also when the session is closed, and all `later` operations are answered as by a session that was
given `dictionary`, on whatever `host` and without the writes of files. -/
theorem run_loads_once (start : Workspace) (before : List Operation) (operation : Operation) :
    let reached := (start.run before).2
    let provider := reached.session.provider
    let answer := (reached.step operation).1
    let next := (reached.step operation).2
    (provider.load = start.session.provider.load
        ∧ provider.attempts
          = start.session.provider.attempts + (start.run before).1.countP failsToLoad
            + (provider.isLoaded && !start.session.provider.isLoaded).toNat)
      ∧ ((operation.needsDictionary reached.session.settings → provider.isLoaded) →
          next.session.provider = provider ∧ failsToLoad answer = false)
      ∧ (operation.needsDictionary reached.session.settings → provider.isLoaded = false →
          match provider.load (provider.attempts + 1) reached.host with
          | .error cause =>
            answer = .error (.load cause)
              ∧ next.session.provider = { provider with attempts := provider.attempts + 1 }
          | .ok dictionary =>
            (∀ host, ((reached.moved host (.ready dictionary)).step operation).1 = answer)
              ∧ next.session.provider
                = { provider with attempts := provider.attempts + 1, loaded? := some dictionary })
      ∧ ∀ dictionary, next.session.provider.loaded? = some dictionary → ∀ later,
          (next.run later).2.session.provider = next.session.provider
            ∧ (next.run later).2.session.info.dictionaryLoaded
            ∧ ∀ host, (next.history later).filter (fun entry => !entry.1.writesFiles)
                = (next.moved host (.ready dictionary)).history
                    (later.filter fun operation => !operation.writesFiles) := by
  intro reached provider answer next
  obtain ⟨hload, -, hattempts⟩ := start.attempts_run before
  refine ⟨⟨hload, hattempts⟩, step_of_not_loading, fun hneeds hunloaded => ?_,
    fun dictionary hloaded later => ?_⟩
  · have hnone : provider.loaded? = none := by
      simpa [OnDemand.isLoaded] using hunloaded
    split
    · rename_i cause hcall
      exact step_of_load_error hneeds hnone hcall
    · rename_i dictionary hcall
      obtain ⟨hkept, -, hanswer⟩ := step_of_load_ok hneeds hnone hcall
      exact ⟨hanswer, hkept⟩
  · have hkept := provider_run_of_loaded hloaded later
    refine ⟨hkept, ?_, fun host => history_moved hloaded host later⟩
    show (next.run later).2.session.provider.isLoaded
    rw [hkept, OnDemand.isLoaded, hloaded]
    rfl

/-- A dictionary whose files are missing at first, and are emptied after it has been loaded. -/
theorem run_loads_once_rewritten :
    let affix := Path.ofText "d.aff".toList
    let words := Path.ofText "d.dic".toList
    let start : Workspace := { host := {}, session := .start { files? := some (affix, words) } none }
    let document : Document := { uri := [], text := "// teh".toList }
    let bytes := "the".toList.map fun c => c.toNat.toUInt8
    let before := [.info, .highlight document, .writeFiles [(affix, .file []), (words, .file bytes)]]
    let next := ((start.run before).2.step (.highlight document)).2
    let later := [.writeFiles [(words, .file [])], .close, .highlight document]
    (start.run before).2.session.provider.attempts = 1
      ∧ next.session.provider.attempts = 2
      ∧ ∃ dictionary, next.session.provider.loaded? = some dictionary
          ∧ (next.run later).2.session.provider.attempts = 2
          ∧ (next.history later).filter (fun entry => !entry.1.writesFiles)
            = (next.moved {} (.ready dictionary)).history [.close, .highlight document] := by
  intro affix words start document bytes before next later
  obtain ⟨⟨-, hattempts⟩, -, hloads, hkeeps⟩ := run_loads_once start before (.highlight document)
  have hfirst : (start.run before).2.session.provider.attempts = 1 :=
    hattempts.trans (by decide +kernel)
  have hcalled := hloads (by decide +kernel) (by decide +kernel)
  split at hcalled
  · rename_i cause hcall
    have hloaded : next.session.provider.isLoaded := by decide +kernel
    rw [show next.session.provider = _ from hcalled.2] at hloaded
    revert hloaded
    decide +kernel
  · rename_i dictionary hcall
    have hnext : next.session.provider = _ := hcalled.2
    have hsecond : next.session.provider.attempts = 2 := by
      rw [hnext]
      exact congrArg (· + 1) hfirst
    obtain ⟨hkept, -, hanswers⟩ := hkeeps dictionary (congrArg OnDemand.loaded? hnext) later
    refine ⟨hfirst, hsecond, dictionary, congrArg OnDemand.loaded? hnext, ?_, hanswers {}⟩
    rw [hkept, hsecond]

end Workspace

end CommentSpell
