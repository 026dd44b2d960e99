import PhpLexicon.Lexicon.Basic
import PhpLexicon.Vocabulary.Registration

/-!
# Construction from lists

A lexicon is made from a list of names and a list of entries.  Any names will do; the entries have
to form a vocabulary.  What happens on the way is logged: a duplicate where it is met, before it
stops the construction, and the lexicon once it is complete.  An empty spelling stops the
construction without an event.
-/

namespace PhpLexicon

/-- What a log is told of a construction. -/
inductive BuildEvent where
  /-- A lexicon was made, of so many spellings, leads and kinds without a name. -/
  | built (spellings leads unnamed : Nat)
  /-- A spelling was met for the second time. -/
  | rejectedDuplicate (spelling : String) (first second : Kind)
  deriving DecidableEq

/-- The message of an event. -/
def BuildEvent.message : BuildEvent → String
  | .built _ _ _ => "built token registry"
  | .rejectedDuplicate _ _ _ => "rejecting duplicate spelling"

/-- The level at which an event is logged, the same for all. -/
def BuildEvent.level (_event : BuildEvent) : String :=
  "DEBUG"

/-- The event that announces a lexicon. -/
def Lexicon.builtEvent (lexicon : Lexicon) : BuildEvent :=
  .built lexicon.vocabulary.size lexicon.leads.size lexicon.names.missing.length

/-! ## Steps that log -/

/-- A step of a construction.  It may add events to the log, and it may stop at a fault; what is in
the log by then stays there. -/
abbrev Build := ExceptT VocabularyError (StateM (List BuildEvent))

namespace Build

/-- Adds an event to the log, behind those that it holds. -/
def announce (event : BuildEvent) : Build Unit :=
  modify (fun logged => logged ++ [event])

/-- Registers one more entry.  A spelling that is found among the registered ones is announced
there, with the kind that it has and the kind that it would get, before it stops the
construction. -/
def register (vocabulary : Vocabulary) (entry : Entry) : Build Vocabulary :=
  if hempty : entry.spelling = "" then
    throw (.emptySpelling entry.kind)
  else
    match hkind : vocabulary.kindOf? entry.spelling with
    | some first => do
        announce (.rejectedDuplicate entry.spelling first entry.kind)
        throw (.duplicateSpelling entry.spelling first entry.kind)
    | none => pure (vocabulary.extend entry hempty hkind)

/-- Registers the entries of a list from left to right, makes the lexicon and announces it. -/
def lexicon (names : List (Kind × String)) (entries : List Entry) : Build Lexicon := do
  let vocabulary ← entries.foldlM register Vocabulary.empty
  let lexicon := Lexicon.of (NameTable.ofList names) vocabulary
  announce lexicon.builtEvent
  return lexicon

/-- What a step comes to when the log holds the given events: its outcome, and the log behind it. -/
def perform {α : Type} (step : Build α) (logged : List BuildEvent) :
    Except VocabularyError α × List BuildEvent :=
  (step.run.run logged).run

end Build

/-- The outcome of an attempt to make a lexicon. -/
structure Construction where
  /-- The lexicon, or why there is none. -/
  result : Except VocabularyError Lexicon
  /-- The events of the attempt in the order in which they were logged. -/
  events : List BuildEvent

/-- Makes a lexicon from a list of names and a list of entries, and logs from an empty log on. -/
def Construction.run (names : List (Kind × String)) (entries : List Entry) : Construction :=
  let outcome := (Build.lexicon names entries).perform []
  { result := outcome.1, events := outcome.2 }

/-- The lexicon of a list of names and a list of entries. -/
def Lexicon.ofLists (names : List (Kind × String)) (entries : List Entry) :
    Except VocabularyError Lexicon :=
  (Construction.run names entries).result

/-! ## The log of a registration -/

/-- What a log should hold of a fault: a repeated spelling with both kinds, and of an empty spelling
nothing. -/
def VocabularyError.events : VocabularyError → List BuildEvent
  | .emptySpelling _ => []
  | .duplicateSpelling spelling first second => [.rejectedDuplicate spelling first second]

/-- What a log should hold of a registration: its fault, if it has one. -/
def faultEvents {α : Type} : Except VocabularyError α → List BuildEvent
  | .ok _ => []
  | .error fault => fault.events

namespace Build

variable {α β : Type} {step : Build α} {next : α → Build β} {logged log : List BuildEvent}

/-- The second step starts from the log of the first. -/
theorem perform_bind_of_ok {value : α} (hstep : step.perform logged = (.ok value, log)) :
    (step >>= next).perform logged = (next value).perform log := by
  change (ExceptT.bindCont next (step.perform logged).1 (step.perform logged).2).run = _
  rw [hstep]
  rfl

/-- Behind a step that has stopped nothing is done and nothing is logged. -/
theorem perform_bind_of_error {fault : VocabularyError}
    (hstep : step.perform logged = (.error fault, log)) :
    (step >>= next).perform logged = (.error fault, log) := by
  change (ExceptT.bindCont next (step.perform logged).1 (step.perform logged).2).run = _
  rw [hstep]
  rfl

/-- Registering an entry with a log comes to what registering it comes to, and what is announced on
the way agrees with the fault that is reported. -/
theorem perform_register (vocabulary : Vocabulary) (entry : Entry) (logged : List BuildEvent) :
    (register vocabulary entry).perform logged =
      (vocabulary.insert entry, logged ++ faultEvents (vocabulary.insert entry)) := by
  rw [register]
  split
  · rename_i hempty
    rw [Vocabulary.insert_eq_emptySpelling vocabulary hempty, faultEvents, VocabularyError.events,
      List.append_nil]
    rfl
  · rename_i hempty
    split
    · rename_i first hkind
      -- The event is built from the entry and the kind found, and so is the fault.
      rw [Vocabulary.insert_eq_duplicateSpelling hempty hkind]
      rfl
    · rename_i hkind
      rw [Vocabulary.insert_eq_ok hempty hkind, faultEvents, List.append_nil]
      rfl

/-- A registration that logs comes to what the registration comes to, and logs nothing but the
events of the fault at which it stops. -/
theorem perform_foldlM_register (vocabulary : Vocabulary) (entries : List Entry) :
    (entries.foldlM register vocabulary).perform logged =
      (entries.foldlM Vocabulary.insert vocabulary,
        logged ++ faultEvents (entries.foldlM Vocabulary.insert vocabulary)) := by
  induction entries generalizing vocabulary with
  | nil =>
      change (Except.ok vocabulary, logged) = (Except.ok vocabulary, logged ++ [])
      rw [List.append_nil]
  | cons entry rest ih =>
      have hregister := perform_register vocabulary entry logged
      rw [List.foldlM_cons, List.foldlM_cons]
      cases hinsert : vocabulary.insert entry with
      | ok extended =>
          rw [hinsert, faultEvents, List.append_nil] at hregister
          rw [perform_bind_of_ok hregister, ih]
          rfl
      | error fault =>
          rw [hinsert] at hregister
          rw [perform_bind_of_error hregister]
          rfl

end Build

namespace Construction

variable {names : List (Kind × String)} {entries : List Entry}

/-- Accepted entries make a lexicon, and the log is told of that and of nothing else. -/
theorem run_of_ok {vocabulary : Vocabulary}
    (hbuild : Vocabulary.ofEntries entries = .ok vocabulary) :
    run names entries =
      { result := .ok (Lexicon.of (NameTable.ofList names) vocabulary)
        events := [(Lexicon.of (NameTable.ofList names) vocabulary).builtEvent] } := by
  have hregistered : (entries.foldlM Build.register Vocabulary.empty).perform [] =
      (.ok vocabulary, []) := by
    rw [Build.perform_foldlM_register]
    change (Vocabulary.ofEntries entries, faultEvents (Vocabulary.ofEntries entries)) = _
    rw [hbuild, faultEvents]
  rw [run, Build.lexicon, Build.perform_bind_of_ok hregistered]
  rfl

/-- A fault stops the construction with the events that announce it. -/
theorem run_of_error {fault : VocabularyError}
    (hfault : Vocabulary.ofEntries entries = .error fault) :
    run names entries = { result := .error fault, events := fault.events } := by
  have hregistered : (entries.foldlM Build.register Vocabulary.empty).perform [] =
      (.error fault, fault.events) := by
    rw [Build.perform_foldlM_register]
    change (Vocabulary.ofEntries entries, faultEvents (Vocabulary.ofEntries entries)) = _
    rw [hfault, faultEvents]
  rw [run, Build.lexicon, Build.perform_bind_of_error hregistered]

end Construction

end PhpLexicon
