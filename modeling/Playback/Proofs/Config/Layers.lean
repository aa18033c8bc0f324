import Playback.CommandLine.Flags
import Playback.Proofs.Config.File
import Playback.Proofs.Config.Words

/-!
# The layers of a configuration

The configuration of a run lies in layers: the file with its defaults, the environment over it, and
the flags over both. Six fields can be laid over, each by a variable of its own; every other field is
that of the file.

* `Layered`, `layered_iff` — **the value of a field in layers**;
* `Understood`, `withOverrides_without` — what a variable says, and that **a text that means nothing
  is as good as none**;
* `withOverrides_twice` — **the same environment changes nothing the second time**;
* `RunFlags.LaidOver`, `RunFlags.Configures`, `engineConfig_layered` — **the configuration of a
  run**, for every file, environment and set of flags.
-/

namespace Playback

/-! ## Fields in layers -/

section Layers

variable {α : Type} {flag? : Option α} {Means : String → α → Prop} {read : String → Option α}
  {text? : Option String} {file a : α}

/-- **The value of a field in layers**: that of the flag, or else what the text of the environment
means, or else that of the file. -/
inductive Layered (flag? : Option α) (Means : String → α → Prop) (text? : Option String)
    (file : α) : α → Prop where
  | flag {a : α} (given : flag? = some a) : Layered flag? Means text? file a
  | environment {a : α} {text : String} (unflagged : flag? = none) (set : text? = some text)
      (means : Means text a) : Layered flag? Means text? file a
  | file (unflagged : flag? = none) (silent : ∀ text a, text? = some text → ¬ Means text a) :
      Layered flag? Means text? file file

/-- What is read of a text is what it means, -/
theorem meant_iff (agree : ∀ text a, read text = some a ↔ Means text a) :
    text?.bind read = some a ↔ ∃ text, text? = some text ∧ Means text a := by
  simp only [Option.bind_eq_some_iff, agree]

/-- and nothing is read of a text that means nothing. -/
theorem silent_iff (agree : ∀ text a, read text = some a ↔ Means text a) :
    text?.bind read = none ↔ ∀ text a, text? = some text → ¬ Means text a := by
  rw [Option.eq_none_iff_forall_ne_some]
  constructor
  · exact fun none text a set means => none a ((meant_iff agree).2 ⟨text, set, means⟩)
  · intro silent a meant
    obtain ⟨text, set, means⟩ := (meant_iff agree).1 meant
    exact silent text a set means

/-- **There is just one such value**, which is the one that is computed. -/
theorem layered_iff (agree : ∀ text a, read text = some a ↔ Means text a) :
    Layered flag? Means text? file a ↔ a = flag?.getD ((text?.bind read).getD file) := by
  -- the layers are gone through from the top: below one that has a value, nothing counts
  cases flag? with
  | some b =>
    constructor
    · rintro (given | ⟨unflagged, -, -⟩ | ⟨unflagged, -⟩)
      · exact (Option.some.inj given).symm
      · cases unflagged
      · cases unflagged
    · rintro rfl
      exact .flag rfl
  | none =>
    cases meant : text?.bind read with
    | some b =>
      obtain ⟨text, set, means⟩ := (meant_iff agree).1 meant
      constructor
      · rintro (given | ⟨-, set', means'⟩ | ⟨-, silent⟩)
        · cases given
        · have meant' := (meant_iff agree).2 ⟨_, set', means'⟩
          exact Option.some.inj (meant'.symm.trans meant)
        · exact absurd means (silent text b set)
      · rintro rfl
        exact .environment rfl set means
    | none =>
      have silent := (silent_iff agree).1 meant
      constructor
      · rintro (given | ⟨-, set, means⟩ | ⟨-, -⟩)
        · cases given
        · exact absurd means (silent _ _ set)
        · rfl
      · rintro rfl
        exact .file rfl silent

end Layers

/-! ## The environment -/

/-- **A dictionary without a key.** -/
def Dict.without {α : Type} (d : Dict α) (key : String) : Dict α :=
  ⟨d.entries.filter fun e => e.1 ≠ key, d.sorted.filter _⟩

/-- It has the values of all other keys. -/
theorem Dict.get?_without {α : Type} (d : Dict α) (key k : String) :
    (d.without key).get? k = if k = key then none else d.get? k := by
  obtain ⟨entries, sorted⟩ := d
  change lookup k (entries.filter fun e => e.1 ≠ key) = if k = key then none else lookup k entries
  clear sorted
  induction entries with
  | nil => simp
  | cons e entries ih =>
    obtain ⟨name, value⟩ := e
    by_cases same : name = key
    · subst same
      rw [List.filter_cons_of_neg (by simp), ih, lookup_cons]
      by_cases other : name = k
      · simp [other]
      · simp [other, Ne.symm other]
    · rw [List.filter_cons_of_pos (by simpa using same), lookup_cons, lookup_cons, ih]
      by_cases here : name = k
      · simp [← here, same]
      · simp [here]

namespace EngineConfig

variable {c : EngineConfig} {env env' : Environment} {name text : String}

/-- **A text that a variable understands**, as what it is looked up for. -/
inductive Understood (text : String) : String → Prop where
  | headless {b : Bool} (means : MeansBool text b) : Understood text headlessVariable
  | noSandbox {b : Bool} (means : MeansBool text b) : Understood text noSandboxVariable
  | chromePath : Understood text chromePathVariable
  | endpoint : Understood text endpointVariable
  | abortPolicy {p : AbortPolicy} (names : NamesPolicy text p) : Understood text abortPolicyVariable
  | fallback {n : Nat} (means : MeansMillis text n) : Understood text fallbackVariable

/-- **Only what is understood counts**: environments that agree on it are laid over alike. -/
theorem withOverrides_congr (c : EngineConfig)
    (agree : ∀ name text, Understood text name →
      (env.get? name = some text ↔ env'.get? name = some text)) :
    c.withOverrides env = c.withOverrides env' := by
  -- what a reader finds is understood, so that both environments have it or neither does
  have same : ∀ {α : Type} {name : String} {read : String → Option α},
      (∀ text a, read text = some a → Understood text name) →
      (env.get? name).bind read = (env'.get? name).bind read := by
    intro α name read understood
    refine Option.ext fun a => ?_
    simp only [Option.bind_eq_some_iff]
    refine exists_congr fun text => and_congr_left fun reads => ?_
    exact agree name text (understood text a reads)
  have chromePath : env.get? chromePathVariable = env'.get? chromePathVariable :=
    Option.ext fun text => agree _ text .chromePath
  have endpoint : env.get? endpointVariable = env'.get? endpointVariable :=
    Option.ext fun text => agree _ text .endpoint
  have headless := same fun _ _ reads => .headless ((boolOfText?_eq_some_iff _ _).1 reads)
  have noSandbox := same fun _ _ reads => .noSandbox ((boolOfText?_eq_some_iff _ _).1 reads)
  have policy := same fun _ _ reads => .abortPolicy ((ofName?_eq_some_iff _ _).1 reads)
  have fallback := same fun _ _ reads => .fallback ((millisOfText?_eq_some_iff _ _).1 reads)
  simp only [withOverrides, chromePath, endpoint, headless, noSandbox, policy, fallback]

/-- **A text that means nothing is as good as none.** -/
theorem withOverrides_without (c : EngineConfig) (set : env.get? name = some text)
    (meaningless : ¬ Understood text name) :
    c.withOverrides (env.without name) = c.withOverrides env := by
  refine withOverrides_congr c fun other text' understood => ?_
  rw [Dict.get?_without]
  split
  · next same =>
    subst same
    refine iff_of_false (Option.some_ne_none text').symm fun set' => meaningless ?_
    exact Option.some.inj (set'.symm.trans set) ▸ understood
  · exact Iff.rfl

/-- One variable has its say in capitals, and the other one says nothing. -/
example : ({} : EngineConfig).withOverrides
    (Dict.ofList [(headlessVariable, "OFF"), (fallbackVariable, "-1")]) =
      { browser := { headless := false } } := by
  decide

/-- **The same environment changes nothing the second time.** -/
theorem withOverrides_twice (c : EngineConfig) (env : Environment) :
    (c.withOverrides env).withOverrides env = c.withOverrides env := by
  have again : ∀ {α : Type} (a? : Option α) (a : α), a?.getD (a?.getD a) = a?.getD a := by
    intro α a? a
    cases a? <;> rfl
  have orElse : ∀ a? b? : Option String, (a?.orElse fun _ => a?.orElse fun _ => b?) =
      a?.orElse fun _ => b? := by
    intro a? b?
    cases a? <;> rfl
  simp only [withOverrides, again, orElse]

end EngineConfig

/-! ## Runs -/

namespace CommandLine.RunFlags

open EngineConfig

variable {f : RunFlags} {fs : Files} {env : Environment} {c r : EngineConfig}

/-- **A configuration laid over that of a file**, field by field. A flag says nothing unless it is
given, and where there is no flag there is none to give. -/
structure LaidOver (f : RunFlags) (env : Environment) (c r : EngineConfig) : Prop where
  headless : Layered (if f.headed then some false else none) MeansBool (env.get? headlessVariable)
    c.browser.headless r.browser.headless
  abortPolicy : Layered (if f.haltOnAbort then some .haltOnAbort else none) NamesPolicy
    (env.get? abortPolicyVariable) c.abortPolicy r.abortPolicy
  endpoint : Layered (f.passcodeEndpoint.map some) (fun text a => a = some text)
    (env.get? endpointVariable) c.passcode.endpoint r.passcode.endpoint
  noSandbox : Layered none MeansBool (env.get? noSandboxVariable) c.browser.noSandbox
    r.browser.noSandbox
  chromeExecutable : Layered none (fun text a => a = some text) (env.get? chromePathVariable)
    c.browser.chromeExecutable r.browser.chromeExecutable
  fallbackMs : Layered none MeansMillis (env.get? fallbackVariable) c.timeouts.fallbackMs
    r.timeouts.fallbackMs
  /-- Every other field is that of the file. -/
  others : r =
    { timeouts := { c.timeouts with fallbackMs := r.timeouts.fallbackMs }
      passcode := { c.passcode with endpoint := r.passcode.endpoint }
      browser := { c.browser with
        headless := r.browser.headless
        noSandbox := r.browser.noSandbox
        chromeExecutable := r.browser.chromeExecutable }
      abortPolicy := r.abortPolicy }

/-- **What is laid over a file** is what the environment and the flags make of it. -/
theorem laidOver_iff : f.LaidOver env c r ↔ r = f.applyTo (c.withOverrides env) := by
  have anyText : ∀ (text : String) (a : Option String), some (some text) = some a ↔ a = some text :=
    fun text a => by rw [Option.some.injEq, eq_comm]
  have headless : (f.applyTo (c.withOverrides env)).browser.headless =
      (if f.headed then some false else none).getD
        (((env.get? headlessVariable).bind boolOfText?).getD c.browser.headless) := by
    cases headed : f.headed <;> simp [applyTo, withOverrides, headed]
  have abortPolicy : (f.applyTo (c.withOverrides env)).abortPolicy =
      (if f.haltOnAbort then some .haltOnAbort else none).getD
        (((env.get? abortPolicyVariable).bind AbortPolicy.ofName?).getD c.abortPolicy) := by
    cases halts : f.haltOnAbort <;> simp [applyTo, withOverrides, halts]
  have endpoint : (f.applyTo (c.withOverrides env)).passcode.endpoint =
      (f.passcodeEndpoint.map some).getD
        (((env.get? endpointVariable).bind fun text => some (some text)).getD
          c.passcode.endpoint) := by
    change (f.passcodeEndpoint.orElse fun _ => (env.get? endpointVariable).orElse fun _ =>
      c.passcode.endpoint) = _
    cases f.passcodeEndpoint with
    | some url => rfl
    | none => cases env.get? endpointVariable <;> rfl
  have chromeExecutable : (f.applyTo (c.withOverrides env)).browser.chromeExecutable =
      ((env.get? chromePathVariable).bind fun text => some (some text)).getD
        c.browser.chromeExecutable := by
    change ((env.get? chromePathVariable).orElse fun _ => c.browser.chromeExecutable) = _
    cases env.get? chromePathVariable <;> rfl
  constructor
  · intro h
    -- six fields are computed, and the others are those of the file on both sides
    rw [h.others,
      ((layered_iff boolOfText?_eq_some_iff).1 h.headless).trans headless.symm,
      ((layered_iff ofName?_eq_some_iff).1 h.abortPolicy).trans abortPolicy.symm,
      ((layered_iff anyText).1 h.endpoint).trans endpoint.symm,
      ((layered_iff anyText).1 h.chromeExecutable).trans chromeExecutable.symm,
      (layered_iff boolOfText?_eq_some_iff).1 h.noSandbox,
      (layered_iff millisOfText?_eq_some_iff).1 h.fallbackMs]
    rfl
  · rintro rfl
    exact
      { headless := (layered_iff boolOfText?_eq_some_iff).2 headless
        abortPolicy := (layered_iff ofName?_eq_some_iff).2 abortPolicy
        endpoint := (layered_iff anyText).2 endpoint
        noSandbox := (layered_iff boolOfText?_eq_some_iff).2 rfl
        chromeExecutable := (layered_iff anyText).2 chromeExecutable
        fallbackMs := (layered_iff millisOfText?_eq_some_iff).2 rfl
        others := rfl }

/-- The configuration of a run is laid over that of its file, if there is one. -/
theorem engineConfig_eq_ok_iff : f.engineConfig fs env = .ok r ↔
    ∃ c, LoadedFrom fs f.config c ∧ f.LaidOver env c r := by
  simp only [engineConfig, ← load_eq_ok_iff, laidOver_iff]
  cases EngineConfig.load fs f.config with
  | error e => simp [bind, Except.bind]
  | ok c =>
    simp only [Except.ok.injEq, exists_eq_left']
    exact ⟨fun same => (Except.ok.inj same).symm, fun same => congrArg Except.ok same.symm⟩

/-- **What configures a run**, told for every file and environment. -/
structure Configures (f : RunFlags) (fs : Files) (env : Environment) : Prop where
  /-- The configuration is laid over that of the file, and there is one if the file has one. -/
  configured_iff : ∀ r, f.engineConfig fs env = .ok r ↔
    ∃ c, LoadedFrom fs f.config c ∧ f.LaidOver env c r
  succeeds : ∀ c, LoadedFrom fs f.config c → ∃ r, f.engineConfig fs env = .ok r
  /-- A file that cannot be loaded is reported, whatever lies over it. -/
  fails : ∀ e, EngineConfig.load fs f.config = .error e → f.engineConfig fs env = .error e
  /-- A variable that is not understood counts as unset. -/
  without : ∀ name text, env.get? name = some text → ¬ Understood text name →
    f.engineConfig fs (env.without name) = f.engineConfig fs env
  /-- The environment may be laid over twice. -/
  twice : ∀ c : EngineConfig, (c.withOverrides env).withOverrides env = c.withOverrides env

/-- **The configuration of a run lies in layers**, for all flags, files and environments. -/
theorem engineConfig_layered (f : RunFlags) (fs : Files) (env : Environment) :
    f.Configures fs env where
  configured_iff _ := engineConfig_eq_ok_iff
  succeeds c loaded :=
    ⟨f.applyTo (c.withOverrides env), engineConfig_eq_ok_iff.2 ⟨c, loaded, laidOver_iff.2 rfl⟩⟩
  fails e failed := by
    rw [engineConfig, failed]
    rfl
  without name text set meaningless := by
    simp only [engineConfig, withOverrides_without _ set meaningless]
  twice c := withOverrides_twice c env

end CommandLine.RunFlags

end Playback
