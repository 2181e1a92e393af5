import FormatterHost.Instance.Basic
import FormatterHost.Proofs.InForce
import FormatterHost.Proofs.Protocol

/-!
# Layers of patches

A configuration decides six things.  When patches are laid over each other and over a configuration,
each of the six is treated by itself: the uppermost layer that says anything about it decides.  So
the defaults of an instance decide what a request leaves open, and what nobody decides is as it is
documented.  What results is what the plugin is made to commit.
-/

namespace FormatterHost

/-! ## What a configuration decides -/

/-- Both complete configurations. -/
structure Configuration where
  global : GlobalConfig
  plugin : PluginConfig

/-- One of the things that a configuration decides. -/
inductive Knob where
  | lineWidth
  | indentWidth
  | useTabs
  | newlineKind
  | semicolons
  | quotes
deriving Repr, DecidableEq

namespace Knob

/-- What can be decided. -/
def Value : Knob → Type
  | lineWidth | indentWidth => UInt32
  | useTabs => Bool
  | newlineKind => NewlineKind
  | semicolons => SemicolonUse
  | quotes => QuoteStyle

/-- What a configuration decides about a knob. -/
def value : (knob : Knob) → Configuration → knob.Value
  | lineWidth, config => config.global.lineWidth
  | indentWidth, config => config.global.indentWidth
  | useTabs, config => config.global.useTabs
  | newlineKind, config => config.global.newlineKind
  | semicolons, config => config.plugin.semicolons
  | quotes, config => config.plugin.quotes

/-- What a patch says about a knob, if it says anything. -/
def said : (knob : Knob) → Patch → Option knob.Value
  | lineWidth, patch => patch.global.lineWidth
  | indentWidth, patch => patch.global.indentWidth
  | useTabs, patch => patch.global.useTabs
  | newlineKind, patch => patch.global.newlineKind
  | semicolons, patch => patch.plugin.semicolons
  | quotes, patch => patch.plugin.quotes

/-- What is documented for the case that nobody says anything. -/
def documented : (knob : Knob) → knob.Value
  | lineWidth => (80 : UInt32)
  | indentWidth => (2 : UInt32)
  | useTabs => false
  | newlineKind => NewlineKind.auto
  | semicolons => SemicolonUse.whereNeeded
  | quotes => QuoteStyle.preferSingle

end Knob

/-- A configuration is what it decides about each knob. -/
theorem Configuration.ext_value {config config' : Configuration}
    (same : ∀ knob : Knob, knob.value config = knob.value config') : config = config' := by
  obtain ⟨⟨lineWidth, indentWidth, useTabs, newlineKind⟩, semicolons, quotes⟩ := config
  obtain rfl : lineWidth = _ := same .lineWidth
  obtain rfl : indentWidth = _ := same .indentWidth
  obtain rfl : useTabs = _ := same .useTabs
  obtain rfl : newlineKind = _ := same .newlineKind
  obtain rfl : semicolons = _ := same .semicolons
  obtain rfl : quotes = _ := same .quotes
  rfl

/-! ## Patches over each other -/

namespace Patch

/-- A patch is what it says about each knob. -/
theorem ext_said {patch patch' : Patch}
    (same : ∀ knob : Knob, knob.said patch = knob.said patch') : patch = patch' := by
  obtain ⟨⟨lineWidth, indentWidth, useTabs, newlineKind⟩, semicolons, quotes⟩ := patch
  obtain rfl : lineWidth = _ := same .lineWidth
  obtain rfl : indentWidth = _ := same .indentWidth
  obtain rfl : useTabs = _ := same .useTabs
  obtain rfl : newlineKind = _ := same .newlineKind
  obtain rfl : semicolons = _ := same .semicolons
  obtain rfl : quotes = _ := same .quotes
  rfl

/-- Both configurations that result from a patch. -/
def applyTo (patch : Patch) (base : Configuration) : Configuration where
  global := patch.global.applyTo base.global
  plugin := patch.plugin.applyTo base.plugin

@[simp] theorem said_empty (knob : Knob) : knob.said {} = none := by
  cases knob <;> rfl

/-- The upper patch decides, if it says anything. -/
@[simp] theorem said_atop (knob : Knob) (upper lower : Patch) :
    knob.said (upper.atop lower) = (knob.said upper).or (knob.said lower) := by
  cases knob <;> exact Option.orElse_eq_or

/-- A patch decides what it says anything about. -/
@[simp] theorem value_applyTo (knob : Knob) (patch : Patch) (base : Configuration) :
    knob.value (patch.applyTo base) = (knob.said patch).getD (knob.value base) := by
  cases knob <;> rfl

theorem atop_assoc (upper middle lower : Patch) :
    (upper.atop middle).atop lower = upper.atop (middle.atop lower) :=
  ext_said fun knob => by simp [Option.or_assoc]

theorem atop_self (patch : Patch) : patch.atop patch = patch :=
  ext_said fun knob => by simp

theorem atop_empty (patch : Patch) : patch.atop {} = patch :=
  ext_said fun knob => by simp

theorem empty_atop (patch : Patch) : atop {} patch = patch :=
  ext_said fun knob => by simp

/-! ### Any number of layers -/

/-- Among several layers the first one that says anything decides. -/
theorem said_foldr_atop (knob : Knob) (layers : List Patch) :
    knob.said (layers.foldr atop {}) = layers.findSome? knob.said := by
  induction layers with
  | nil => exact said_empty knob
  | cons layer layers ih =>
      rw [List.foldr_cons, said_atop, ih, List.findSome?_cons]
      cases knob.said layer <;> rfl

/-- It does not matter from which end layers are laid over each other. -/
theorem ofLayers_eq_foldr (layers : List Patch) : ofLayers layers = layers.foldr atop {} := by
  cases layers with
  | nil => rfl
  | cons upper layers =>
      have gathers : ∀ upper, layers.foldl atop upper = upper.atop (layers.foldr atop {}) := by
        induction layers with
        | nil => exact fun upper => (atop_empty upper).symm
        | cons next layers ih =>
            intro upper
            rw [List.foldl_cons, ih, List.foldr_cons, atop_assoc]
      exact gathers upper

/-- Applying several layers, the lowest first, comes to what each of them says. -/
theorem value_foldr_applyTo (knob : Knob) (layers : List Patch) (base : Configuration) :
    knob.value (layers.foldr applyTo base) =
      (layers.findSome? knob.said).getD (knob.value base) := by
  induction layers with
  | nil => rfl
  | cons layer layers ih =>
      rw [List.foldr_cons, value_applyTo, ih, List.findSome?_cons]
      cases knob.said layer <;> rfl

/-- Layers laid over each other are applied like the same layers one after another. -/
theorem applyTo_ofLayers (layers : List Patch) (base : Configuration) :
    (ofLayers layers).applyTo base = layers.foldr applyTo base :=
  Configuration.ext_value fun knob => by
    rw [value_applyTo, ofLayers_eq_foldr, said_foldr_atop, value_foldr_applyTo]

/-- What a request decides, then what lies beneath it, then what is documented. -/
theorem value_atop_documented (knob : Knob) (upper lower : Patch) :
    knob.value ⟨(upper.atop lower).globalConfig, (upper.atop lower).pluginConfig⟩ =
      (knob.said upper).getD ((knob.said lower).getD knob.documented) := by
  have applied := value_applyTo knob (upper.atop lower) ⟨{}, {}⟩
  have blank : knob.value ⟨{}, {}⟩ = knob.documented := by cases knob <;> rfl
  rw [blank, said_atop] at applied
  refine applied.trans ?_
  cases knob.said upper <;> rfl

end Patch

/-! ## What a plugin is made to commit -/

/-- What a host has dictated to a plugin: the bytes written last, those appended since the shared
bytes were cleared, and the configurations that were to be committed. -/
structure Dictation where
  staged : Bytes := []
  shared : Bytes := []
  committed : List (Scope × Bytes) := []

namespace Dictation

/-- One more operation. -/
def step (d : Dictation) : Letter → Dictation
  | .write _ bytes => { d with staged := bytes }
  | .call .clearShared _ => { d with shared := [] }
  | .call .appendStaged [count] => { d with shared := d.shared ++ d.staged.take count.toNat }
  | .call .setGlobalConfig _ => { d with committed := d.committed ++ [(.global, d.shared)] }
  | .call .setPluginConfig _ => { d with committed := d.committed ++ [(.plugin, d.shared)] }
  | _ => d

/-- One operation after another. -/
def run (d : Dictation) (word : List Letter) : Dictation :=
  word.foldl step d

theorem run_append (d : Dictation) (first second : List Letter) :
    d.run (first ++ second) = (d.run first).run second :=
  List.foldl_append

/-- What has been committed stays so. -/
theorem committed_prefix_run (d : Dictation) (word : List Letter) :
    d.committed <+: (d.run word).committed := by
  induction word generalizing d with
  | nil => exact List.prefix_refl _
  | cons letter word ih =>
      have here : d.committed <+: (d.step letter).committed := by
        unfold step
        split
        · exact List.prefix_refl _
        · exact List.prefix_refl _
        · exact List.prefix_refl _
        · exact List.prefix_append _ _
        · exact List.prefix_append _ _
        · exact List.prefix_refl _
      exact here.trans (ih _)

/-- By every word of the language, these bytes come to be shared, and these configurations to be
committed. -/
def Brings (d : Dictation) (language : Language Letter) (shared : Bytes)
    (committed : List (Scope × Bytes)) : Prop :=
  ∀ word ∈ language, (d.run word).shared = shared ∧ (d.run word).committed = committed

namespace Brings

variable {d : Dictation} {first second : Language Letter} {shared shared' : Bytes}
variable {committed committed' : List (Scope × Bytes)}

theorem mul (brings : d.Brings first shared committed)
    (goesOn : ∀ d' : Dictation, d'.shared = shared → d'.committed = committed →
      d'.Brings second shared' committed') : d.Brings (first * second) shared' committed' := by
  rintro _ ⟨before, mem, after, mem', rfl⟩
  obtain ⟨shares, commits⟩ := brings before mem
  have rest := goesOn (d.run before) shares commits after mem'
  rw [← run_append] at rest
  exact rest

/-- A call that is neither about the shared bytes nor about the configurations. -/
theorem call {callee : Export} {args : List Int} (idle : d.step (.call callee args) = d) :
    d.Brings (Protocol.call callee args) d.shared d.committed := by
  rintro _ rfl
  have same : d.run [.call callee args] = d := idle
  rw [same]
  exact ⟨rfl, rfl⟩

theorem one : d.Brings 1 d.shared d.committed := by
  rintro _ rfl
  exact ⟨rfl, rfl⟩

theorem sentChunk (chunk : Bytes) :
    d.Brings (Protocol.sentChunk chunk) (d.shared ++ chunk) d.committed := by
  rintro _ ⟨_, ⟨_, rfl, _, rfl, rfl⟩, _, ⟨_, ⟨offset, rfl⟩, _, rfl, rfl⟩, rfl⟩
  simp [run, step]

/-- The chunks of a payload make up the payload. -/
theorem sending (payload : Bytes) :
    d.Brings (Protocol.sending payload) (d.shared ++ payload) d.committed := by
  intro word sent
  induction sent generalizing d with
  | last sent => exact sentChunk _ _ sent
  | @more chunk rest first later something unsent sent goesOn ih =>
      obtain ⟨shares, commits⟩ := sentChunk (d := d) chunk first sent
      have after := @ih (d.run first)
      rw [shares, commits, List.append_assoc] at after
      rw [run_append]
      exact after

theorem transfer (payload : Bytes) :
    d.Brings (Protocol.transfer payload) payload d.committed := by
  have cleared : d.Brings (Protocol.call .clearShared [payload.length]) [] d.committed := by
    rintro _ rfl
    exact ⟨rfl, rfl⟩
  refine cleared.mul fun d' shares commits => ?_
  have sent := Brings.sending (d := d') payload
  rw [shares, commits] at sent
  exact sent

/-- What is shared when a scope is committed is what is committed for it. -/
theorem commit (scope : Scope) :
    d.Brings (Protocol.call scope.commitExport []) d.shared
      (d.committed ++ [(scope, d.shared)]) := by
  rintro _ rfl
  cases scope <;> exact ⟨rfl, rfl⟩

theorem committing (scope : Scope) (payload : Bytes) :
    d.Brings (Protocol.transfer payload * Protocol.call scope.commitExport []) payload
      (d.committed ++ [(scope, payload)]) := by
  refine (transfer payload).mul fun d' shares commits => ?_
  have committed := commit (d := d') scope
  rw [shares, commits] at committed
  exact committed

theorem configuration (patch : Patch) :
    d.Brings (Protocol.configuration patch)
      (Utf8.encode (PluginConfig.schema.print patch.pluginConfig))
      (d.committed ++ [(.global, Utf8.encode (GlobalConfig.schema.print patch.globalConfig)),
        (.plugin, Utf8.encode (PluginConfig.schema.print patch.pluginConfig))]) := by
  refine (committing .global _).mul fun d' _ commits => ?_
  have committed := committing (d := d') .plugin
    (Utf8.encode (PluginConfig.schema.print patch.pluginConfig))
  rw [commits, List.append_assoc] at committed
  exact committed

theorem submission (path text : String) :
    d.Brings (Protocol.submission path text) (Utf8.encode text) d.committed := by
  refine (transfer _).mul fun d₁ _ commits₁ => ?_
  refine (call rfl).mul fun d₂ _ commits₂ => ?_
  have sent := transfer (d := d₂) (Utf8.encode text)
  rw [commits₂, commits₁] at sent
  exact sent

theorem fetchedChunk (start count : Nat) :
    d.Brings (Protocol.fetchedChunk start count) d.shared d.committed := by
  rintro _ ⟨_, ⟨_, rfl, _, rfl, rfl⟩, _, ⟨_, rfl, _, ⟨_, ⟨_, rfl, _, rfl, rfl⟩, _, ⟨offset, rfl⟩,
    rfl⟩, rfl⟩, rfl⟩
  exact ⟨rfl, rfl⟩

theorem fetching (total received : Nat) :
    d.Brings (Protocol.fetching total received) d.shared d.committed := by
  intro word fetched
  induction fetched generalizing d with
  | all => exact ⟨rfl, rfl⟩
  | @more received count first later something within fetched goesOn ih =>
      obtain ⟨shares, commits⟩ := fetchedChunk (d := d) received count first fetched
      have after := @ih (d.run first)
      rw [shares, commits] at after
      rw [run_append]
      exact after

theorem consultation (code : Int32) (length : Nat) :
    d.Brings (Protocol.consultation code length) d.shared d.committed := by
  have retrieved : ∀ {d : Dictation} {callee : Export}, d.step (.call callee []) = d →
      d.Brings (Protocol.call callee [] * Protocol.fetching length 0) d.shared d.committed := by
    intro d callee idle
    refine (call idle).mul fun d' shares commits => ?_
    rw [← shares, ← commits]
    exact fetching length 0
  refine (call rfl).mul fun d' shares commits => ?_
  rw [← shares, ← commits]
  split
  · exact retrieved rfl
  · split
    · exact retrieved rfl
    · exact one

/-- A request that is not refused has both configurations of its patch committed, and nothing
else. -/
theorem request {request : Request} (fine : request.patch.globalConfig.problem? = none)
    (code : Int32) (length : Nat) :
    d.Brings (Protocol.request request code length) (Utf8.encode request.text)
      (d.committed ++ [
        (.global, Utf8.encode (GlobalConfig.schema.print request.patch.globalConfig)),
        (.plugin, Utf8.encode (PluginConfig.schema.print request.patch.pluginConfig))]) := by
  rw [Protocol.request, if_pos ((GlobalConfig.problem?_eq_none_iff _).mp fine)]
  refine (call rfl).mul fun d₁ _ commits => ?_
  rw [← commits]
  refine (configuration _).mul fun d₂ _ commits => ?_
  rw [← commits]
  refine (submission _ _).mul fun d₃ shares commits => ?_
  rw [← shares, ← commits]
  exact consultation code length

theorem request_of_problem {request : Request} {problem : String}
    (known : request.patch.globalConfig.problem? = some problem) (code : Int32) (length : Nat) :
    d.Brings (Protocol.request request code length) d.shared d.committed := by
  have zero : ¬ (request.patch.globalConfig.lineWidth ≠ 0 ∧
      request.patch.globalConfig.indentWidth ≠ 0) := by
    rw [← GlobalConfig.problem?_eq_none_iff, known]
    exact Option.some_ne_none problem
  rw [Protocol.request, if_neg zero, mul_one]
  exact call rfl

end Brings

end Dictation

namespace Configuration

/-- The texts of a configuration, in the order in which they are committed. -/
def texts (config : Configuration) : List (Scope × Bytes) :=
  [(.global, Utf8.encode (GlobalConfig.schema.print config.global)),
    (.plugin, Utf8.encode (PluginConfig.schema.print config.plugin))]

end Configuration

/-- The configuration that a patch makes of the documented one. -/
def Patch.configuration (patch : Patch) : Configuration where
  global := patch.globalConfig
  plugin := patch.pluginConfig

/-- A request that is refused does not succeed. -/
theorem formatWith_of_problem {σ : Type} (guest : Guest σ) {request : Request} {problem : String}
    (known : request.patch.globalConfig.problem? = some problem) (s : σ) :
    ∃ failure, (formatWith guest request s).1 = .error failure := by
  have refused : Config.push guest request.patch =
      Exchange.fail (.serialization Scope.global.name problem) := by
    rw [Config.push, known]
  rw [formatWith_eq, Invocation.conversation, refused]
  cases reset : guest.callUnit .resetConfig [] s with
  | mk outcome s' =>
      cases outcome with
      | error failure => exact ⟨failure, by rw [Exchange.bind_of_error reset]⟩
      | ok _ =>
          rw [Exchange.bind_of_ok reset, Exchange.bind_of_error (Exchange.fail_apply _ s')]
          exact ⟨_, rfl⟩

/-- As far as a request gets, it has the configuration of its patch committed, the global one
first. -/
theorem formatWith_commits {σ : Type} {guest : Guest σ} (exact : guest.ReadsExactly)
    (request : Request) (r : Recorded σ) :
    ∃ events, (formatWith guest.recorded request r).2.events = r.events ++ events ∧
      (Dictation.run {} (letters events)).committed <+: request.patch.configuration.texts ∧
      ∀ output, (formatWith guest.recorded request r).1 = .ok output →
        (Dictation.run {} (letters events)).committed = request.patch.configuration.texts := by
  have ends := request_performs exact request r
  cases fine : request.patch.globalConfig.problem? with
  | none =>
      cases run : formatWith guest.recorded request r with
      | mk outcome r' =>
          cases outcome with
          | ok output =>
              obtain ⟨events, appended, code, length, -, mem⟩ := ends.good_of_ok run
              have all := (Dictation.Brings.request (d := {}) fine code _ _ mem).2
              exact ⟨events, appended, all ▸ List.prefix_refl _, fun _ _ => all⟩
          | error failure =>
              obtain ⟨events, appended, code, length, -, word, mem, rest, rfl⟩ :=
                ends.bad_of_error run
              have all := (Dictation.Brings.request (d := {}) fine code _ _ mem).2
              have grows := Dictation.committed_prefix_run (Dictation.run {} (letters events)) rest
              rw [← Dictation.run_append, all] at grows
              exact ⟨events, appended, grows, nofun⟩
  | some problem =>
      obtain ⟨failure, failed⟩ := formatWith_of_problem guest.recorded fine r
      cases run : formatWith guest.recorded request r with
      | mk outcome r' =>
          rw [run] at failed
          cases failed
          obtain ⟨events, appended, code, length, -, word, mem, rest, rfl⟩ := ends.bad_of_error run
          have all := (Dictation.Brings.request_of_problem (d := {}) fine code _ _ mem).2
          have grows := Dictation.committed_prefix_run (Dictation.run {} (letters events)) rest
          rw [← Dictation.run_append, all] at grows
          exact ⟨events, appended, grows.trans List.nil_prefix, nofun⟩

/-- Whenever a conforming plugin is to format the text of a request, it knows the configuration of
the patch. -/
theorem formatWith_formatsWhere {σ : Type} {guest : Guest σ} {view : σ → Option PluginView}
    {mishap : σ → Prop} {formatter : Formatter} (retains : Retains mishap guest view formatter)
    {w : Watched σ} {p : PluginView} (seen : view w.guest = some p) (request : Request) :
    FormatsWhere view (InForce request.patch request.path request.text) w
      (formatWith guest.watched request w).2 := by
  have ends : (formatWith guest.watched request).Ends w
      (fun _ => FormatsWhere view (InForce request.patch request.path request.text) w)
      (fun _ => FormatsWhere view (InForce request.patch request.path request.text) w) := by
    rw [formatWith_eq, Invocation.conversation, ← bind_assoc]
    refine .andThen (applyConfig_ends retains seen request.patch) ?_
      fun _ _ holds => .of_same holds.2
    rintro _ w₁ ⟨⟨p₁, seen₁, configured⟩, same₁⟩
    refine .andThen (submit_ends retains seen₁ configured request.path request.text) ?_ ?_
    · rintro verdict w₂ ⟨⟨p₂, seen₂, covered⟩, moments, appended, each⟩
      have kept : ∀ {w₃ : Watched σ}, w₃.consulted = w₂.consulted →
          FormatsWhere view (InForce request.patch request.path request.text) w w₃ :=
        fun same => ⟨moments, by rw [same, appended, same₁], each⟩
      exact (collect_ends retains seen₂ covered request.text).mono (fun _ _ holds => kept holds.2)
        fun _ _ holds => kept holds.2
    · rintro _ w₂ ⟨-, moments, appended, each⟩
      exact ⟨moments, by rw [appended, same₁], each⟩
  exact ends.state (fun _ _ holds => holds) fun _ _ holds => holds

/-! ## Instances -/

/-- The configuration that an instance serves a request with. -/
def FormatterInstance.configuration {σ : Type} (inst : FormatterInstance σ) (request : Request) :
    Configuration :=
  (inst.effective request).patch.configuration

theorem Response.ok_of_answered {α : Type} {policy : ContractPolicy} {outcome : Except Failure α}
    {value : α} (told : ofPolicy policy outcome = .answered (.ok value)) : outcome = .ok value := by
  cases outcome with
  | ok result =>
      cases told
      rfl
  | error failure =>
      rw [ofPolicy] at told
      split at told <;> cases told

/-- Several layers decide knob by knob, the uppermost first, and it does not matter whether they are
laid over each other before they are applied.  So an instance serves a request with what the request
says, then what its defaults say, then what is documented; this is what any plugin is made to
commit, this is what a conforming plugin knows when it is to format, and the defaults stay. -/
theorem layers_decide :
    (∀ (layers : List Patch) (base : Configuration),
      Patch.ofLayers layers = layers.foldr Patch.atop {} ∧
      (Patch.ofLayers layers).applyTo base = layers.foldr Patch.applyTo base ∧
      ∀ knob : Knob, knob.value ((Patch.ofLayers layers).applyTo base) =
        (layers.findSome? knob.said).getD (knob.value base)) ∧
    (∀ upper middle lower : Patch,
      (upper.atop middle).atop lower = upper.atop (middle.atop lower)) ∧
    (∀ patch : Patch,
      patch.atop patch = patch ∧ patch.atop {} = patch ∧ Patch.atop {} patch = patch) ∧
    (∀ {σ : Type} (inst : FormatterInstance σ) (request : Request) (knob : Knob),
      knob.value (inst.configuration request) =
        (knob.said request.patch).getD ((knob.said inst.defaults).getD knob.documented)) ∧
    (∀ {σ : Type} {guest : Guest σ}, guest.ReadsExactly →
      ∀ (inst : FormatterInstance (Recorded σ)) (timing : Timing) (request : Request),
        ∃ events, (inst.format guest.recorded timing request).2.plugin.events =
            inst.plugin.events ++ events ∧
          (Dictation.run {} (letters events)).committed <+:
            (inst.configuration request).texts ∧
          ∀ output, (inst.format guest.recorded timing request).1 = .answered (.ok output) →
            (Dictation.run {} (letters events)).committed =
              (inst.configuration request).texts) ∧
    (∀ {σ : Type} {mishap : σ → Prop} {guest : Guest σ} {view : σ → Option PluginView}
      {formatter : Formatter}, Retains mishap guest view formatter →
      ∀ (inst : FormatterInstance (Watched σ)) (p : PluginView),
        view inst.plugin.guest = some p → ∀ (timing : Timing) (request : Request),
          ∃ moments, (inst.format guest.watched timing request).2.plugin.consulted =
              moments ++ inst.plugin.consulted ∧
            ∀ moment ∈ moments, ∃ p', view moment = some p' ∧
              p'.kept.globalConfig =
                some (GlobalConfig.schema.print (inst.configuration request).global) ∧
              p'.kept.pluginConfig =
                some (PluginConfig.schema.print (inst.configuration request).plugin)) ∧
    (∀ config : Configuration,
      GlobalConfig.schema.parse (GlobalConfig.schema.print config.global) = .ok config.global ∧
      PluginConfig.schema.parse (PluginConfig.schema.print config.plugin) = .ok config.plugin) ∧
    ∀ {σ : Type} (guest : Guest σ) (inst : FormatterInstance σ) (timing : Timing)
      (request : Request), (inst.format guest timing request).2.defaults = inst.defaults := by
  refine ⟨fun layers base => ⟨Patch.ofLayers_eq_foldr layers, Patch.applyTo_ofLayers layers base,
    fun knob => ?_⟩, Patch.atop_assoc, fun patch => ⟨patch.atop_self, patch.atop_empty,
    patch.empty_atop⟩, fun inst request knob => ?_, ?_, ?_, fun config => ⟨?_, ?_⟩,
    fun _ _ _ _ => rfl⟩
  · rw [Patch.applyTo_ofLayers, Patch.value_foldr_applyTo]
  · exact Patch.value_atop_documented knob request.patch inst.defaults
  · intro σ guest exact inst timing request
    obtain ⟨events, appended, begins, whole⟩ :=
      formatWith_commits exact (inst.effective request) inst.plugin
    refine ⟨events, appended, begins, fun output told => ?_⟩
    exact whole output (Response.ok_of_answered told)
  · intro σ mishap guest view formatter retains inst p seen timing request
    obtain ⟨moments, appended, each⟩ :=
      formatWith_formatsWhere retains seen (inst.effective request)
    refine ⟨moments, appended, fun moment mem => ?_⟩
    obtain ⟨p', seen', inForce⟩ := each moment mem
    exact ⟨p', seen', inForce.globalConfig, inForce.pluginConfig⟩
  · exact GlobalConfig.schema_faithful.parse_print _
  · exact PluginConfig.schema_faithful.parse_print _

end FormatterHost
