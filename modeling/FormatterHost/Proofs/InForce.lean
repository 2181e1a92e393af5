import FormatterHost.Proofs.Steps
import FormatterHost.Proofs.Watched

/-!
# What is in force when a text is formatted

The steps of an invocation can be taken in any order, fail anywhere, be taken again and be given up
at any point, and then the next invocation goes on with the same plugin.  All the same, whenever the
plugin is to format a text, both its configurations are those that this very invocation has applied,
and its path and its shared bytes are those of the step that is under way.

What carries the proof is what is known of the plugin at each stage of an invocation.
-/

namespace FormatterHost

variable {σ α : Type}

/-! ## What is in force -/

/-- The plugin has been told both complete configurations that a patch gives, and plugins can honour
them. -/
structure Configured (patch : Patch) (p : PluginView) : Prop where
  globalConfig : p.kept.globalConfig = some (GlobalConfig.schema.print patch.globalConfig)
  pluginConfig : p.kept.pluginConfig = some (PluginConfig.schema.print patch.pluginConfig)
  lineWidth_pos : 1 ≤ patch.globalConfig.lineWidth.toNat
  indentWidth_pos : 1 ≤ patch.globalConfig.indentWidth.toNat

/-- The plugin has been told a configuration, a path and a text. -/
structure InForce (patch : Patch) (path text : String) (p : PluginView) : Prop
    extends Configured patch p where
  path_eq : p.kept.path = some path
  shared_eq : p.shared = Utf8.encode text

theorem Configured.of_configs_eq {patch : Patch} {p p' : PluginView}
    (configured : Configured patch p) (global : p'.kept.globalConfig = p.kept.globalConfig)
    (own : p'.kept.pluginConfig = p.kept.pluginConfig) : Configured patch p' where
  globalConfig := global.trans configured.globalConfig
  pluginConfig := own.trans configured.pluginConfig
  lineWidth_pos := configured.lineWidth_pos
  indentWidth_pos := configured.indentWidth_pos

/-- Whether the bytes that a verdict speaks of are among those given. -/
def Verdict.Covered (shared : Bytes) : Verdict → Prop
  | .formatted length | .errored length =>
    length.toNat ≤ shared.length ∧ length.toNat ≤ Transport.maxPayload
  | _ => True

/-- What is seen of a plugin at a stage of an invocation, given the patch that was applied last. -/
def Stage.Shows (applied : Option Patch) (p : PluginView) : Stage → Prop
  | .configured => ∃ patch, applied = some patch ∧ Configured patch p
  | .invoked verdict => verdict.Covered p.shared
  | _ => True

/-! ## What the parts of an invocation do -/

section Parts

variable {guest : Guest σ} {view : σ → Option PluginView} {mishap : σ → Prop}
variable {formatter : Formatter} {w : Watched σ} {p : PluginView} {patch : Patch}

/-- Sending a text changes nothing that is kept, whatever comes of it. -/
theorem sendText_ends (retains : Retains mishap guest view formatter)
    (seen : view w.guest = some p) (text : String) :
    (Transport.sendText guest.watched text).Ends w
      (fun _ w' => (∃ p', view w'.guest = some p' ∧ p'.kept = p.kept ∧
          p'.shared = Utf8.encode text ∧ (Utf8.encode text).length ≤ Transport.maxPayload) ∧
        w'.consulted = w.consulted)
      (fun _ w' => (∃ p', view w'.guest = some p' ∧ p'.kept = p.kept) ∧
        w'.consulted = w.consulted) := by
  rw [Transport.sendText]
  cases accepted : Transport.refusal? (Utf8.encode text) with
  | some failure =>
      rw [send_of_refusal accepted]
      exact .fail ⟨⟨p, seen, rfl⟩, rfl⟩
  | none =>
      have short := length_le_of_refusal accepted
      have shares := (guest.watched_wraps.conforms retains.toConforms).toSharesBytes
      have nothing := (FormatsNothing.inherited guest).send (Utf8.encode text)
      refine (nothing.and_leads (send_leads shares seen short)).mono ?_ fun _ _ holds => holds
      rintro _ w' ⟨⟨p', seen', shared, kept⟩, same⟩
      exact ⟨⟨p', seen', kept, shared, short⟩, same⟩

/-- A path is told without a change to the configurations. -/
theorem tellPath_ends (retains : Retains mishap guest view formatter)
    (seen : view w.guest = some p) (configured : Configured patch p) (path : String) :
    (do
        Transport.sendText guest.watched path
        guest.watched.callUnit .setFilePath []).Ends w
      (fun _ w' => (∃ p', view w'.guest = some p' ∧ Configured patch p' ∧
        p'.kept.path = some path) ∧ w'.consulted = w.consulted)
      (fun _ w' => (∃ p', view w'.guest = some p' ∧ Configured patch p') ∧
        w'.consulted = w.consulted) := by
  refine .andThen (sendText_ends retains seen path) ?_ ?_
  · rintro _ w' ⟨⟨p', seen', kept, shared, -⟩, same⟩
    have conforms := guest.watched_wraps.conforms retains.toConforms
    have nothing := (FormatsNothing.inherited guest).callUnit .setFilePath [] rfl
    have told := Leads.callUnit (conforms.keep w' p' seen' .path path shared)
    have still := configured.of_configs_eq (congrArg _ kept) (congrArg _ kept)
    refine (nothing.and_leads told).mono ?_ ?_
    · rintro _ w'' ⟨⟨p'', seen'', put⟩, same'⟩
      refine ⟨⟨p'', seen'', still.of_configs_eq ?_ ?_, ?_⟩, same'.trans same⟩
      · rw [put, Kept.put]
      · rw [put, Kept.put]
      · rw [put, Kept.put]
    · rintro _ w'' ⟨⟨p'', seen'', rfl⟩, same'⟩
      exact ⟨⟨p'', seen'', still⟩, same'.trans same⟩
  · rintro _ w' ⟨⟨p', seen', kept⟩, same⟩
    exact ⟨⟨p', seen', configured.of_configs_eq (congrArg _ kept) (congrArg _ kept)⟩, same⟩

/-- When the text is formatted, the state of that moment is remembered; the configurations stay. -/
theorem format_ends (retains : Retains mishap guest view formatter)
    (seen : view w.guest = some p) {path text : String} (inForce : InForce patch path text p)
    (short : (Utf8.encode text).length ≤ Transport.maxPayload) :
    ((guest.watched.callInt .format []).mapFailure recoverTrap).Ends w
      (fun code w' => (∃ p', view w'.guest = some p' ∧ Configured patch p' ∧
          (code = Verdict.formattedCode ∨ code = Verdict.erroredCode →
            p'.report.length ≤ Transport.maxPayload)) ∧
        w'.consulted = w.guest :: w.consulted)
      (fun _ w' => (∃ p', view w'.guest = some p' ∧ Configured patch p') ∧
        w'.consulted = w.guest :: w.consulted) := by
  have kept : p.kept = ⟨some (GlobalConfig.schema.print patch.globalConfig),
      some (PluginConfig.schema.print patch.pluginConfig), some path⟩ := by
    rw [← inForce.globalConfig, ← inForce.pluginConfig, ← inForce.path_eq]
  have watched := guest.watched_wraps.retains retains
  have ends := watched.format w p seen path _ _ text kept inForce.shared_eq short
  have remembered : (guest.watched.call .format [] w).2.consulted = w.guest :: w.consulted := rfl
  have configured : ∀ p', view (guest.watched.call .format [] w).2.guest = some p' →
      Configured patch p' := by
    intro p' seen'
    have same := watched.retains w p seen .format rfl p' seen'
    exact inForce.toConfigured.of_configs_eq (congrArg _ same) (congrArg _ same)
  refine .mapFailure (Guest.callInt_ends ?_)
  constructor
  · intro answer w' ran
    rw [ran] at remembered configured
    obtain ⟨code, report, p', -, rfl, seen', reported⟩ := ends.good_of_ok ran
    refine ⟨code, rfl, ⟨p', seen', configured p' seen', ?_⟩, remembered⟩
    intro reports
    rw [(reported reports).1]
    exact (reported reports).2
  · intro failure w' ran
    rw [ran] at remembered configured
    rcases ends.bad_of_error ran with ⟨detail, p', -, -, seen'⟩ | ⟨-, seen'⟩
    · exact ⟨⟨p', seen', configured p' seen'⟩, remembered⟩
    · exact ⟨⟨p, seen', configured p seen'⟩, remembered⟩

/-- The plugin is asked for a verdict that speaks of bytes which are there. -/
theorem resolveCode_ends (retains : Retains mishap guest view formatter)
    (seen : view w.guest = some p) {code : Int32}
    (reported : code = Verdict.formattedCode ∨ code = Verdict.erroredCode →
      p.report.length ≤ Transport.maxPayload) :
    (Verdict.resolve guest.watched code).Ends w
      (fun verdict w' => (∃ p', view w'.guest = some p' ∧ verdict.Covered p'.shared) ∧
        w'.consulted = w.consulted)
      (fun _ w' => view w'.guest = some p ∧ w'.consulted = w.consulted) := by
  have conforms := guest.watched_wraps.conforms retains.toConforms
  have staged : ∀ {callee : Export}, callee = .getFormattedText ∨ callee = .getErrorText →
      p.report.length ≤ Transport.maxPayload →
      (Verdict.stagedLength guest.watched callee).Ends w
        (fun length w' => (∃ p', view w'.guest = some p' ∧ length.toNat ≤ p'.shared.length ∧
          length.toNat ≤ Transport.maxPayload) ∧ w'.consulted = w.consulted)
        (fun _ w' => view w'.guest = some p ∧ w'.consulted = w.consulted) := by
    intro callee reports short
    have other : callee ≠ .format := by rcases reports with rfl | rfl <;> nofun
    have nothing : FormatsNothing (Verdict.stagedLength guest.watched callee) := .stagedLength other
    refine (nothing.and_leads (stagedLength_leads conforms seen short reports)).mono ?_ ?_
    · rintro length w' ⟨⟨p', seen', counted, shared⟩, same⟩
      have there : length.toNat ≤ p'.shared.length := Nat.le_of_eq (by rw [counted, shared])
      exact ⟨⟨p', seen', there, by rw [counted]; exact short⟩, same⟩
    · rintro failure w' ⟨⟨p', seen', rfl⟩, same⟩
      exact ⟨seen', same⟩
  rw [Verdict.resolve]
  split
  · exact .pure ⟨⟨p, seen, trivial⟩, rfl⟩
  · split
    · exact .andThen (staged (.inl rfl) (reported (.inl ‹_›))) (fun _ _ holds => .pure holds)
        fun _ _ holds => holds
    · split
      · exact .andThen (staged (.inr rfl) (reported (.inr ‹_›))) (fun _ _ holds => .pure holds)
          fun _ _ holds => holds
      · exact .pure ⟨⟨p, seen, trivial⟩, rfl⟩

/-- Configurations are applied without a text being formatted. -/
theorem applyConfig_ends (retains : Retains mishap guest view formatter)
    (seen : view w.guest = some p) (patch : Patch) :
    (do
        guest.watched.callUnit .resetConfig []
        Config.push guest.watched patch).Ends w
      (fun _ w' => (∃ p', view w'.guest = some p' ∧ Configured patch p') ∧
        w'.consulted = w.consulted)
      (fun _ w' => (∃ p', view w'.guest = some p') ∧ w'.consulted = w.consulted) := by
  have conforms := guest.watched_wraps.conforms retains.toConforms
  have inherited := FormatsNothing.inherited guest
  have resets := (inherited.callUnit .resetConfig [] rfl).and_leads
    (Leads.callUnit (conforms.reset w p seen))
  refine .andThen resets ?_ fun _ w' holds => ⟨⟨p, by simpa using holds.1⟩, holds.2⟩
  rintro _ w' ⟨⟨p', seen', -⟩, same⟩
  cases fine : patch.globalConfig.problem? with
  | some problem =>
      rw [Config.push, fine]
      exact .fail ⟨⟨p', seen'⟩, same⟩
  | none =>
      obtain ⟨line, indent⟩ := (GlobalConfig.problem?_eq_none_iff _).mp fine
      refine ((inherited.push patch).and_leads (push_leads conforms seen' fine)).mono ?_ ?_
      · rintro _ w'' ⟨⟨p'', seen'', kept⟩, same'⟩
        refine ⟨⟨p'', seen'', ?_, ?_, ?_, ?_⟩, same'.trans same⟩
        · rw [kept]
        · rw [kept]
        · exact Nat.pos_of_ne_zero fun zero => line (UInt32.toNat_inj.mp zero)
        · exact Nat.pos_of_ne_zero fun zero => indent (UInt32.toNat_inj.mp zero)
      · rintro _ w'' ⟨⟨p'', seen'', -⟩, same'⟩
        exact ⟨⟨p'', seen''⟩, same'.trans same⟩

/-- What is staged for a verdict is fetched without a text being formatted. -/
theorem collect_ends (retains : Retains mishap guest view formatter)
    (seen : view w.guest = some p) {verdict : Verdict} (covered : verdict.Covered p.shared)
    (submitted : String) :
    (Invocation.collect guest.watched submitted verdict).Ends w
      (fun _ w' => (∃ p', view w'.guest = some p') ∧ w'.consulted = w.consulted)
      (fun _ w' => (∃ p', view w'.guest = some p') ∧ w'.consulted = w.consulted) := by
  have shares := (guest.watched_wraps.conforms retains.toConforms).toSharesBytes
  have fetched : ∀ {length : UInt32}, length.toNat ≤ p.shared.length →
      length.toNat ≤ Transport.maxPayload →
      (Transport.receiveText guest.watched length).Ends w
        (fun _ w' => ∃ p', view w'.guest = some p')
        (fun _ w' => ∃ p', view w'.guest = some p') := by
    intro length there short
    rw [Transport.receiveText_eq]
    refine .andThen (receive_leads shares seen there short) ?_ ?_
    · rintro bytes w' ⟨p', seen', -⟩
      cases Transport.asText bytes with
      | ok text => exact .of_ok rfl ⟨p', seen'⟩
      | error failure => exact .of_error rfl ⟨p', seen'⟩
    · rintro _ w' ⟨-, p', seen', -⟩
      exact ⟨p', seen'⟩
  refine ((FormatsNothing.inherited guest).collect submitted verdict).and_ends ?_
  cases verdict with
  | unchanged => exact .pure ⟨p, seen⟩
  | formatted length =>
      exact .andThen (fetched covered.1 covered.2) (fun _ _ seen' => .pure seen')
        fun _ _ seen' => seen'
  | errored length =>
      exact .andThen (fetched covered.1 covered.2) (fun _ _ seen' => .fail seen')
        fun _ _ seen' => seen'
  | unknown code => exact .fail ⟨p, seen⟩

/-- Between two moments of a watched plugin, texts are formatted only in states of which `good` is
seen. -/
def FormatsWhere (view : σ → Option PluginView) (good : PluginView → Prop) (w w' : Watched σ) :
    Prop :=
  ∃ moments, w'.consulted = moments ++ w.consulted ∧
    ∀ s ∈ moments, ∃ p, view s = some p ∧ good p

theorem FormatsWhere.of_same {good : PluginView → Prop} {w w' : Watched σ}
    (same : w'.consulted = w.consulted) : FormatsWhere view good w w' :=
  ⟨[], same, List.forall_mem_nil _⟩

/-- A path and a text are submitted, and the text is formatted, if at all, when both of them are in
force together with the configurations. -/
theorem submit_ends (retains : Retains mishap guest view formatter)
    (seen : view w.guest = some p) (configured : Configured patch p) (path text : String) :
    (Invocation.submit guest.watched path text).Ends w
      (fun verdict w' => (∃ p', view w'.guest = some p' ∧ verdict.Covered p'.shared) ∧
        FormatsWhere view (InForce patch path text) w w')
      (fun _ w' => (∃ p', view w'.guest = some p' ∧ Configured patch p') ∧
        FormatsWhere view (InForce patch path text) w w') := by
  rw [Invocation.submit, ← bind_assoc]
  refine .andThen (tellPath_ends retains seen configured path) ?_ ?_
  · rintro _ w₁ ⟨⟨p₁, seen₁, configured₁, named⟩, same₁⟩
    refine .andThen (sendText_ends retains seen₁ text) ?_ ?_
    · rintro _ w₂ ⟨⟨p₂, seen₂, kept, shared, short⟩, same₂⟩
      have inForce : InForce patch path text p₂ :=
        { configured₁.of_configs_eq (congrArg _ kept) (congrArg _ kept) with
          path_eq := by rw [kept, named]
          shared_eq := shared }
      -- The one moment that is added is the state in which everything has been told.
      have moment : ∀ {w' : Watched σ}, w'.consulted = w₂.guest :: w₂.consulted →
          FormatsWhere view (InForce patch path text) w w' := by
        intro w' remembered
        refine ⟨[w₂.guest], ?_, List.forall_mem_singleton.mpr ⟨p₂, seen₂, inForce⟩⟩
        rw [remembered, same₂, same₁, List.singleton_append]
      refine .andThen (format_ends retains seen₂ inForce short) ?_ ?_
      · rintro code w₃ ⟨⟨p₃, seen₃, configured₃, reported⟩, remembered⟩
        refine (resolveCode_ends retains seen₃ reported).mono ?_ ?_
        · rintro verdict w₄ ⟨covered, same₄⟩
          exact ⟨covered, moment (same₄.trans remembered)⟩
        · rintro _ w₄ ⟨seen₄, same₄⟩
          exact ⟨⟨p₃, seen₄, configured₃⟩, moment (same₄.trans remembered)⟩
      · rintro _ w₃ ⟨still, remembered⟩
        exact ⟨still, moment remembered⟩
    · rintro _ w₂ ⟨⟨p₂, seen₂, kept⟩, same₂⟩
      have still := configured₁.of_configs_eq (congrArg _ kept) (congrArg _ kept)
      exact ⟨⟨p₂, seen₂, still⟩, .of_same (same₂.trans same₁)⟩
  · rintro _ w₁ ⟨still, same₁⟩
    exact ⟨still, .of_same same₁⟩

end Parts

/-! ## Steps -/

/-- What a stage changes and what it leaves decide what an advance comes to. -/
theorem Invocation.advance_ends {expected : Stage} {next : α → Stage} {x : Exchange σ α}
    {s : Invocation σ} {good : α → Invocation σ → Prop} {bad : Failure → Invocation σ → Prop}
    (refused : ∀ failure, bad failure s)
    (ends : s.stage = expected → x.Ends s.plugin
      (fun value plugin => good value ⟨plugin, next value⟩)
      (fun failure plugin => bad failure ⟨plugin, expected⟩)) :
    (advance expected next x).Ends s good bad := by
  rcases advance_cases expected next x s with
    ⟨-, detail, led⟩ | ⟨there, ⟨value, plugin, ran, led⟩ | ⟨failure, plugin, ran, led⟩⟩
  · exact .of_error led (refused _)
  · exact .of_ok led ((ends there).good_of_ok ran)
  · exact .of_error led ((ends there).bad_of_error ran)

/-- The patch that a step applies if it succeeds. -/
def Step.patch? : Step → Option Patch
  | applyConfig patch => some patch
  | _ => none

/-- What has to be seen of a plugin when a step has it format a text, given the patch that was
applied last. -/
def Step.Justifies (step : Step) (applied : Option Patch) (p : PluginView) : Prop :=
  ∃ path text patch, step = .invoke path text ∧ applied = some patch ∧ InForce patch path text p

/-- What is known of an invocation with a watched plugin, given the patch that was applied last. -/
def Invocation.Poised (view : σ → Option PluginView) (applied : Option Patch)
    (s : Invocation (Watched σ)) : Prop :=
  ∃ p, view s.plugin.guest = some p ∧ s.stage.Shows applied p

section Steps

variable {guest : Guest σ} {view : σ → Option PluginView} {mishap : σ → Prop}
variable {formatter : Formatter} {s : Invocation (Watched σ)} {applied : Option Patch}

/-- A step, whatever comes of it, leaves what is to be known at the stage that it leads to. -/
theorem Step.take_ends (retains : Retains mishap guest view formatter)
    (poised : s.Poised view applied) (step : Step) :
    (step.take guest.watched).Ends s
      (fun _ s' => s'.Poised view (step.patch? <|> applied) ∧
        FormatsWhere view (step.Justifies applied) s.plugin s'.plugin)
      (fun _ s' => s'.Poised view applied ∧
        FormatsWhere view (step.Justifies applied) s.plugin s'.plugin) := by
  obtain ⟨plugin, stage⟩ := s
  obtain ⟨p, seen, shows⟩ := poised
  have unchanged : Invocation.Poised view applied ⟨plugin, stage⟩ := ⟨p, seen, shows⟩
  cases step with
  | applyConfig patch =>
      refine .andThen (Invocation.advance_ends (fun _ => ⟨unchanged, .of_same rfl⟩) ?_)
        (fun _ _ holds => .pure holds) fun _ _ holds => holds
      rintro -
      refine (applyConfig_ends retains seen patch).mono ?_ ?_
      · rintro _ plugin' ⟨⟨p', seen', configured⟩, same⟩
        exact ⟨⟨p', seen', patch, rfl, configured⟩, .of_same same⟩
      · rintro _ plugin' ⟨⟨p', seen'⟩, same⟩
        exact ⟨⟨p', seen', trivial⟩, .of_same same⟩
  | invoke path text =>
      refine .andThen (Invocation.advance_ends (fun _ => ⟨unchanged, .of_same rfl⟩) ?_)
        (fun _ _ holds => .pure holds) fun _ _ holds => holds
      rintro rfl
      obtain ⟨patch, rfl, configured⟩ := shows
      have justifies : ∀ {w : Watched σ},
          FormatsWhere view (InForce patch path text) plugin w →
          FormatsWhere view ((Step.invoke path text).Justifies (some patch)) plugin w := by
        rintro w ⟨moments, appended, each⟩
        refine ⟨moments, appended, fun moment mem => ?_⟩
        obtain ⟨p', seen', inForce⟩ := each moment mem
        exact ⟨p', seen', path, text, patch, rfl, rfl, inForce⟩
      refine (submit_ends retains seen configured path text).mono ?_ ?_
      · rintro verdict plugin' ⟨⟨p', seen', covered⟩, formats⟩
        exact ⟨⟨p', seen', covered⟩, justifies formats⟩
      · rintro _ plugin' ⟨⟨p', seen', configured'⟩, formats⟩
        exact ⟨⟨p', seen', patch, rfl, configured'⟩, justifies formats⟩
  | resolve submitted =>
      have fetched : (Invocation.resolve guest.watched submitted).Ends ⟨plugin, stage⟩
          (fun _ s' => s'.Poised view applied ∧
            FormatsWhere view ((Step.resolve submitted).Justifies applied) plugin s'.plugin)
          (fun _ s' => s'.Poised view applied ∧
            FormatsWhere view ((Step.resolve submitted).Justifies applied) plugin s'.plugin) := by
        rcases Invocation.resolve_cases guest.watched submitted ⟨plugin, stage⟩ with
          ⟨-, detail, refused⟩ | ⟨verdict, outcome, plugin', rfl, collected, resolved⟩
        · exact .of_error refused ⟨unchanged, .of_same rfl⟩
        · have ends := collect_ends retains seen shows submitted
          cases outcome with
          | ok output =>
              obtain ⟨⟨p', seen'⟩, same⟩ := ends.good_of_ok collected
              exact .of_ok resolved ⟨⟨p', seen', trivial⟩, .of_same same⟩
          | error failure =>
              obtain ⟨⟨p', seen'⟩, same⟩ := ends.bad_of_error collected
              exact .of_error resolved ⟨⟨p', seen', trivial⟩, .of_same same⟩
      exact .andThen fetched (fun _ _ holds => .pure holds) fun _ _ holds => holds

end Steps

/-! ## One invocation after another -/

/-- The patch that a turn has applied, if it has applied any. -/
def Turn.applied? (turn : Turn σ) : Option Patch :=
  match turn.outcome with
  | .ok _ => turn.step.patch?
  | .error _ => none

/-- The patch that was applied last. -/
def lastApplied? (log : List (Turn σ)) : Option Patch :=
  (log.filterMap Turn.applied?).getLast?

theorem lastApplied?_cons (turn : Turn σ) (log : List (Turn σ)) (applied : Option Patch) :
    (lastApplied? (turn :: log) <|> applied) =
      (lastApplied? log <|> (turn.applied? <|> applied)) := by
  rw [lastApplied?, lastApplied?, List.filterMap_cons]
  cases turn.applied? with
  | none => rfl
  | some patch =>
      rw [List.getLast?_cons]
      cases (log.filterMap Turn.applied?).getLast? <;> rfl

/-- Where steps lead an invocation. -/
def Invocation.afterSteps (guest : Guest σ) (steps : List Step) (s : Invocation σ) : Invocation σ :=
  steps.foldl (fun s step => (step.turn guest s).after) s

/-- Takes the steps of one invocation after another.  Each of them begins anew, with the plugin as
the one before has left it. -/
def sessions (guest : Guest σ) : List (List Step) → σ → List (List (Turn σ))
  | [], _ => []
  | steps :: plans, plugin =>
    turns guest steps (.start plugin) ::
      sessions guest plans ((Invocation.start plugin).afterSteps guest steps).plugin

/-- All steps of all invocations are taken, in their order. -/
theorem map_step_sessions (guest : Guest σ) (plans : List (List Step)) (plugin : σ) :
    (sessions guest plans plugin).map (·.map Turn.step) = plans := by
  induction plans generalizing plugin with
  | nil => rfl
  | cons steps plans ih => rw [sessions, List.map_cons, map_step_turns, ih]

theorem step_turn_of_mem {guest : Guest σ} {steps : List Step} {s : Invocation σ} {turn : Turn σ}
    (mem : turn ∈ turns guest steps s) : ∃ s', turn = turn.step.turn guest s' := by
  induction steps generalizing s with
  | nil => cases mem
  | cons step steps ih =>
      rcases List.mem_cons.mp mem with rfl | later
      · exact ⟨s, rfl⟩
      · exact ih later

section Sessions

variable {guest : Guest σ} {view : σ → Option PluginView} {mishap : σ → Prop}
variable {formatter : Formatter}

/-- What one turn does to what is known of an invocation. -/
theorem Step.turn_poised (retains : Retains mishap guest view formatter)
    {s : Invocation (Watched σ)} {applied : Option Patch} (poised : s.Poised view applied)
    (step : Step) :
    (step.turn guest.watched s).after.Poised view
        ((step.turn guest.watched s).applied? <|> applied) ∧
      FormatsWhere view (step.Justifies applied) s.plugin
        (step.turn guest.watched s).after.plugin := by
  have ends := step.take_ends retains poised
  have taken := step.take_eq guest.watched s
  have same : (step.turn guest.watched s).step = step := rfl
  rw [Turn.applied?, same]
  cases outcome : (step.turn guest.watched s).outcome with
  | ok answer =>
      rw [outcome] at taken
      exact ends.good_of_ok taken
  | error failure =>
      rw [outcome] at taken
      exact ends.bad_of_error taken

/-- The steps of one invocation have texts formatted only where everything is in force, and they
leave the plugin in sight. -/
theorem turns_poised (retains : Retains mishap guest view formatter)
    {s : Invocation (Watched σ)} {applied : Option Patch} (poised : s.Poised view applied)
    (steps : List Step) :
    (∃ applied', (s.afterSteps guest.watched steps).Poised view applied') ∧
      ∀ earlier turn later, turns guest.watched steps s = earlier ++ turn :: later →
        FormatsWhere view (turn.step.Justifies (lastApplied? earlier <|> applied))
          turn.before.plugin turn.after.plugin := by
  induction steps generalizing s applied with
  | nil =>
      refine ⟨⟨applied, poised⟩, fun earlier turn later same => ?_⟩
      exact absurd same (by simp [turns])
  | cons step steps ih =>
      obtain ⟨poised', formats⟩ := step.turn_poised retains poised
      obtain ⟨final, rest⟩ := ih poised'
      refine ⟨final, fun earlier turn later same => ?_⟩
      cases earlier with
      | nil =>
          obtain ⟨rfl, -⟩ := List.cons.inj same
          exact formats
      | cons first earlier =>
          obtain ⟨rfl, same'⟩ := List.cons.inj same
          rw [lastApplied?_cons]
          exact rest earlier turn later same'

/-- An invocation that is at its beginning is poised as soon as its plugin is in sight. -/
theorem Invocation.Poised.start {w : Watched σ} {p : PluginView} (seen : view w.guest = some p) :
    (Invocation.start w).Poised view none :=
  ⟨p, seen, trivial⟩

/-- A configuration that no plugin can honour is not even begun to be sent. -/
theorem Step.resets_of_problem (guest : Guest σ) {patch : Patch}
    (problem : patch.globalConfig.problem? ≠ none) (s : Invocation σ) :
    ∀ event ∈ ((Step.applyConfig patch).turn guest s).events,
      ∃ outcome, event = .call .resetConfig [] outcome := by
  obtain ⟨detail, known⟩ := Option.ne_none_iff_exists'.mp problem
  have performs : Performs (do
        guest.recorded.callUnit .resetConfig []
        Config.push guest.recorded patch)
      (fun _ events => ∀ event ∈ events, ∃ outcome, event = .call .resetConfig [] outcome)
      (fun _ events => ∀ event ∈ events, ∃ outcome, event = .call .resetConfig [] outcome) := by
    have reset : Performs (guest.recorded.callUnit .resetConfig [])
        (fun _ events => ∀ event ∈ events, ∃ outcome, event = .call .resetConfig [] outcome)
        (fun _ events => ∀ event ∈ events, ∃ outcome, event = .call .resetConfig [] outcome) :=
      .callUnit (fun _ => List.forall_mem_singleton.mpr ⟨_, rfl⟩)
        fun _ => List.forall_mem_singleton.mpr ⟨_, rfl⟩
    refine reset.andThen ?_ fun _ _ holds => holds
    intro _ before resets
    rw [Config.push, known]
    refine .fail ?_
    rw [List.append_nil]
    exact resets
  rcases Invocation.advance_cases .idle (fun _ => .configured) (do
      guest.recorded.callUnit .resetConfig []
      Config.push guest.recorded patch) ⟨.start s.plugin, s.stage⟩ with
    ⟨-, detail, refused⟩ | ⟨-, ⟨value, r, ran, led⟩ | ⟨failure, r, ran, led⟩⟩
  · rw [turn_of_take (Exchange.bind_of_error refused)]
    exact List.forall_mem_nil _
  · rw [turn_of_take (Exchange.bind_of_ok led)]
    exact performs.of_run ran
  · rw [turn_of_take (Exchange.bind_of_error led)]
    exact performs.of_run ran

/-- Whatever steps are taken in one invocation after another, and wherever they fail, a text is
formatted only while the plugin knows the two complete configurations that the same invocation
applied last, with positive widths, and the path and the text of the step that is under way.  Where
a width is zero, nothing but the reset is asked of the plugin. -/
theorem sessions_format_in_force (retains : Retains mishap guest view formatter) {s : σ}
    {p : PluginView} (seen : view s = some p) (plans : List (List Step)) :
    (sessions guest.watched plans (.start s)).map (·.map Turn.step) = plans ∧
      ∀ log ∈ sessions guest.watched plans (.start s),
        ∀ earlier turn later, log = earlier ++ turn :: later →
          (∃ moments, turn.after.plugin.consulted = moments ++ turn.before.plugin.consulted ∧
            ∀ moment ∈ moments, ∃ p', view moment = some p' ∧ ∃ path text patch,
              turn.step = .invoke path text ∧ lastApplied? earlier = some patch ∧
                InForce patch path text p') ∧
          ∀ patch, turn.step = .applyConfig patch →
            patch.globalConfig.lineWidth = 0 ∨ patch.globalConfig.indentWidth = 0 →
            ∀ event ∈ turn.events, ∃ outcome, event = .call .resetConfig [] outcome := by
  refine ⟨map_step_sessions guest.watched plans (.start s), ?_⟩
  generalize begun : Watched.start s = w
  have seen' : view w.guest = some p := by rw [← begun]; exact seen
  clear seen begun
  induction plans generalizing w p with
  | nil => exact List.forall_mem_nil _
  | cons steps plans ih =>
      obtain ⟨⟨applied, p', seenAfter, -⟩, formats⟩ :=
        turns_poised retains (Invocation.Poised.start seen') steps
      refine List.forall_mem_cons.mpr ⟨fun earlier turn later same => ⟨?_, ?_⟩, ih _ seenAfter⟩
      · have here := formats earlier turn later same
        have nothing : (lastApplied? earlier <|> none) = lastApplied? earlier := by
          cases lastApplied? earlier <;> rfl
        rw [nothing] at here
        exact here
      · intro patch taken zero
        have problem : patch.globalConfig.problem? ≠ none := by
          rw [Ne, GlobalConfig.problem?_eq_none_iff]
          exact fun positive => zero.elim positive.1 positive.2
        have mem : turn ∈ turns guest.watched steps (.start w) := by
          rw [same]
          exact List.mem_append_right earlier List.mem_cons_self
        obtain ⟨s', turned⟩ := step_turn_of_mem mem
        rw [taken] at turned
        rw [turned]
        exact Step.resets_of_problem guest.watched problem s'

end Sessions

/-! ## An example -/

namespace ScriptedPlugin

/-- Formatting leaves what is kept as it is. -/
theorem perform_keeps (plugin : ScriptedPlugin) (text : String) (action : Action) :
    (plugin.perform text action).2.globalConfig = plugin.globalConfig ∧
      (plugin.perform text action).2.pluginConfig = plugin.pluginConfig ∧
      (plugin.perform text action).2.path = plugin.path := by
  cases action <;> exact ⟨rfl, rfl, rfl⟩

theorem format_keeps (plugin : ScriptedPlugin) :
    plugin.format.2.globalConfig = plugin.globalConfig ∧
      plugin.format.2.pluginConfig = plugin.pluginConfig ∧ plugin.format.2.path = plugin.path := by
  rw [format]
  split
  · exact perform_keeps _ _ _
  · exact ⟨rfl, rfl, rfl⟩

/-- Scripted plugins with moderate rules retain what they are told. -/
theorem retains {rules : List Rule} (moderate : Moderate rules) :
    Retains never guest (view rules) (formatter rules) where
  toConforms := conforms moderate
  retains plugin p seen callee consults p' seen' := by
    obtain ⟨-, usable, rfl⟩ := view_eq_some_iff.mp seen
    obtain ⟨-, usable', rfl⟩ := view_eq_some_iff.mp seen'
    have kept : ((guest.call callee [] plugin).2.outside usable').kept =
        ⟨(guest.call callee [] plugin).2.globalConfig, (guest.call callee [] plugin).2.pluginConfig,
          (guest.call callee [] plugin).2.path⟩ := rfl
    rw [kept]
    cases callee with
    | format =>
        obtain ⟨global, own, named⟩ := plugin.format_keeps
        have after : (guest.call .format [] plugin).2 = plugin.format.2 := rfl
        rw [after, global, own, named]
        rfl
    | getFormattedText => rfl
    | getErrorText => rfl
    | _ => cases consults

end ScriptedPlugin

/-- A fault that strikes at the first reset. -/
def Faulty.stumble : InjectedFault :=
  ⟨.call .resetConfig, some 1, .failure (.execution "reset_config" "stopped")⟩

theorem sessions_format_in_force_after_stumbling :
    (sessions ScriptedPlugin.guest.faulty.watched
        [[.applyConfig {}, .applyConfig {}, .invoke "a.ts" "e", .invoke "a.ts" "f"],
          [.applyConfig { global := { lineWidth := some 0 } }, .invoke "b.ts" "g"]]
        (.start (.start .accenting [Faulty.stumble]))).map (·.map Turn.step) =
      [[.applyConfig {}, .applyConfig {}, .invoke "a.ts" "e", .invoke "a.ts" "f"],
        [.applyConfig { global := { lineWidth := some 0 } }, .invoke "b.ts" "g"]] ∧
      ∀ log ∈ sessions ScriptedPlugin.guest.faulty.watched
          [[.applyConfig {}, .applyConfig {}, .invoke "a.ts" "e", .invoke "a.ts" "f"],
            [.applyConfig { global := { lineWidth := some 0 } }, .invoke "b.ts" "g"]]
          (.start (.start .accenting [Faulty.stumble])),
        ∀ earlier turn later, log = earlier ++ turn :: later →
          (∃ moments, turn.after.plugin.consulted = moments ++ turn.before.plugin.consulted ∧
            ∀ moment ∈ moments, ∃ p',
              Faulty.viewSince [Faulty.stumble] []
                (ScriptedPlugin.view ScriptedPlugin.accenting.rules) moment = some p' ∧
                  ∃ path text patch,
              turn.step = .invoke path text ∧ lastApplied? earlier = some patch ∧
                InForce patch path text p') ∧
          ∀ patch, turn.step = .applyConfig patch →
            patch.globalConfig.lineWidth = 0 ∨ patch.globalConfig.indentWidth = 0 →
            ∀ event ∈ turn.events, ∃ outcome, event = .call .resetConfig [] outcome := by
  have failing : ∀ fault ∈ [Faulty.stumble], ∃ failure, fault.replacement = .failure failure := by
    intro fault mem
    rw [List.mem_singleton.mp mem]
    exact ⟨_, rfl⟩
  have begun : Faulty.viewSince [Faulty.stumble] []
      (ScriptedPlugin.view ScriptedPlugin.accenting.rules)
      (.start .accenting [Faulty.stumble]) = some _ :=
    (Faulty.viewSince_eq rfl (List.suffix_refl _)).trans
      (ScriptedPlugin.view_of_usable .accenting (by decide))
  exact sessions_format_in_force
    (Faulty.retains failing (ScriptedPlugin.retains ScriptedPlugin.moderate_accenting)) begun _

end FormatterHost
