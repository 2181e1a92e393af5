import Mathlib.Logic.Function.Basic
import FormatterHost.Proofs.Metrics
import FormatterHost.Proofs.Service

/-!
# Many clients of one instance

Clients that share an instance have their requests served side by side.  For each request a client
takes the plugin for itself, has the request formatted, gives the plugin back, and some time later
takes the metrics for itself, records the request and gives them back.  Between any two of these
moves other clients can make theirs; what is taken, nobody else can take.

In whatever order the moves come, every request has the outcome that it would have alone, it is
recorded once, and the metrics do not tell the orders apart.
-/

namespace FormatterHost

variable {ι σ : Type}

/-! ## Moves -/

/-- How far a client has come with a request. -/
inductive Errand where
  | idle
  /-- The client has taken the plugin. -/
  | admitted (request : Request)
  /-- The request has been formatted. -/
  | formatted (request : Request) (outcome : Except Failure Output)
  /-- The plugin has been given back. -/
  | released (request : Request) (outcome : Except Failure Output)
  /-- The client has taken the metrics. -/
  | counting (request : Request) (outcome : Except Failure Output)
  /-- The request has been recorded. -/
  | counted (request : Request) (outcome : Except Failure Output)

namespace Errand

/-- Whether the plugin is taken on the errand. -/
def holdsPlugin : Errand → Bool
  | admitted _ => true
  | formatted _ _ => true
  | _ => false

/-- Whether the metrics are taken on the errand. -/
def holdsMetrics : Errand → Bool
  | counting _ _ => true
  | counted _ _ => true
  | _ => false

/-- The request that the errand is about. -/
def request? : Errand → Option Request
  | idle => none
  | admitted request => some request
  | formatted request _ => some request
  | released request _ => some request
  | counting request _ => some request
  | counted request _ => some request

/-- The request of the errand, as long as it has not been recorded. -/
def unrecorded? : Errand → Option Request
  | counted _ _ => none
  | errand => errand.request?

/-- Whether what came of the request is what `outcome` says. -/
def Agrees (outcome : Request → Except Failure Output) : Errand → Prop
  | idle => True
  | admitted _ => True
  | formatted request reached => reached = outcome request
  | released request reached => reached = outcome request
  | counting request reached => reached = outcome request
  | counted request reached => reached = outcome request

end Errand

/-- A client: the requests to come, the errand it is on, and what came of the requests before. -/
structure Client where
  waiting : List Request
  errand : Errand
  answers : List (Except Failure Output)

namespace Client

/-- The requests that the client has no answer to yet. -/
def unanswered (client : Client) : List Request :=
  client.errand.request?.toList ++ client.waiting

/-- The requests that have not been recorded yet. -/
def unrecorded (client : Client) : List Request :=
  client.errand.unrecorded?.toList ++ client.waiting

end Client

/-- An instance, who has taken its plugin and its metrics, and its clients. -/
structure Shared (ι σ : Type) where
  inst : FormatterInstance σ
  pluginHolder : Option ι
  metricsHolder : Option ι
  client : ι → Client

/-- A request that has been recorded. -/
structure Entry (ι : Type) where
  client : ι
  request : Request
  timing : Timing
  outcome : Except Failure Output

namespace Shared

/-- The instance before its clients make any move. -/
def opening (inst : FormatterInstance σ) (requests : ι → List Request) : Shared ι σ where
  inst := inst
  pluginHolder := none
  metricsHolder := none
  client i := ⟨requests i, .idle, []⟩

/-- Nobody is on an errand, and no request is to come. -/
def Done (shared : Shared ι σ) : Prop :=
  ∀ i, (shared.client i).waiting = [] ∧ (shared.client i).errand = .idle

variable [DecidableEq ι]

/-- The same with one of the clients changed. -/
def setClient (shared : Shared ι σ) (i : ι) (client : Client) : Shared ι σ :=
  { shared with client := Function.update shared.client i client }

/-- The moves of clients, with what each of them records.  A client gets its answer as the policy of
the instance allows. -/
inductive Move (guest : Guest σ) (shared : Shared ι σ) : List (Entry ι) → Shared ι σ → Prop where
  | enter {i : ι} {request : Request} {waiting : List Request}
      {answers : List (Except Failure Output)}
      (due : shared.client i = ⟨request :: waiting, .idle, answers⟩)
      (free : shared.pluginHolder = none) :
      Move guest shared []
        { shared.setClient i ⟨waiting, .admitted request, answers⟩ with pluginHolder := some i }
  | format {i : ι} {request : Request} {waiting : List Request}
      {answers : List (Except Failure Output)} {outcome : Except Failure Output} {plugin : σ}
      (due : shared.client i = ⟨waiting, .admitted request, answers⟩)
      (ran : formatWith guest (shared.inst.effective request) shared.inst.plugin =
        (outcome, plugin)) :
      Move guest shared []
        { shared.setClient i ⟨waiting, .formatted request outcome, answers⟩ with
          inst := { shared.inst with plugin } }
  | release {i : ι} {request : Request} {waiting : List Request}
      {answers : List (Except Failure Output)} {outcome : Except Failure Output}
      (due : shared.client i = ⟨waiting, .formatted request outcome, answers⟩) :
      Move guest shared []
        { shared.setClient i ⟨waiting, .released request outcome, answers⟩ with
          pluginHolder := none }
  | count {i : ι} {request : Request} {waiting : List Request}
      {answers : List (Except Failure Output)} {outcome : Except Failure Output}
      (due : shared.client i = ⟨waiting, .released request outcome, answers⟩)
      (free : shared.metricsHolder = none) :
      Move guest shared []
        { shared.setClient i ⟨waiting, .counting request outcome, answers⟩ with
          metricsHolder := some i }
  | record {i : ι} {request : Request} {waiting : List Request}
      {answers : List (Except Failure Output)} {outcome : Except Failure Output} (timing : Timing)
      (due : shared.client i = ⟨waiting, .counting request outcome, answers⟩) :
      Move guest shared [⟨i, request, timing, outcome⟩]
        { shared.setClient i ⟨waiting, .counted request outcome, answers⟩ with
          inst := { shared.inst with
            metrics := shared.inst.metrics.record timing.duration timing.now outcome } }
  | answer {i : ι} {request : Request} {waiting : List Request}
      {answers : List (Except Failure Output)} {outcome told : Except Failure Output}
      (due : shared.client i = ⟨waiting, .counted request outcome, answers⟩)
      (allowed : Response.ofPolicy shared.inst.policy outcome = .answered told) :
      Move guest shared []
        { shared.setClient i ⟨waiting, .idle, answers ++ [told]⟩ with metricsHolder := none }

/-- One move after another, by whichever clients, with all that they record. -/
inductive Run (guest : Guest σ) (first : Shared ι σ) : List (Entry ι) → Shared ι σ → Prop where
  | start : Run guest first [] first
  | move {log entries : List (Entry ι)} {shared shared' : Shared ι σ}
      (run : Run guest first log shared) (move : Move guest shared entries shared') :
      Run guest first (log ++ entries) shared'

/-- A client that nobody comes between is served as the instance serves a request. -/
theorem run_format {guest : Guest σ} {shared : Shared ι σ} {i : ι} {request : Request}
    {waiting : List Request} {answers : List (Except Failure Output)}
    (due : shared.client i = ⟨request :: waiting, .idle, answers⟩)
    (pluginFree : shared.pluginHolder = none) (metricsFree : shared.metricsHolder = none)
    {timing : Timing} {told : Except Failure Output} {inst : FormatterInstance σ}
    (served : shared.inst.format guest timing request = (.answered told, inst)) :
    ∃ outcome, Run guest shared [⟨i, request, timing, outcome⟩]
      { shared.setClient i ⟨waiting, .idle, answers ++ [told]⟩ with inst } := by
  cases ran : formatWith guest (shared.inst.effective request) shared.inst.plugin with
  | mk outcome plugin =>
      rw [FormatterInstance.format, ran] at served
      obtain ⟨allowed, rfl⟩ := Prod.mk.inj served
      have own : ∀ {shared : Shared ι σ} {client : Client},
          (shared.setClient i client).client i = client := Function.update_self ..
      have begun : Run guest shared [] shared := .start
      have admitted := begun.move (.enter due pluginFree)
      have formatted := admitted.move (.format own ran)
      have released := formatted.move (.release own)
      have counting := released.move (.count own metricsFree)
      have counted := counting.move (.record timing own)
      have answered := counted.move (.answer own allowed)
      refine ⟨outcome, ?_⟩
      simpa only [setClient, Function.update_idem, List.nil_append, List.append_nil, pluginFree,
        metricsFree] using answered

/-! ## What is taken -/

/-- Whoever has taken something is on an errand that says so, and nobody else is. -/
def Held (holds : Errand → Bool) (holder : Option ι) (client : ι → Client) : Prop :=
  ∀ i, holder = some i ↔ holds (client i).errand = true

section Held

variable {holds : Errand → Bool} {holder : Option ι} {client : ι → Client} {i : ι} {mine : Client}

theorem Held.take (held : Held holds none client) (takes : holds mine.errand = true) :
    Held holds (some i) (Function.update client i mine) := by
  intro j
  by_cases own : j = i
  · subst own
    rw [Function.update_self]
    exact ⟨fun _ => takes, fun _ => rfl⟩
  · rw [Function.update_of_ne own, ← held j, Option.some_inj]
    exact ⟨fun same => absurd same.symm own, nofun⟩

theorem Held.keep (held : Held holds holder client)
    (same : holds mine.errand = holds (client i).errand) :
    Held holds holder (Function.update client i mine) := by
  intro j
  by_cases own : j = i
  · subst own
    rw [Function.update_self, same]
    exact held j
  · rw [Function.update_of_ne own]
    exact held j

theorem Held.giveBack (held : Held holds holder client) (had : holds (client i).errand = true)
    (gives : holds mine.errand = false) : Held holds none (Function.update client i mine) := by
  have mineAlone : holder = some i := (held i).2 had
  intro j
  by_cases own : j = i
  · subst own
    rw [Function.update_self, gives]
    exact ⟨nofun, nofun⟩
  · rw [Function.update_of_ne own, ← held j, mineAlone, Option.some_inj]
    exact ⟨nofun, fun same => absurd same.symm own⟩

end Held

/-- Whoever has taken the plugin or the metrics is on an errand that says so. -/
structure Orderly (shared : Shared ι σ) : Prop where
  plugin : Held Errand.holdsPlugin shared.pluginHolder shared.client
  metrics : Held Errand.holdsMetrics shared.metricsHolder shared.client

omit [DecidableEq ι] in
theorem orderly_opening (inst : FormatterInstance σ) (requests : ι → List Request) :
    (opening inst requests).Orderly where
  plugin _ := ⟨nofun, nofun⟩
  metrics _ := ⟨nofun, nofun⟩

theorem Move.orderly {guest : Guest σ} {entries : List (Entry ι)} {shared shared' : Shared ι σ}
    (move : Move guest shared entries shared') (orderly : shared.Orderly) : shared'.Orderly := by
  obtain ⟨plugin, metrics⟩ := orderly
  cases move with
  | enter due free => exact ⟨(free ▸ plugin).take rfl, metrics.keep (by rw [due]; rfl)⟩
  | format due ran => exact ⟨plugin.keep (by rw [due]; rfl), metrics.keep (by rw [due]; rfl)⟩
  | release due => exact ⟨plugin.giveBack (by rw [due]; rfl) rfl, metrics.keep (by rw [due]; rfl)⟩
  | count due free => exact ⟨plugin.keep (by rw [due]; rfl), (free ▸ metrics).take rfl⟩
  | record timing due => exact ⟨plugin.keep (by rw [due]; rfl), metrics.keep (by rw [due]; rfl)⟩
  | answer due allowed =>
      exact ⟨plugin.keep (by rw [due]; rfl), metrics.giveBack (by rw [due]; rfl) rfl⟩

/-! ## What becomes of the requests -/

/-- What has been recorded for a client, in the order of the records. -/
def recordsOf (log : List (Entry ι)) (i : ι) : List (Request × Except Failure Output) :=
  (log.filter (·.client = i)).map fun entry => (entry.request, entry.outcome)

theorem recordsOf_concat_self (log : List (Entry ι)) (entry : Entry ι) :
    recordsOf (log ++ [entry]) entry.client =
      recordsOf log entry.client ++ [(entry.request, entry.outcome)] := by
  simp [recordsOf]

theorem recordsOf_concat_of_ne (log : List (Entry ι)) {entry : Entry ι} {i : ι}
    (other : i ≠ entry.client) : recordsOf (log ++ [entry]) i = recordsOf log i := by
  simp [recordsOf, other.symm]

/-- Of the requests of a client, the first ones have been answered and the others are still to be;
likewise for the records. -/
structure Account (outcome : Request → Except Failure Output) (requests : List Request)
    (records : List (Request × Except Failure Output)) (client : Client) : Prop where
  answered : client.answers ++ client.unanswered.map outcome = requests.map outcome
  recorded : records ++ client.unrecorded.map (fun request => (request, outcome request)) =
    requests.map fun request => (request, outcome request)
  agrees : client.errand.Agrees outcome

section Account

variable {outcome : Request → Except Failure Output} {log : List (Entry ι)}

/-- Nothing but the account of the client that moves is to be looked at again. -/
theorem Account.update {requests : ι → List Request} {log' : List (Entry ι)} {client : ι → Client}
    {i : ι} {mine : Client}
    (accounts : ∀ j, Account outcome (requests j) (recordsOf log j) (client j))
    (others : ∀ j ≠ i, recordsOf log' j = recordsOf log j)
    (own : Account outcome (requests i) (recordsOf log' i) mine) (j : ι) :
    Account outcome (requests j) (recordsOf log' j) (Function.update client i mine j) := by
  by_cases same : j = i
  · subst same
    rw [Function.update_self]
    exact own
  · rw [Function.update_of_ne same, others j same]
    exact accounts j

end Account

/-! ## What a run keeps -/

/-- What is so after any moves: the plugin serves on, the metrics are made of the records, what is
taken is taken by one client, and every client has what its requests give. -/
structure Sound (view : σ → Option PluginView) (formatter : Formatter)
    (inst : FormatterInstance σ) (requests : ι → List Request) (log : List (Entry ι))
    (shared : Shared ι σ) : Prop where
  seen : ∃ p, view shared.inst.plugin = some p
  defaults : shared.inst.defaults = inst.defaults
  metrics : shared.inst.metrics =
    inst.metrics.recordAll (log.map fun entry => (entry.timing, entry.outcome))
  orderly : shared.Orderly
  accounts : ∀ i, Account (fun request => (inst.effective request).outcome formatter) (requests i)
    (recordsOf log i) (shared.client i)

section Sound

variable {guest : Guest σ} {view : σ → Option PluginView} {formatter : Formatter}
  {inst : FormatterInstance σ} {requests : ι → List Request} {log : List (Entry ι)}
  {shared : Shared ι σ}

theorem sound_opening (seen : ∃ p, view inst.plugin = some p) :
    Sound view formatter inst requests [] (opening inst requests) where
  seen := seen
  defaults := rfl
  metrics := rfl
  orderly := orderly_opening inst requests
  accounts _ := ⟨rfl, rfl, trivial⟩

/-- A move that leaves the instance alone has to be looked at from the client's side only. -/
theorem Sound.of_same_inst {shared' : Shared ι σ} {i : ι} {mine : Client}
    (sound : Sound view formatter inst requests log shared) (orderly : shared'.Orderly)
    (same : shared'.inst = shared.inst)
    (moved : shared'.client = Function.update shared.client i mine)
    (account : Account (fun request => (inst.effective request).outcome formatter) (requests i)
      (recordsOf log i) mine) :
    Sound view formatter inst requests log shared' where
  seen := same ▸ sound.seen
  defaults := same ▸ sound.defaults
  metrics := same ▸ sound.metrics
  orderly := orderly
  accounts := moved ▸ Account.update sound.accounts (fun _ _ => rfl) account

/-- The step from which `Run.sound` follows. -/
theorem Move.sound (conforms : Conforms never guest view formatter) {entries : List (Entry ι)}
    {shared' : Shared ι σ} (move : Move guest shared entries shared')
    (sound : Sound view formatter inst requests log shared) :
    Sound view formatter inst requests (log ++ entries) shared' := by
  have orderly := move.orderly sound.orderly
  cases move with
  | @enter i _ _ _ due free =>
      rw [List.append_nil]
      have account := due ▸ sound.accounts i
      exact sound.of_same_inst orderly rfl rfl ⟨account.answered, account.recorded, trivial⟩
  | @format i request _ _ outcome plugin due ran =>
      rw [List.append_nil]
      have account := due ▸ sound.accounts i
      -- The plugin may have served others since the opening; it makes the same of the request.
      obtain ⟨p, seen⟩ := sound.seen
      obtain ⟨plugin', p', served, seen'⟩ :=
        (formatWith_settles conforms seen (shared.inst.effective request)).exists_state
      obtain ⟨rfl, rfl⟩ := Prod.mk.inj (ran.symm.trans served)
      have agrees : (shared.inst.effective request).outcome formatter =
          (inst.effective request).outcome formatter := by
        rw [FormatterInstance.effective, FormatterInstance.effective, sound.defaults]
      exact ⟨⟨p', seen'⟩, sound.defaults, sound.metrics, orderly,
        Account.update sound.accounts (fun _ _ => rfl)
          ⟨account.answered, account.recorded, agrees⟩⟩
  | @release i _ _ _ _ due =>
      rw [List.append_nil]
      have account := due ▸ sound.accounts i
      exact sound.of_same_inst orderly rfl rfl ⟨account.answered, account.recorded, account.agrees⟩
  | @count i _ _ _ _ due free =>
      rw [List.append_nil]
      have account := due ▸ sound.accounts i
      exact sound.of_same_inst orderly rfl rfl ⟨account.answered, account.recorded, account.agrees⟩
  | @record i request waiting answers outcome timing due =>
      have account := due ▸ sound.accounts i
      have agrees : outcome = (inst.effective request).outcome formatter := account.agrees
      have recorded := account.recorded
      refine ⟨sound.seen, sound.defaults, ?_, orderly,
        Account.update sound.accounts (fun j other => recordsOf_concat_of_ne log other)
          ⟨account.answered, ?_, account.agrees⟩⟩
      · rw [List.map_append, Metrics.recordAll_append, ← sound.metrics]
        rfl
      · rw [recordsOf_concat_self log ⟨i, request, timing, outcome⟩, List.append_assoc, agrees]
        exact recorded
  | @answer i request waiting answers outcome told due allowed =>
      rw [List.append_nil]
      have account := due ▸ sound.accounts i
      have agrees : outcome = (inst.effective request).outcome formatter := account.agrees
      have answered := account.answered
      refine sound.of_same_inst orderly rfl rfl ⟨?_, account.recorded, trivial⟩
      -- The policy cannot keep the outcome from the client.
      rw [agrees, Response.ofPolicy_outcome] at allowed
      rw [List.append_assoc, ← Response.answered.inj allowed]
      exact answered

theorem Run.sound (conforms : Conforms never guest view formatter)
    (seen : ∃ p, view inst.plugin = some p) (run : Run guest (opening inst requests) log shared) :
    Sound view formatter inst requests log shared := by
  induction run with
  | start => exact sound_opening seen
  | move run move ih => exact move.sound conforms ih

/-- A client on an errand can go on with it, unless it needs the metrics and another has them. -/
theorem Sound.exists_move (sound : Sound view formatter inst requests log shared) {i : ι}
    (busy : (shared.client i).errand ≠ .idle)
    (able : shared.metricsHolder = none ∨ (shared.client i).errand.holdsPlugin = true ∨
      (shared.client i).errand.holdsMetrics = true) :
    ∃ entries shared', Move guest shared entries shared' := by
  have agrees := (sound.accounts i).agrees
  cases due : shared.client i with
  | mk waiting errand answers =>
      rw [due] at busy able agrees
      cases errand with
      | idle => exact absurd rfl busy
      | admitted request => exact ⟨_, _, .format due rfl⟩
      | formatted request outcome => exact ⟨_, _, .release due⟩
      | released request outcome =>
          obtain free | holds | holds := able
          · exact ⟨_, _, .count due free⟩
          · cases holds
          · cases holds
      | counting request outcome => exact ⟨_, _, .record ⟨0, 0⟩ due⟩
      | counted request outcome =>
          obtain rfl : outcome = _ := agrees
          exact ⟨_, _, .answer due (Response.ofPolicy_outcome shared.inst.policy _)⟩

/-- Clients do not block each other: whoever has taken something can go on with it, and what nobody
has taken can be taken. -/
theorem Sound.done_or_move (sound : Sound view formatter inst requests log shared) :
    shared.Done ∨ ∃ entries shared', Move guest shared entries shared' := by
  by_cases done : shared.Done
  · exact .inl done
  right
  cases plugin : shared.pluginHolder with
  | some i =>
      have holds := (sound.orderly.plugin i).1 plugin
      exact sound.exists_move (by intro idle; rw [idle] at holds; cases holds) (.inr (.inl holds))
  | none =>
      cases metrics : shared.metricsHolder with
      | some i =>
          have holds := (sound.orderly.metrics i).1 metrics
          exact sound.exists_move (by intro idle; rw [idle] at holds; cases holds)
            (.inr (.inr holds))
      | none =>
          obtain ⟨i, undone⟩ := not_forall.1 done
          by_cases idle : (shared.client i).errand = .idle
          · obtain ⟨request, waiting, due⟩ :=
              List.exists_cons_of_ne_nil fun nothing => undone ⟨nothing, idle⟩
            have due : shared.client i =
                ⟨request :: waiting, .idle, (shared.client i).answers⟩ := by
              rw [← due, ← idle]
            exact ⟨_, _, .enter due plugin⟩
          · exact sound.exists_move idle (.inl metrics)

end Sound

end Shared

/-! ## Everybody is served alike -/

/-- Of the requests of a client, the first ones have been answered, and the first ones have been
recorded once each, all with the response that `lone` says; the others are still to be. -/
structure Client.ServedAs (lone : Request → Response Output) (requests : List Request)
    (records : List (Request × Except Failure Output)) (client : Client) : Prop where
  answers : client.answers.map .answered ++ client.unanswered.map lone = requests.map lone
  records : records.map (fun record => (record.1, .answered record.2)) ++
      client.unrecorded.map (fun request => (request, lone request)) =
    requests.map fun request => (request, lone request)

theorem Shared.Account.servedAs {outcome : Request → Except Failure Output}
    {requests : List Request} {records : List (Request × Except Failure Output)} {client : Client}
    (account : Account outcome requests records client) :
    client.ServedAs (fun request => .answered (outcome request)) requests records where
  answers := by
    have answered := congrArg (List.map Response.answered) account.answered
    rwa [List.map_append, List.map_map, List.map_map] at answered
  records := by
    have recorded := congrArg (List.map fun record => (record.1, Response.answered record.2))
      account.recorded
    rwa [List.map_append, List.map_map, List.map_map] at recorded

/-- Clients share an instance of a conforming plugin.  In whatever order their moves come, each of
them is served as an instance would serve its requests that has served nobody else; apart from the
time of the last record, the metrics are what the same durations and outcomes give in any other
order; and until every request has been answered, there is a move to make. -/
theorem Shared.run_serves_alike {ι σ τ : Type} [DecidableEq ι] {guest : Guest σ} {other : Guest τ}
    {view : σ → Option PluginView} {otherView : τ → Option PluginView} {formatter : Formatter}
    (conforms : Conforms never guest view formatter)
    (otherConforms : Conforms never other otherView formatter)
    {inst : FormatterInstance σ} {p : PluginView} (seen : view inst.plugin = some p)
    {fresh : FormatterInstance τ} {q : PluginView} (freshSeen : otherView fresh.plugin = some q)
    (sameDefaults : fresh.defaults = inst.defaults) {requests : ι → List Request}
    {log : List (Entry ι)} {shared : Shared ι σ}
    (run : Run guest (opening inst requests) log shared) :
    (∀ i timing, (shared.client i).ServedAs (fun request => (fresh.format other timing request).1)
        (requests i) (recordsOf log i)) ∧
      (∀ records : List (Timing × Except Failure Output),
        (records.map fun record => (record.1.duration, record.2)).Perm
            (log.map fun entry => (entry.timing.duration, entry.outcome)) →
          shared.inst.metrics.timeless = (inst.metrics.recordAll records).timeless) ∧
      (shared.Done ∨ ∃ entries shared', Move guest shared entries shared') := by
  have sound := run.sound conforms ⟨p, seen⟩
  refine ⟨fun i timing => ?_, fun records perm => ?_, sound.done_or_move⟩
  · have lone : (fun request => (fresh.format other timing request).1) =
        fun request => .answered ((inst.effective request).outcome formatter) := by
      funext request
      obtain ⟨_, _, formatted, -, -⟩ :=
        FormatterInstance.format_answers otherConforms freshSeen timing request
      rw [formatted, FormatterInstance.effective, FormatterInstance.effective, sameDefaults]
    rw [lone]
    exact (sound.accounts i).servedAs
  · rw [sound.metrics]
    refine Metrics.timeless_recordAll_of_perm inst.metrics ?_
    rw [List.map_map]
    exact perm.symm

/-- The strict instance with a plugin that takes and gives its bytes in other pieces. -/
def FormatterInstance.strictWide : FormatterInstance ScriptedPlugin :=
  { strict with plugin := { ScriptedPlugin.wide with rules := ScriptedPlugin.accenting.rules } }

/-- One client is overtaken by another after it has been served and before it is recorded. -/
theorem Shared.run_serves_alike_overtaken :
    ∃ (log : List (Entry Bool)) (shared : Shared Bool ScriptedPlugin),
      Run ScriptedPlugin.guest (opening .strict (cond · [.sample] [.cramped])) log shared ∧
        log.map Entry.client = [true, false] ∧
        (∀ i timing, (shared.client i).ServedAs
            (fun request =>
              (FormatterInstance.strictWide.format ScriptedPlugin.guest timing request).1)
            (cond i [.sample] [.cramped]) (recordsOf log i)) ∧
          (∀ records : List (Timing × Except Failure Output),
            (records.map fun record => (record.1.duration, record.2)).Perm
                (log.map fun entry => (entry.timing.duration, entry.outcome)) →
              shared.inst.metrics.timeless =
                (FormatterInstance.strict.metrics.recordAll records).timeless) ∧
          (shared.Done ∨ ∃ entries shared', Move ScriptedPlugin.guest shared entries shared') := by
  have conforms := ScriptedPlugin.conforms ScriptedPlugin.moderate_accenting
  have seen := ScriptedPlugin.view_of_usable .accenting (by decide)
  have freshSeen := ScriptedPlugin.view_of_usable FormatterInstance.strictWide.plugin (by decide)
  have sameDefaults : FormatterInstance.strictWide.defaults = FormatterInstance.strict.defaults :=
    rfl
  obtain ⟨plugin, p, ran, seen'⟩ := (formatWith_settles conforms seen
    (FormatterInstance.strict.effective .cramped)).exists_state
  obtain ⟨plugin', p', ran', -⟩ := (formatWith_settles conforms seen'
    (FormatterInstance.strict.effective .sample)).exists_state
  have run : Run ScriptedPlugin.guest (opening .strict (cond · [.sample] [.cramped])) [] _ := .start
  have run := run.move (.enter (i := false) rfl rfl)
  have run := run.move (.format (i := false) rfl ran)
  have run := run.move (.release (i := false) rfl)
  have run := run.move (.enter (i := true) rfl rfl)
  have run := run.move (.format (i := true) rfl ran')
  have run := run.move (.release (i := true) rfl)
  have run := run.move (.count (i := true) rfl rfl)
  have run := run.move (.record (i := true) ⟨7, 1⟩ rfl)
  have run := run.move (.answer (i := true) rfl (Response.ofPolicy_outcome _ _))
  have run := run.move (.count (i := false) rfl rfl)
  have run := run.move (.record (i := false) ⟨5, 2⟩ rfl)
  have run := run.move (.answer (i := false) rfl (Response.ofPolicy_outcome _ _))
  exact ⟨_, _, run, rfl, run_serves_alike conforms conforms seen freshSeen sameDefaults run⟩

end FormatterHost
