import FormatterHost.Proofs.Metrics
import FormatterHost.Proofs.Service

/-!
# Accounts of whole runs

An instance does not come between a plugin and its caller: under the lenient policy the responses
to a batch are what the plugin makes of the layered requests, one after another, and the metrics
account for exactly these.  The strict policy differs in one point only, the first broken protocol,
where the process ends after the request has been recorded.
-/

namespace FormatterHost

variable {σ : Type}

/-! ## What the plugin makes of a batch -/

/-- Formats one text after another, whatever comes of each: the outcomes, and the plugin as it is
left in the end. -/
def Guest.formatAll (guest : Guest σ) : List Request → σ → List (Except Failure Output) × σ
  | [], s => ([], s)
  | request :: requests, s =>
    let (outcome, s) := formatWith guest request s
    let (outcomes, s) := guest.formatAll requests s
    (outcome :: outcomes, s)

/-- The outcome is not that the plugin has broken the protocol. -/
def Tolerable (outcome : Except Failure Output) : Prop :=
  ∀ failure, outcome = .error failure → failure.isContractViolation = false

namespace FormatterInstance

variable {guest : Guest σ}

/-- A request with its patch laid over the defaults of the instance. -/
def layered (inst : FormatterInstance σ) (request : Request) : Request where
  path := request.path
  text := request.text
  patch := request.patch.atop inst.defaults

/-- What the plugin of an instance, on its own, makes of a request. -/
def outcome (guest : Guest σ) (inst : FormatterInstance σ) (request : Request) :
    Except Failure Output :=
  (formatWith guest (inst.layered request) inst.plugin).1

/-- The instance after a request. -/
def next (guest : Guest σ) (inst : FormatterInstance σ) (entry : Timing × Request) :
    FormatterInstance σ :=
  { inst with
    plugin := (formatWith guest (inst.layered entry.2) inst.plugin).2
    metrics := inst.metrics.record entry.1.duration entry.1.now (inst.outcome guest entry.2) }

/-- What the plugin of an instance, on its own, makes of the requests of a batch. -/
def plain (guest : Guest σ) (inst : FormatterInstance σ) (batch : List (Timing × Request)) :
    List (Except Failure Output) × σ :=
  guest.formatAll (batch.map fun entry => inst.layered entry.2) inst.plugin

/-- What there is to record of a batch. -/
def records (guest : Guest σ) (inst : FormatterInstance σ) (batch : List (Timing × Request)) :
    List (Timing × Except Failure Output) :=
  (batch.map Prod.fst).zip (inst.plain guest batch).1

/-- The instance after a batch, if nothing has ended the process. -/
def after (guest : Guest σ) (inst : FormatterInstance σ) (batch : List (Timing × Request)) :
    FormatterInstance σ :=
  { inst with
    plugin := (inst.plain guest batch).2
    metrics := inst.metrics.recordAll (inst.records guest batch) }

/-- The same instance before its first request, and under another policy. -/
def anew (inst : FormatterInstance σ) (policy : ContractPolicy) : FormatterInstance σ :=
  { inst with policy, metrics := {} }

/-- The outcomes of a batch begin with that of its first request; the others are those of the
instance that this request leaves behind. -/
theorem plain_cons (inst : FormatterInstance σ) (entry : Timing × Request)
    (batch : List (Timing × Request)) :
    inst.plain guest (entry :: batch) =
      (inst.outcome guest entry.2 :: ((inst.next guest entry).plain guest batch).1,
        ((inst.next guest entry).plain guest batch).2) := rfl

theorem after_cons (inst : FormatterInstance σ) (entry : Timing × Request)
    (batch : List (Timing × Request)) :
    inst.after guest (entry :: batch) = (inst.next guest entry).after guest batch := rfl

theorem plain_append (inst : FormatterInstance σ) (batch later : List (Timing × Request)) :
    (inst.plain guest (batch ++ later)).1 =
      (inst.plain guest batch).1 ++ ((inst.after guest batch).plain guest later).1 := by
  induction batch generalizing inst with
  | nil => rfl
  | cons entry batch ih =>
      rw [List.cons_append, plain_cons, plain_cons, after_cons, ih, List.cons_append]

theorem after_append (inst : FormatterInstance σ) (batch later : List (Timing × Request)) :
    inst.after guest (batch ++ later) = (inst.after guest batch).after guest later := by
  induction batch generalizing inst with
  | nil => rfl
  | cons entry batch ih => rw [List.cons_append, after_cons, ih, after_cons]

theorem length_plain (inst : FormatterInstance σ) (batch : List (Timing × Request)) :
    (inst.plain guest batch).1.length = batch.length := by
  induction batch generalizing inst with
  | nil => rfl
  | cons entry batch ih => rw [plain_cons, List.length_cons, List.length_cons, ih]

/-- Every request of a batch is recorded with the time that it has taken. -/
theorem map_fst_records (guest : Guest σ) (inst : FormatterInstance σ)
    (batch : List (Timing × Request)) :
    (inst.records guest batch).map Prod.fst = batch.map Prod.fst := by
  have same : (batch.map Prod.fst).length = (inst.plain guest batch).1.length := by
    rw [List.length_map, length_plain]
  rw [records, List.map_fst_zip (Nat.le_of_eq same)]

/-! ## Responses -/

/-- Serving a request: the policy decides about the response only. -/
theorem format_eq (inst : FormatterInstance σ) (entry : Timing × Request) :
    inst.format guest entry.1 entry.2 =
      (.ofPolicy inst.policy (inst.outcome guest entry.2), inst.next guest entry) := rfl

/-- An instance answers every request up to the first broken protocol, and goes on from where it has
got to. -/
theorem serve_append {inst : FormatterInstance σ} {batch : List (Timing × Request)}
    (told : ∀ outcome ∈ (inst.plain guest batch).1,
      Response.ofPolicy inst.policy outcome = .answered outcome)
    (later : List (Timing × Request)) :
    inst.serve guest (batch ++ later) =
      ((inst.plain guest batch).1.map .answered ++ ((inst.after guest batch).serve guest later).1,
        ((inst.after guest batch).serve guest later).2) := by
  induction batch generalizing inst with
  | nil => rfl
  | cons entry batch ih =>
      rw [plain_cons, List.forall_mem_cons] at told
      obtain ⟨first, rest⟩ := told
      have goesOn : (inst.next guest entry).serve guest (batch ++ later) = _ := ih rest
      rw [List.cons_append, serve, format_eq, first]
      simp only [goesOn, plain_cons, after_cons, List.map_cons, List.cons_append]

/-- A batch in which every outcome is told is answered as the plugin answers it. -/
theorem serve_of_told {inst : FormatterInstance σ} {batch : List (Timing × Request)}
    (told : ∀ outcome ∈ (inst.plain guest batch).1,
      Response.ofPolicy inst.policy outcome = .answered outcome) :
    inst.serve guest batch =
      ((inst.plain guest batch).1.map .answered, inst.after guest batch) := by
  have whole := serve_append told []
  rw [List.append_nil, serve, List.append_nil] at whole
  exact whole

/-- Under the lenient policy every outcome is told. -/
theorem serve_lenient {inst : FormatterInstance σ} (lenient : inst.policy = .propagate)
    (batch : List (Timing × Request)) :
    inst.serve guest batch =
      ((inst.plain guest batch).1.map .answered, inst.after guest batch) := by
  refine serve_of_told fun outcome _ => ?_
  rw [lenient]
  cases outcome with
  | ok output => rfl
  | error failure =>
      rw [Response.ofPolicy, decide_eq_false (by decide), Bool.and_false]
      rfl

/-- Under every policy, what is tolerable is told. -/
theorem serve_tolerable {inst : FormatterInstance σ} {batch : List (Timing × Request)}
    (tolerable : ∀ outcome ∈ (inst.plain guest batch).1, Tolerable outcome) :
    inst.serve guest batch = ((inst.plain guest batch).1.map .answered, inst.after guest batch) :=
  serve_of_told fun outcome mem => Response.ofPolicy_eq inst.policy (tolerable outcome mem)

/-- Under the strict policy the process ends with the first request that shows a broken protocol,
and this request is recorded as well. -/
theorem serve_violation {inst : FormatterInstance σ} (strict : inst.policy = .terminate)
    {before : List (Timing × Request)}
    (tolerable : ∀ outcome ∈ (inst.plain guest before).1, Tolerable outcome)
    {entry : Timing × Request} {failure : Failure}
    (failed : (inst.after guest before).outcome guest entry.2 = .error failure)
    (violation : failure.isContractViolation = true) (later : List (Timing × Request)) :
    inst.serve guest (before ++ entry :: later) =
      ((inst.plain guest before).1.map .answered ++ [.terminated failure],
        inst.after guest (before ++ [entry])) := by
  have told : ∀ outcome ∈ (inst.plain guest before).1,
      Response.ofPolicy inst.policy outcome = .answered outcome :=
    fun outcome mem => Response.ofPolicy_eq inst.policy (tolerable outcome mem)
  have ended : Response.ofPolicy (inst.after guest before).policy
      ((inst.after guest before).outcome guest entry.2) = .terminated failure := by
    have policy : (inst.after guest before).policy = .terminate := strict
    rw [policy, failed, Response.ofPolicy, violation, decide_eq_true rfl]
    rfl
  rw [serve_append told, after_append, serve, format_eq, ended]
  rfl

/-- In every batch all is tolerable, or there is a first request that shows a broken protocol. -/
theorem tolerable_or_violation (guest : Guest σ) (inst : FormatterInstance σ)
    (batch : List (Timing × Request)) :
    (∀ outcome ∈ (inst.plain guest batch).1, Tolerable outcome) ∨
      ∃ before entry later failure, batch = before ++ entry :: later ∧
        (∀ outcome ∈ (inst.plain guest before).1, Tolerable outcome) ∧
        (inst.after guest before).outcome guest entry.2 = .error failure ∧
        failure.isContractViolation = true := by
  induction batch generalizing inst with
  | nil => exact .inl (List.forall_mem_nil _)
  | cons entry batch ih =>
      by_cases tolerable : Tolerable (inst.outcome guest entry.2)
      · rcases ih (inst.next guest entry) with all | ⟨before, entry', later, failure, rfl, rest⟩
        · refine .inl ?_
          rw [plain_cons, List.forall_mem_cons]
          exact ⟨tolerable, all⟩
        · refine .inr ⟨entry :: before, entry', later, failure, rfl, ?_, rest.2⟩
          rw [plain_cons, List.forall_mem_cons]
          exact ⟨tolerable, rest.1⟩
      · obtain ⟨failure, failed, violation⟩ : ∃ failure,
            inst.outcome guest entry.2 = .error failure ∧ failure.isContractViolation = true := by
          simpa [Tolerable] using tolerable
        exact .inr ⟨[], entry, batch, failure, rfl, List.forall_mem_nil _, failed, violation⟩

/-! ## Metrics -/

/-- How long the requests of a batch take together. -/
def time (batch : List (Timing × Request)) : Nat :=
  (batch.map fun entry => entry.1.duration.toNat).sum

theorem length_records (guest : Guest σ) (inst : FormatterInstance σ)
    (batch : List (Timing × Request)) :
    (inst.records guest batch).length = batch.length := by
  rw [← List.length_map Prod.fst, map_fst_records, List.length_map]

theorem time_records (guest : Guest σ) (inst : FormatterInstance σ)
    (batch : List (Timing × Request)) :
    Metrics.time (inst.records guest batch) = time batch := by
  have durations := congrArg (List.map fun timing : Timing => timing.duration.toNat)
    (inst.map_fst_records guest batch)
  rw [List.map_map, List.map_map] at durations
  exact congrArg List.sum durations

/-- The metrics of an instance that has served nothing else account for its records. -/
theorem accounts_after (inst : FormatterInstance σ) (policy : ContractPolicy)
    {batch : List (Timing × Request)} (few : batch.length < UInt64.size)
    (brief : time batch < UInt64.size) :
    ((inst.anew policy).after guest batch).metrics.Accounts (inst.records guest batch) := by
  rw [← inst.length_records guest] at few
  rw [← inst.time_records guest] at brief
  exact .recordAll few brief

/-- Whenever a request of a batch is recorded there is room for it. -/
theorem room_after (inst : FormatterInstance σ) (policy : ContractPolicy)
    {before later : List (Timing × Request)} {entry : Timing × Request}
    (few : (before ++ entry :: later).length < UInt64.size)
    (brief : time (before ++ entry :: later) < UInt64.size) :
    ((inst.anew policy).after guest before).metrics.Room entry.1.duration := by
  have total : time (before ++ entry :: later) =
      time before + (entry.1.duration.toNat + time later) := by
    simp only [time, List.map_append, List.map_cons, List.sum_append, List.sum_cons]
  rw [List.length_append, List.length_cons] at few
  rw [total] at brief
  refine (inst.accounts_after policy (by omega) (by omega)).room ?_ ?_
  · rw [length_records]
    omega
  · rw [time_records]
    omega

end FormatterInstance

/-- Whatever a plugin does, its instance answers a batch as the plugin answers the layered requests,
and the metrics account for the outcomes, as long as a word can count the requests (a list never has
more) and the time that they take.  Under the strict policy the process ends with the first broken
protocol; up to there nothing is different, and the last request is recorded as well. -/
theorem serve_accounts {σ : Type} (guest : Guest σ) (inst : FormatterInstance σ)
    (batch : List (Timing × Request)) :
    ((inst.anew .propagate).serve guest batch).1 = (inst.plain guest batch).1.map .answered ∧
    (batch.length < UInt64.size → FormatterInstance.time batch < UInt64.size →
      ((inst.anew .propagate).serve guest batch).2.metrics.Accounts (inst.records guest batch) ∧
      ∀ before entry later, batch = before ++ entry :: later →
        ((inst.anew .propagate).serve guest before).2.metrics.Room entry.1.duration) ∧
    ((∀ outcome ∈ (inst.plain guest batch).1, Tolerable outcome) ∧
        (inst.anew .terminate).serve guest batch =
          (((inst.anew .propagate).serve guest batch).1,
            { ((inst.anew .propagate).serve guest batch).2 with policy := .terminate }) ∨
      ∃ before entry later failure, batch = before ++ entry :: later ∧
        (∀ outcome ∈ (inst.plain guest before).1, Tolerable outcome) ∧
        (inst.plain guest (before ++ [entry])).1 =
          (inst.plain guest before).1 ++ [.error failure] ∧
        failure.isContractViolation = true ∧
        (inst.anew .terminate).serve guest batch =
          (((inst.anew .propagate).serve guest before).1 ++ [.terminated failure],
            { ((inst.anew .propagate).serve guest (before ++ [entry])).2 with
              policy := .terminate })) := by
  have lenient : ∀ batch, (inst.anew .propagate).serve guest batch =
      ((inst.plain guest batch).1.map .answered, (inst.anew .propagate).after guest batch) :=
    FormatterInstance.serve_lenient rfl
  refine ⟨congrArg Prod.fst (lenient batch), ?_, ?_⟩ <;> simp only [lenient]
  · intro few brief
    refine ⟨inst.accounts_after .propagate few brief, ?_⟩
    rintro before entry later rfl
    exact inst.room_after .propagate few brief
  · rcases (inst.anew .terminate).tolerable_or_violation guest batch with
      tolerable | ⟨before, entry, later, failure, rfl, tolerable, failed, violation⟩
    · exact .inl ⟨tolerable, FormatterInstance.serve_tolerable tolerable⟩
    · have last : (inst.plain guest (before ++ [entry])).1 =
          (inst.plain guest before).1 ++ [.error failure] := by
        rw [inst.plain_append]
        exact congrArg (fun outcome => (inst.plain guest before).1 ++ [outcome]) failed
      exact .inr ⟨before, entry, later, failure, rfl, tolerable, last, violation,
        FormatterInstance.serve_violation rfl tolerable failed violation later⟩

end FormatterHost
