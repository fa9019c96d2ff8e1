import Mathlib
import SnapshotAgent.Config.Validate
import SnapshotAgent.Proofs.Store.Select
/-!
# Which configurations are accepted

`ConfigFile.ofRaw` accepts a raw configuration exactly when it is `RawConfig.Acceptable`: every
requirement of validation, stated field by field. Validation is a sequence of guards and loops
in `Except`. Each guard succeeds exactly when its own condition holds
(`validateNotifications_eq_ok`, `validateNode_eq_ok`), and a loop over transports or nodes
succeeds exactly when every step does (`forIn_eq_ok_iff`).

Durations are read twice, once by validation and once to build the settings. Both readings are
`parseDuration` of the same text, so a configuration that passes validation is always built.

An accepted configuration keeps each node under its own name, with its own notification block
or else the global one, so every block a node ends up with names at least one transport, each
with a url. `ConfigFile.checkRegistrations` succeeds exactly when every node's protocol, and every
transport of its block, is registered.
-/

namespace SnapshotAgent.Config

open SnapshotAgent.Text SnapshotAgent.Time
open SnapshotAgent.Store (except_bind_eq_ok)

/-! ## Checks that either pass or fail -/

@[simp] theorem except_error_bind {ε α β : Type} (e : ε) (f : α → Except ε β) :
    (Except.error e >>= f : Except ε β) = .error e := rfl

@[simp] theorem except_throw {ε α : Type} (e : ε) : (throw e : Except ε α) = .error e := rfl

/-- A guard that fails when its condition holds lets through exactly what follows it. -/
@[simp] theorem except_guard_eq_ok {ε α : Type} {p : Prop} [Decidable p] {e : ε} {x : Except ε α}
    {a : α} : (if p then .error e else x) = .ok a ↔ ¬p ∧ x = .ok a := by
  by_cases hp : p <;> simp [hp]

@[simp] theorem exists_unit_eq_ok {ε : Type} {x : Except ε Unit} :
    (∃ u, x = .ok u) ↔ x = .ok () :=
  ⟨fun ⟨⟨⟩, h⟩ => h, fun h => ⟨(), h⟩⟩

/-- A loop whose steps either go on or fail succeeds exactly when every step goes on. -/
theorem forIn_eq_ok_iff {α ε : Type} {xs : List α}
    {f : α → Unit → Except ε (ForInStep Unit)}
    (hf : ∀ x, f x PUnit.unit ≠ .ok (.done PUnit.unit)) :
    forIn xs PUnit.unit f = .ok PUnit.unit ↔ ∀ x ∈ xs, f x PUnit.unit = .ok (.yield PUnit.unit) := by
  refine ⟨fun h => ?_, Store.forIn_yield_ok xs f⟩
  induction xs with
  | nil => simp
  | cons x xs ih =>
    rw [List.forIn_cons, except_bind_eq_ok] at h
    obtain ⟨step, hx, hrest⟩ := h
    cases step with
    | done u => exact absurd hx (hf x)
    | yield u =>
      intro y hy
      rcases List.mem_cons.1 hy with rfl | hy
      · exact hx
      · exact ih hrest y hy

/-- A loop that fails on the first element found bad succeeds exactly when none is bad. -/
theorem forIn_checks_eq_ok {α ε : Type} {xs : List α} {bad : α → Bool} {e : α → ε} :
    forIn xs PUnit.unit (fun x _ =>
      if bad x = true then .error (e x) else .ok (ForInStep.yield PUnit.unit) :
        α → Unit → Except ε (ForInStep Unit)) = .ok PUnit.unit ↔ ∀ x ∈ xs, bad x = false := by
  rw [forIn_eq_ok_iff fun x => by cases bad x <;> simp]
  refine forall₂_congr fun x _ => ?_
  cases bad x <;> simp

/-- The same loop with its test stated the other way round: it succeeds exactly when every
element passes. -/
theorem forIn_passes_eq_ok {α ε : Type} {xs : List α} {good : α → Prop} [DecidablePred good]
    {e : α → ε} :
    forIn xs PUnit.unit (fun x _ =>
      if good x then .ok (ForInStep.yield PUnit.unit) else .error (e x) :
        α → Unit → Except ε (ForInStep Unit)) = .ok PUnit.unit ↔ ∀ x ∈ xs, good x := by
  have h := @forIn_checks_eq_ok _ _ xs (fun x => !decide (good x)) e
  simpa [ite_not] using h

/-- A loop that runs a check on every element succeeds exactly when every check does. -/
theorem forIn_check_eq_ok {α ε : Type} {xs : List α} {g : α → Except ε Unit} {u : Unit} :
    forIn xs PUnit.unit (fun x _ => g x >>= fun _ => .ok (ForInStep.yield PUnit.unit) :
      α → Unit → Except ε (ForInStep Unit)) = .ok u ↔ ∀ x ∈ xs, g x = .ok () := by
  cases u
  rw [forIn_eq_ok_iff fun x => by cases g x <;> simp]
  refine forall₂_congr fun x _ => ?_
  cases g x <;> simp

theorem durationField_eq_ok {field value : String} {d : Duration} :
    durationField field value = .ok d ↔ parseDuration value = .ok d := by
  unfold durationField
  cases parseDuration value <;> simp [Except.mapError]

theorem scheduleField_eq_ok {field expr : String} {u : Unit} :
    scheduleField field expr = .ok u ↔ ∃ s, Schedule.parseSchedule expr = .ok s := by
  unfold scheduleField
  cases Schedule.parseSchedule expr <;> simp

/-! ## The requirements, field by field -/

/-- A notification block that can be delivered: at least one transport, each with a url. -/
def NotificationConfig.WellFormed (n : NotificationConfig) : Prop :=
  n.targets ≠ [] ∧ ∀ t ∈ n.targets, isBlankText t.2 = false

/-- What validation asks of one node: a name, a protocol and a url that are not blank, a
schedule that reads, and a notification block that can be delivered, when given. -/
@[mk_iff] structure RawNode.Acceptable (name : String) (node : RawNode) : Prop where
  name_named : isBlankText name = false
  protocol_named : isBlankText node.protocol = false
  url_named : isBlankText node.url = false
  schedule_reads : ∀ e, node.schedule = some e → ∃ s, Schedule.parseSchedule e = .ok s
  notifications_wellFormed : ∀ n, node.notifications = some n → n.WellFormed

/-- What validation asks of a whole configuration. -/
@[mk_iff] structure RawConfig.Acceptable (raw : RawConfig) : Prop where
  has_nodes : raw.nodes ≠ []
  tool_named : isBlankText raw.agent.tool = false
  monitor_reads : ∃ s, Schedule.parseSchedule raw.agent.monitorSchedule = .ok s
  command_timeout_reads : ∃ d, parseDuration raw.agent.commandTimeout = .ok d
  shutdown_timeout_reads : ∃ d, parseDuration raw.agent.shutdownTimeout = .ok d
  path_given : raw.database.path ≠ ""
  attempts_pos : 1 ≤ raw.database.retryAttempts
  retry_delay_reads : ∃ d, parseDuration raw.database.retryBaseDelay = .ok d
  notifications_wellFormed : ∀ n, raw.notifications = some n → n.WellFormed
  nodes_acceptable : ∀ p ∈ raw.nodes, RawNode.Acceptable p.1 p.2

/-! ## Each check against its requirement -/

theorem validateNotifications_eq_ok (block : String) (n : NotificationConfig) {u : Unit} :
    validateNotifications block n = .ok u ↔ n.WellFormed := by
  cases u
  unfold validateNotifications NotificationConfig.WellFormed
  by_cases hempty : n.targets = []
  · simp [hempty]
  rw [if_neg (by simpa using hempty)]
  dsimp only
  simp only [except_throw, except_error_bind, Store.except_pure, except_bind_eq_ok]
  constructor
  · rintro ⟨⟨⟩, hloop, -⟩
    exact ⟨hempty, forIn_checks_eq_ok.1 hloop⟩
  · rintro ⟨-, hurls⟩
    exact ⟨(), forIn_checks_eq_ok.2 hurls, trivial⟩

theorem validateNode_eq_ok (name : String) (node : RawNode) :
    validateNode name node = .ok () ↔ RawNode.Acceptable name node := by
  rw [RawNode.acceptable_iff]
  unfold validateNode
  cases hs : node.schedule <;> cases hn : node.notifications <;>
    simp [except_bind_eq_ok, scheduleField_eq_ok, validateNotifications_eq_ok]

theorem validateRaw_eq_ok (raw : RawConfig) : validateRaw raw = .ok () ↔ raw.Acceptable := by
  rw [RawConfig.acceptable_iff]
  unfold validateRaw
  cases hn : raw.notifications <;>
    simp [except_bind_eq_ok, scheduleField_eq_ok, durationField_eq_ok, validateNotifications_eq_ok,
      forIn_check_eq_ok, validateNode_eq_ok, Nat.one_le_iff_ne_zero]

theorem checkRegistrations_eq_ok (c : ConfigFile) (protocols notifiers : List String) :
    c.checkRegistrations protocols notifiers = .ok () ↔
      ∀ spec ∈ c.nodes, spec.protocol ∈ protocols ∧
        ∀ n, spec.notifications = some n → ∀ t ∈ n.targets, t.1 ∈ notifiers := by
  unfold ConfigFile.checkRegistrations
  rw [except_bind_eq_ok]
  simp only [Store.except_pure, and_true, exists_unit_eq_ok]
  rw [forIn_eq_ok_iff]
  · refine forall₂_congr fun spec _ => ?_
    cases hn : spec.notifications <;> by_cases hp : spec.protocol ∈ protocols <;>
      simp [hp, except_bind_eq_ok, forIn_passes_eq_ok]
  · intro spec
    cases hn : spec.notifications <;> by_cases hp : spec.protocol ∈ protocols <;>
      simp [hp, except_bind_eq_ok]

/-! ## The configuration built -/

/-- How an entry of the file becomes a configured node: under its own name, with its own
settings, and with its own notification block or else the global one. -/
def NodeSpec.Configures (global : Option NotificationConfig) (spec : NodeSpec)
    (entry : String × RawNode) : Prop :=
  spec.name = entry.1 ∧ spec.protocol = entry.2.protocol ∧ spec.nodeType = entry.2.nodeType ∧
    spec.url = entry.2.url ∧ spec.beaconUrl = entry.2.beaconUrl ∧
    spec.schedule = entry.2.schedule ∧
    spec.notifications = entry.2.notifications.orElse fun _ => global

section Built

variable {raw : RawConfig} {c : ConfigFile}

/-- What a built configuration is made of: the file passed validation, each node configures its
entry, the command timeout is the one read unless it is zero, and the retry policy takes the
attempts of the file. -/
theorem ConfigFile.ofRaw_inv (h : ConfigFile.ofRaw raw = .ok c) :
    raw.Acceptable ∧ List.Forall₂ (NodeSpec.Configures raw.notifications) c.nodes raw.nodes ∧
      (∀ spec ∈ c.nodes, ∃ entry ∈ raw.nodes, NodeSpec.Configures raw.notifications spec entry) ∧
      (∃ d, parseDuration raw.agent.commandTimeout = .ok d ∧
        c.agent.commandTimeout = if d = Duration.zero then none else some d) ∧
      ∃ delay, c.database.retry = Store.RetryPolicy.new raw.database.retryAttempts delay := by
  unfold ConfigFile.ofRaw at h
  simp only [except_bind_eq_ok] at h
  obtain ⟨⟨⟩, hvalid, command, hcommand, shutdown, -, delay, -, hc⟩ := h
  cases hc
  refine ⟨(validateRaw_eq_ok raw).1 hvalid, ?_, ?_, ⟨command, durationField_eq_ok.1 hcommand, rfl⟩,
    delay, rfl⟩
  · -- the nodes are built one for one from the entries
    rw [List.forall₂_map_left_iff, List.forall₂_same]
    exact fun _ _ => ⟨rfl, rfl, rfl, rfl, rfl, rfl, rfl⟩
  · intro spec hspec
    obtain ⟨entry, hentry, rfl⟩ := List.mem_map.1 hspec
    exact ⟨entry, hentry, rfl, rfl, rfl, rfl, rfl, rfl, rfl⟩

/-- A file that passes validation is always built: the durations that validation read are read
again the same way. -/
theorem ConfigFile.ofRaw_of_acceptable (h : raw.Acceptable) : ∃ c, ConfigFile.ofRaw raw = .ok c := by
  obtain ⟨command, hcommand⟩ := h.command_timeout_reads
  obtain ⟨shutdown, hshutdown⟩ := h.shutdown_timeout_reads
  obtain ⟨delay, hdelay⟩ := h.retry_delay_reads
  unfold ConfigFile.ofRaw
  simp only [except_bind_eq_ok]
  exact ⟨_, (), (validateRaw_eq_ok raw).2 h, command, durationField_eq_ok.2 hcommand,
    shutdown, durationField_eq_ok.2 hshutdown, delay, durationField_eq_ok.2 hdelay, rfl⟩

/-- Every notification block a configured node ends up with can be delivered, whether it is the
node's own or the global one. -/
theorem ConfigFile.ofRaw_blocks_wellFormed (h : ConfigFile.ofRaw raw = .ok c) :
    ∀ spec ∈ c.nodes, ∀ n, spec.notifications = some n → n.WellFormed := by
  obtain ⟨hacc, -, hentries, -⟩ := ConfigFile.ofRaw_inv h
  intro spec hspec n hn
  obtain ⟨⟨name, node⟩, hmem, -, -, -, -, -, -, hblock⟩ := hentries spec hspec
  rw [hblock] at hn
  cases hown : node.notifications with
  | some m =>
    rw [hown] at hn
    cases hn
    exact (hacc.nodes_acceptable _ hmem).notifications_wellFormed _ hown
  | none =>
    rw [hown] at hn
    exact hacc.notifications_wellFormed n hn

end Built

/-- Configuration acceptance. A file is accepted exactly when it meets every requirement of
validation. The configuration built keeps each node under its own name with its own notification
block or else the global one, so every block a node ends up with can be delivered; a zero command
timeout means none; and the retry policy takes the attempts of the file. The registration check
passes exactly when every node's protocol and transports are registered. -/
theorem config_acceptance (raw : RawConfig) :
    ((∃ c, ConfigFile.ofRaw raw = .ok c) ↔ raw.Acceptable) ∧
    (∀ c, ConfigFile.ofRaw raw = .ok c →
      List.Forall₂ (NodeSpec.Configures raw.notifications) c.nodes raw.nodes ∧
      (∀ spec ∈ c.nodes, ∀ n, spec.notifications = some n → n.WellFormed) ∧
      (∃ d, parseDuration raw.agent.commandTimeout = .ok d ∧
        (c.agent.commandTimeout = none ↔ d = Duration.zero) ∧
        (d ≠ Duration.zero → c.agent.commandTimeout = some d)) ∧
      c.database.retry.attempts = raw.database.retryAttempts) ∧
    (∀ (c : ConfigFile) (protocols notifiers : List String),
      c.checkRegistrations protocols notifiers = .ok () ↔
        ∀ spec ∈ c.nodes, spec.protocol ∈ protocols ∧
          ∀ n, spec.notifications = some n → ∀ t ∈ n.targets, t.1 ∈ notifiers) := by
  refine ⟨⟨fun ⟨c, hc⟩ => (ConfigFile.ofRaw_inv hc).1, ConfigFile.ofRaw_of_acceptable⟩,
    fun c hc => ?_, checkRegistrations_eq_ok⟩
  obtain ⟨hacc, hnodes, -, ⟨d, hd, htimeout⟩, delay, hretry⟩ := ConfigFile.ofRaw_inv hc
  refine ⟨hnodes, ConfigFile.ofRaw_blocks_wellFormed hc, ⟨d, hd, ?_, ?_⟩, ?_⟩
  · rw [htimeout]
    split_ifs with hzero <;> simp [hzero]
  · intro hzero
    rw [htimeout, if_neg hzero]
  · -- validation asked for at least one attempt, so the policy's floor of one changes nothing
    rw [hretry, Store.RetryPolicy.new]
    exact Nat.max_eq_left hacc.attempts_pos

/-- One node on the default settings. -/
def sampleRaw : RawConfig :=
  { nodes := [("eth", { protocol := "ethereum", url := "http://localhost:8545" })] }

theorem sampleRaw_accepted :
    ∃ c, ConfigFile.ofRaw sampleRaw = .ok c ∧ c.database.retry.attempts = 3 := by
  obtain ⟨c, hc⟩ := (config_acceptance sampleRaw).1.2
    { has_nodes := by decide
      tool_named := by decide
      monitor_reads := ⟨_, rfl⟩
      command_timeout_reads := ⟨_, rfl⟩
      shutdown_timeout_reads := ⟨_, rfl⟩
      path_given := by decide
      attempts_pos := by decide
      retry_delay_reads := ⟨_, rfl⟩
      notifications_wellFormed := fun n hn => nomatch hn
      nodes_acceptable := by
        intro p hp
        simp only [sampleRaw, List.mem_singleton] at hp
        subst hp
        exact ⟨by decide, by decide, by decide, fun e he => (nomatch he), fun n hn => (nomatch hn)⟩ }
  exact ⟨c, hc, ((config_acceptance sampleRaw).2.1 c hc).2.2.2⟩

end SnapshotAgent.Config
