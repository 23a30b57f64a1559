import WhitelistBridge.UpdateBridge
import WhitelistBridge.Ros1Poll
import WhitelistBridge.Ros2Poll

/-!
# The two pollers and the state they share

The bridge runs two timers, `ros1_poll` on the ROS 1 spinner thread and `ros2_poll` on the
ROS 2 executor. Each cycle builds snapshots, publishes them under `g_bridge_mutex`, and calls
`update_bridge`, which holds the mutex for its whole pass. Between those critical sections the
two cycles interleave freely, so a pass may see the snapshots one poller published and the
other poller's snapshots from any earlier cycle.

A cycle is cut into the steps at which it touches the shared state:

* `ros1_poll`: `ros1SystemState` (query `getSystemState`, check the rows, probe the services,
  publish `ros1_services`), `ros1Topics` (query `getTopics`, publish `ros1_publishers` and
  `ros1_subscribers`), `ros1Update` (`update_bridge`);
* `ros2_poll`: `ros2Graph` (read the graph and the topic registries, publish
  `ros2_services`), `ros2PublishTopics` (publish `ros2_publishers` and `ros2_subscribers`),
  `ros2Update` (`update_bridge`).

Each poller's `Ros1Phase` or `Ros2Phase` says which of its steps comes next and carries what
the cycle computed for it. `step` takes one event; it is `none` when the event is not the
poller's next step, and also when the step does not return (undefined behaviour in a probe, a
throwing or endless `update_bridge`). Every outcome of the outside world is an argument of an
event: the master's answers, the probes, the ROS 2 graph, and the bridge factories.

The ROS 2 topic loop reads `bridges_1to2` and `bridges_2to1` without the mutex; the model reads
them at the `ros2Graph` step.

## Main results

All of them rest on one `Invariant`, which holds initially and which every step keeps, and
on `step_frame`, which says what a step can change besides the snapshots. Each kind of step has
one lemma that says everything it can do (`step_ros1SystemState_some`, `step_ros2Graph`, ...);
the proofs cite those and never unfold `step`.

* `reachable_whitelisted`: every snapshot and every registry of a reachable state holds only
  names the whitelist of its kind admits.
* `reachable_serviceBridgesDisjoint`: no reachable state bridges a service both ways.
* `reachable_serviceSnapshots`: the ROS 2 service entries are complete; a ROS 1 service entry
  may be the empty one a failed header parse leaves.
* `ros1Poll_snapshots`: a ROS 1 cycle whose queries succeed publishes topic snapshots that
  depend only on the master's answers and the whitelist, after any history.
* `ros2Poll_snapshots_from_ignored`: a ROS 2 cycle's snapshots, name by name, depend on the
  earlier cycles through the ignored sets they left, and the cycle adds to those sets what it
  ignores; `ros2Poll_skips_topic_once_multityped` is a run where that matters.
* `ros2Poll_ignored_topic_unpublished` and `ros2Poll_ignored_service_unpublished`: the ignored
  sets only grow, so a name the ROS 2 poller has once ignored is left out of every snapshot it
  publishes later.
* `ros1Cycle_bridges_wanted_topic`: what the bridge is for. A whole ROS 1 cycle bridges to
  ROS 2 every admitted topic that another node publishes on ROS 1 and that ROS 2 subscribes
  to, with exactly the two types, unless the factory throws.
* `step_keepsBridges`: no step tears a bridge down to set it up again as it was.
* `ros2Poll_lists_own_service_server`: a run in which the bridge bridges back a service that
  only its own server offered, because ROS 2 discovery does not tell the bridge's own servers
  apart.

The witnesses are taken in states that runs from the start fill (`populatedState` and the states
around it), so that every map they speak of holds entries.
-/

namespace WhitelistBridge

variable {ρ H12 H21 S12 S21 : Type}

/-- Where a `ros1_poll` cycle stands. -/
inductive Ros1Phase
  | idle
  /-- `ros1_services` is published; the active topics wait for `getTopics`. -/
  | servicesPublished (activePublishers activeSubscribers : List String)
  /-- The topic snapshots are published; `update_bridge` comes next. -/
  | topicsPublished

/-- Where a `ros2_poll` cycle stands. -/
inductive Ros2Phase
  | idle
  /-- `ros2_services` is published; the topic snapshots are built and wait for the mutex. -/
  | servicesPublished (currentRos2Publishers currentRos2Subscribers : StrMap String)
  /-- The topic snapshots are published; `update_bridge` comes next. -/
  | topicsPublished

/-- The whole bridge: the shared snapshots and registries, and each poller's sets and phase. -/
structure BridgeState (H12 H21 S12 S21 : Type) where
  snapshots : Snapshots
  registry : Registry H12 H21 S12 S21
  ros1Poller : Ros1PollerState
  ros1Phase : Ros1Phase
  ros2Poller : Ros2PollerState
  ros2Phase : Ros2Phase

/-- The bridge as `main` starts the timers. -/
def BridgeState.init : BridgeState H12 H21 S12 S21 :=
  ⟨Snapshots.empty, Registry.empty, Ros1PollerState.empty, .idle, Ros2PollerState.empty, .idle⟩

/-- One step of one poller, with what the outside world gives it. -/
inductive PollEvent (H12 H21 S12 S21 : Type)
  /-- `getSystemState` answers (`none`: the query failed), the services answer the probes. -/
  | ros1SystemState (payload : Option SystemState) (probe : String → ServiceProbe)
  /-- `getTopics` answers (`none`: the query failed). -/
  | ros1Topics (topics : Option (StrMap String))
  | ros1Update (f : Factories H12 H21 S12 S21)
  | ros2Graph (graph : Ros2Graph)
  | ros2PublishTopics
  | ros2Update (f : Factories H12 H21 S12 S21)

/-! ### The steps -/

section Steps

variable (cfg : BridgeConfig ρ)

/-- `ros1_poll` up to publishing `ros1_services`; a failed `getSystemState` ends the cycle. -/
def ros1PollSystemState (payload? : Option SystemState) (probe : String → ServiceProbe)
    (s : BridgeState H12 H21 S12 S21) : Option (BridgeState H12 H21 S12 S21) :=
  match s.ros1Phase, payload? with
  | .idle, none => some s
  | .idle, some payload =>
    let (st, activePublishers, activeSubscribers) := collectActiveTopics cfg s.ros1Poller payload
    (collectRos1Services cfg probe st payload).map fun (st, activeRos1Services) ↦
      { s with
        ros1Poller := st
        snapshots := { s.snapshots with ros1Services := activeRos1Services }
        ros1Phase := .servicesPublished activePublishers activeSubscribers }
  | _, _ => none

/-- `ros1_poll` from `getTopics` to publishing the topic snapshots; a failed query ends the
cycle. -/
def ros1PollTopics (topics? : Option (StrMap String)) (s : BridgeState H12 H21 S12 S21) :
    Option (BridgeState H12 H21 S12 S21) :=
  match s.ros1Phase, topics? with
  | .servicesPublished _ _, none => some { s with ros1Phase := .idle }
  | .servicesPublished activePublishers activeSubscribers, some topics =>
    let (pubs, subs) := currentRos1Topics activePublishers activeSubscribers topics
    some { s with
      snapshots := { s.snapshots with ros1Publishers := pubs, ros1Subscribers := subs }
      ros1Phase := .topicsPublished }
  | _, _ => none

/-- The `update_bridge` call that ends a `ros1_poll` cycle. -/
def ros1PollUpdate (f : Factories H12 H21 S12 S21) (s : BridgeState H12 H21 S12 S21) :
    Option (BridgeState H12 H21 S12 S21) :=
  match s.ros1Phase with
  | .topicsPublished =>
    (updateBridge cfg f s.snapshots s.registry).map fun registry ↦
      { s with registry, ros1Phase := .idle }
  | _ => none

/-- `ros2_poll` up to publishing `ros2_services`. -/
def ros2PollGraph (graph : Ros2Graph) (s : BridgeState H12 H21 S12 S21) :
    Option (BridgeState H12 H21 S12 S21) :=
  match s.ros2Phase with
  | .idle =>
    let (st, currentRos2Publishers, currentRos2Subscribers) :=
      collectRos2Topics cfg graph s.registry.bridges1to2 s.registry.bridges2to1 s.ros2Poller
    let (st, activeRos2Services) := collectRos2Services cfg graph st
    some { s with
      ros2Poller := st
      snapshots := { s.snapshots with ros2Services := activeRos2Services }
      ros2Phase := .servicesPublished currentRos2Publishers currentRos2Subscribers }
  | _ => none

/-- `ros2_poll` publishing the topic snapshots. -/
def ros2PollPublishTopics (s : BridgeState H12 H21 S12 S21) :
    Option (BridgeState H12 H21 S12 S21) :=
  match s.ros2Phase with
  | .servicesPublished pubs subs =>
    some { s with
      snapshots := { s.snapshots with ros2Publishers := pubs, ros2Subscribers := subs }
      ros2Phase := .topicsPublished }
  | _ => none

/-- The `update_bridge` call that ends a `ros2_poll` cycle. -/
def ros2PollUpdate (f : Factories H12 H21 S12 S21) (s : BridgeState H12 H21 S12 S21) :
    Option (BridgeState H12 H21 S12 S21) :=
  match s.ros2Phase with
  | .topicsPublished =>
    (updateBridge cfg f s.snapshots s.registry).map fun registry ↦
      { s with registry, ros2Phase := .idle }
  | _ => none

/-- One event: the step it names, of the poller it belongs to. -/
def step (s : BridgeState H12 H21 S12 S21) : PollEvent H12 H21 S12 S21 →
    Option (BridgeState H12 H21 S12 S21)
  | .ros1SystemState payload? probe => ros1PollSystemState cfg payload? probe s
  | .ros1Topics topics? => ros1PollTopics topics? s
  | .ros1Update f => ros1PollUpdate cfg f s
  | .ros2Graph graph => ros2PollGraph cfg graph s
  | .ros2PublishTopics => ros2PollPublishTopics s
  | .ros2Update f => ros2PollUpdate cfg f s

/-- The states some interleaving of the two pollers reaches from the start. -/
inductive Reachable : BridgeState H12 H21 S12 S21 → Prop
  | init : Reachable BridgeState.init
  | next {s s' : BridgeState H12 H21 S12 S21} (e : PollEvent H12 H21 S12 S21) :
      Reachable s → step cfg s e = some s' → Reachable s'

/-- A sequence of events from a state; `none` when one of them cannot be taken. -/
def run (s : BridgeState H12 H21 S12 S21) (events : List (PollEvent H12 H21 S12 S21)) :
    Option (BridgeState H12 H21 S12 S21) :=
  events.foldlM (step cfg) s

/-- Every state a run reaches from a reachable state is reachable. -/
theorem Reachable.run {s s' : BridgeState H12 H21 S12 S21} (hs : Reachable cfg s)
    {events : List (PollEvent H12 H21 S12 S21)} (h : run cfg s events = some s') :
    Reachable cfg s' :=
  foldlM_invariant (Reachable cfg) (fun _ e _ hb he ↦ .next e hb he) events hs h

@[simp]
theorem run_nil (s : BridgeState H12 H21 S12 S21) : run cfg s [] = some s :=
  rfl

@[simp]
theorem run_cons (s : BridgeState H12 H21 S12 S21) (e : PollEvent H12 H21 S12 S21)
    (events : List (PollEvent H12 H21 S12 S21)) :
    run cfg s (e :: events) = (step cfg s e).bind fun s₁ ↦ run cfg s₁ events :=
  rfl

end Steps

/-! ### What each step can do -/

section StepCases

variable {cfg : BridgeConfig ρ} {s s' : BridgeState H12 H21 S12 S21}

/-- A failed `getSystemState` ends the cycle having changed nothing. -/
theorem step_ros1SystemState_none {probe : String → ServiceProbe}
    (h : step cfg s (.ros1SystemState none probe) = some s') : s.ros1Phase = .idle ∧ s' = s := by
  unfold step ros1PollSystemState at h
  rcases hp : s.ros1Phase with _ | ⟨_, _⟩ | _ <;>
    simp only [hp, reduceCtorEq, Option.some.injEq] at h
  exact ⟨rfl, h.symm⟩

/-- A successful `getSystemState` checks the rows, publishes the service snapshot they give, and
carries the active topics to the next step. -/
theorem step_ros1SystemState_some {payload : SystemState} {probe : String → ServiceProbe}
    (h : step cfg s (.ros1SystemState (some payload) probe) = some s') :
    s.ros1Phase = .idle ∧ ∃ st₀ pubs subs st services,
      collectActiveTopics cfg s.ros1Poller payload = (st₀, pubs, subs) ∧
      collectRos1Services cfg probe st₀ payload = some (st, services) ∧
      s' = { s with
        ros1Poller := st
        snapshots := { s.snapshots with ros1Services := services }
        ros1Phase := .servicesPublished pubs subs } := by
  unfold step ros1PollSystemState at h
  rcases hp : s.ros1Phase with _ | ⟨_, _⟩ | _ <;> simp only [hp, reduceCtorEq] at h
  rcases hc : collectActiveTopics cfg s.ros1Poller payload with ⟨st₀, pubs, subs⟩
  rw [hc] at h
  obtain ⟨⟨st, services⟩, hcol, rfl⟩ := Option.map_eq_some'.1 h
  exact ⟨rfl, st₀, pubs, subs, st, services, rfl, hcol, rfl⟩

/-- A failed `getTopics` ends the cycle; the service snapshot stays published. -/
theorem step_ros1Topics_none (h : step cfg s (.ros1Topics none) = some s') :
    (∃ pubs subs, s.ros1Phase = .servicesPublished pubs subs) ∧
      s' = { s with ros1Phase := .idle } := by
  unfold step ros1PollTopics at h
  rcases hp : s.ros1Phase with _ | ⟨pubs, subs⟩ | _ <;>
    simp only [hp, reduceCtorEq, Option.some.injEq] at h
  exact ⟨⟨pubs, subs, rfl⟩, h.symm⟩

/-- A successful `getTopics` publishes the topic snapshots built from the active topics the
cycle carries. -/
theorem step_ros1Topics_some {topics : StrMap String}
    (h : step cfg s (.ros1Topics (some topics)) = some s') :
    ∃ pubs subs, s.ros1Phase = .servicesPublished pubs subs ∧
      s' = { s with
        snapshots := { s.snapshots with
          ros1Publishers := (currentRos1Topics pubs subs topics).1
          ros1Subscribers := (currentRos1Topics pubs subs topics).2 }
        ros1Phase := .topicsPublished } := by
  unfold step ros1PollTopics at h
  rcases hp : s.ros1Phase with _ | ⟨pubs, subs⟩ | _ <;>
    simp only [hp, reduceCtorEq, Option.some.injEq] at h
  exact ⟨pubs, subs, rfl, h.symm⟩

/-- The `update_bridge` step reconciles the registries with the snapshots as they stand, and
ends the cycle. -/
theorem step_ros1Update {f : Factories H12 H21 S12 S21} (h : step cfg s (.ros1Update f) = some s') :
    s.ros1Phase = .topicsPublished ∧ ∃ registry,
      updateBridge cfg f s.snapshots s.registry = some registry ∧
      s' = { s with registry, ros1Phase := .idle } := by
  unfold step ros1PollUpdate at h
  rcases hp : s.ros1Phase with _ | ⟨_, _⟩ | _ <;> simp only [hp, reduceCtorEq] at h
  obtain ⟨registry, hu, rfl⟩ := Option.map_eq_some'.1 h
  exact ⟨rfl, registry, hu, rfl⟩

/-- Reading the ROS 2 graph runs the topic loop and then the service loop, publishes the service
snapshot, and carries the topic snapshots to the next step. -/
theorem step_ros2Graph {graph : Ros2Graph} (h : step cfg s (.ros2Graph graph) = some s') :
    s.ros2Phase = .idle ∧
      let topics :=
        collectRos2Topics cfg graph s.registry.bridges1to2 s.registry.bridges2to1 s.ros2Poller
      let services := collectRos2Services cfg graph topics.1
      s' = { s with
        ros2Poller := services.1
        snapshots := { s.snapshots with ros2Services := services.2 }
        ros2Phase := .servicesPublished topics.2.1 topics.2.2 } := by
  unfold step ros2PollGraph at h
  rcases hp : s.ros2Phase with _ | ⟨_, _⟩ | _ <;>
    simp only [hp, reduceCtorEq, Option.some.injEq] at h
  exact ⟨rfl, h.symm⟩

/-- Publishing the ROS 2 topic snapshots the cycle carries. -/
theorem step_ros2PublishTopics (h : step cfg s .ros2PublishTopics = some s') :
    ∃ pubs subs, s.ros2Phase = .servicesPublished pubs subs ∧
      s' = { s with
        snapshots := { s.snapshots with ros2Publishers := pubs, ros2Subscribers := subs }
        ros2Phase := .topicsPublished } := by
  unfold step ros2PollPublishTopics at h
  rcases hp : s.ros2Phase with _ | ⟨pubs, subs⟩ | _ <;>
    simp only [hp, reduceCtorEq, Option.some.injEq] at h
  exact ⟨pubs, subs, rfl, h.symm⟩

/-- The `update_bridge` step of `ros2_poll`, like the one of `ros1_poll`. -/
theorem step_ros2Update {f : Factories H12 H21 S12 S21} (h : step cfg s (.ros2Update f) = some s') :
    s.ros2Phase = .topicsPublished ∧ ∃ registry,
      updateBridge cfg f s.snapshots s.registry = some registry ∧
      s' = { s with registry, ros2Phase := .idle } := by
  unfold step ros2PollUpdate at h
  rcases hp : s.ros2Phase with _ | ⟨_, _⟩ | _ <;> simp only [hp, reduceCtorEq] at h
  obtain ⟨registry, hu, rfl⟩ := Option.map_eq_some'.1 h
  exact ⟨rfl, registry, hu, rfl⟩

end StepCases

/-! ### Every held name is whitelisted -/

/-- The six snapshots hold only names the whitelist of their kind admits. -/
structure Snapshots.Whitelisted (cfg : BridgeConfig ρ) (snapshots : Snapshots) : Prop where
  ros1Publishers :
    ∀ t ∈ snapshots.ros1Publishers, Admits cfg.regexMatch cfg.topicRegexList t
  ros1Subscribers :
    ∀ t ∈ snapshots.ros1Subscribers, Admits cfg.regexMatch cfg.topicRegexList t
  ros2Publishers :
    ∀ t ∈ snapshots.ros2Publishers, Admits cfg.regexMatch cfg.topicRegexList t
  ros2Subscribers :
    ∀ t ∈ snapshots.ros2Subscribers, Admits cfg.regexMatch cfg.topicRegexList t
  ros1Services : ∀ n ∈ snapshots.ros1Services, Admits cfg.regexMatch cfg.serviceRegexList n
  ros2Services : ∀ n ∈ snapshots.ros2Services, Admits cfg.regexMatch cfg.serviceRegexList n

/-- The four registries hold only names the whitelist of their kind admits. -/
structure Registry.Whitelisted (cfg : BridgeConfig ρ) (registry : Registry H12 H21 S12 S21) :
    Prop where
  bridges1to2 : ∀ t ∈ registry.bridges1to2, Admits cfg.regexMatch cfg.topicRegexList t
  bridges2to1 : ∀ t ∈ registry.bridges2to1, Admits cfg.regexMatch cfg.topicRegexList t
  serviceBridges1To2 :
    ∀ n ∈ registry.serviceBridges1To2, Admits cfg.regexMatch cfg.serviceRegexList n
  serviceBridges2To1 :
    ∀ n ∈ registry.serviceBridges2To1, Admits cfg.regexMatch cfg.serviceRegexList n

/-- The topics a `ros1_poll` cycle carries between its steps are whitelisted. -/
def Ros1Phase.Whitelisted (cfg : BridgeConfig ρ) : Ros1Phase → Prop
  | .servicesPublished activePublishers activeSubscribers =>
    (∀ t ∈ activePublishers, Admits cfg.regexMatch cfg.topicRegexList t) ∧
      ∀ t ∈ activeSubscribers, Admits cfg.regexMatch cfg.topicRegexList t
  | _ => True

/-- The topics a `ros2_poll` cycle carries between its steps are whitelisted. -/
def Ros2Phase.Whitelisted (cfg : BridgeConfig ρ) : Ros2Phase → Prop
  | .servicesPublished pubs subs =>
    (∀ t ∈ pubs, Admits cfg.regexMatch cfg.topicRegexList t) ∧
      ∀ t ∈ subs, Admits cfg.regexMatch cfg.topicRegexList t
  | _ => True

/-- The topic snapshots a `ros2_poll` cycle carries omit every topic the poller ignores. -/
def Ros2Phase.OmitsIgnored (st : Ros2PollerState) : Ros2Phase → Prop
  | .servicesPublished pubs subs => ∀ t ∈ st.alreadyIgnoredTopics, t ∉ pubs ∧ t ∉ subs
  | _ => True

/-- **The invariant of the reachable states**: the shared state and what each poller carries
are whitelisted, the pollers' sets are sound, no service is bridged both ways, the service
snapshots hold only entries their pollers can build, and the topic snapshots the ROS 2 poller
carries omit the topics it ignores. -/
structure Invariant (cfg : BridgeConfig ρ) (s : BridgeState H12 H21 S12 S21) : Prop where
  snapshots : s.snapshots.Whitelisted cfg
  registry : s.registry.Whitelisted cfg
  disjoint : ServiceBridgesDisjoint s.registry
  ros1Services : ∀ n d, s.snapshots.ros1Services.lookup n = some d → ProbedEntry d
  ros2Services : ServiceEntriesComplete s.snapshots.ros2Services
  ros1Poller : s.ros1Poller.Sound cfg
  ros2Poller : s.ros2Poller.Sound cfg
  ros1Phase : s.ros1Phase.Whitelisted cfg
  ros2Phase : s.ros2Phase.Whitelisted cfg
  ros2Ignored : s.ros2Phase.OmitsIgnored s.ros2Poller

section Invariant

variable {cfg : BridgeConfig ρ} {s s' : BridgeState H12 H21 S12 S21}

theorem invariant_init : Invariant cfg (BridgeState.init : BridgeState H12 H21 S12 S21) where
  snapshots := ⟨nofun, nofun, nofun, nofun, nofun, nofun⟩
  registry := ⟨nofun, nofun, nofun, nofun⟩
  disjoint _ h := absurd h (AList.not_mem_empty _)
  ros1Services _ _ h := nomatch h
  ros2Services := serviceEntriesComplete_empty
  ros1Poller := Ros1PollerState.sound_empty cfg
  ros2Poller := Ros2PollerState.sound_empty cfg
  ros1Phase := trivial
  ros2Phase := trivial
  ros2Ignored := trivial

/-- `update_bridge` on whitelisted snapshots keeps the registries whitelisted. -/
theorem Registry.Whitelisted.updateBridge {f : Factories H12 H21 S12 S21} {snapshots : Snapshots}
    {registry registry' : Registry H12 H21 S12 S21} (hr : registry.Whitelisted cfg)
    (hs : snapshots.Whitelisted cfg) (h : updateBridge cfg f snapshots registry = some registry') :
    registry'.Whitelisted cfg where
  bridges1to2 t ht := ((mem_updateBridge h).1 ht).elim (hr.bridges1to2 t) (hs.ros1Publishers t)
  bridges2to1 t ht := ((mem_updateBridge h).2.1 ht).elim (hr.bridges2to1 t) (hs.ros2Publishers t)
  serviceBridges1To2 n hn := hs.ros2Services n ((mem_updateBridge h).2.2.1 hn)
  serviceBridges2To1 n hn := hs.ros1Services n ((mem_updateBridge h).2.2.2 hn)

theorem Invariant.ros1SystemState {payload? : Option SystemState}
    {probe : String → ServiceProbe} (hi : Invariant cfg s)
    (h : ros1PollSystemState cfg payload? probe s = some s') : Invariant cfg s' := by
  rcases payload? with _ | payload
  · exact (step_ros1SystemState_none h).2 ▸ hi
  obtain ⟨-, st₀, pubs, subs, st, services, hc, hcol, rfl⟩ := step_ros1SystemState_some h
  obtain ⟨hs₁, hpub, hsub⟩ := collectActiveTopics_spec hi.ros1Poller payload
  rw [hc] at hs₁ hpub hsub
  obtain ⟨hs₂, hsvc, hent⟩ := collectRos1Services_spec hs₁ hcol
  exact { hi with
    snapshots := { hi.snapshots with ros1Services := hsvc }
    ros1Services := hent
    ros1Poller := hs₂
    ros1Phase := ⟨fun t ht ↦ ((hpub t).1 ht).1, fun t ht ↦ ((hsub t).1 ht).1⟩ }

theorem Invariant.ros1Topics {topics? : Option (StrMap String)} (hi : Invariant cfg s)
    (h : step cfg s (.ros1Topics topics?) = some s') : Invariant cfg s' := by
  rcases topics? with _ | topics
  · obtain ⟨-, rfl⟩ := step_ros1Topics_none h
    exact { hi with ros1Phase := trivial }
  obtain ⟨pubs, subs, hp, rfl⟩ := step_ros1Topics_some h
  have hph := hi.ros1Phase
  rw [hp] at hph
  exact { hi with
    snapshots := { hi.snapshots with
      ros1Publishers := fun t ht ↦ hph.1 t ((mem_currentRos1Topics pubs subs).1 ht)
      ros1Subscribers := fun t ht ↦ hph.2 t ((mem_currentRos1Topics pubs subs).2 ht) }
    ros1Phase := trivial }

theorem Invariant.ros1Update {f : Factories H12 H21 S12 S21} (hi : Invariant cfg s)
    (h : ros1PollUpdate cfg f s = some s') : Invariant cfg s' := by
  obtain ⟨-, registry, hu, rfl⟩ := step_ros1Update h
  exact { hi with
    registry := hi.registry.updateBridge hi.snapshots hu
    disjoint := updateBridge_disjoint hu hi.disjoint
    ros1Phase := trivial }

theorem Invariant.ros2Graph {graph : Ros2Graph} (hi : Invariant cfg s)
    (h : ros2PollGraph cfg graph s = some s') : Invariant cfg s' := by
  obtain ⟨-, rfl⟩ := step_ros2Graph h
  obtain ⟨hs₁, hpub, hsub⟩ :=
    collectRos2Topics_spec graph s.registry.bridges1to2 s.registry.bridges2to1 hi.ros2Poller
  obtain ⟨hs₂, hcomp, hsvc⟩ := collectRos2Services_spec hs₁ graph
  exact { hi with
    snapshots := { hi.snapshots with ros2Services := hsvc }
    ros2Services := hcomp
    ros2Poller := hs₂
    ros2Phase := ⟨hpub, hsub⟩
    ros2Ignored := fun _ ht ↦ not_mem_collectRos2Topics_of_ignored graph _ _ hi.ros2Poller
      (collectRos2Services_alreadyIgnoredTopics graph _ ▸ ht) }

theorem Invariant.ros2PublishTopics (hi : Invariant cfg s)
    (h : step cfg s .ros2PublishTopics = some s') : Invariant cfg s' := by
  obtain ⟨pubs, subs, hp, rfl⟩ := step_ros2PublishTopics h
  have hph := hi.ros2Phase
  rw [hp] at hph
  exact { hi with
    snapshots := { hi.snapshots with ros2Publishers := hph.1, ros2Subscribers := hph.2 }
    ros2Phase := trivial
    ros2Ignored := trivial }

theorem Invariant.ros2Update {f : Factories H12 H21 S12 S21} (hi : Invariant cfg s)
    (h : ros2PollUpdate cfg f s = some s') : Invariant cfg s' := by
  obtain ⟨-, registry, hu, rfl⟩ := step_ros2Update h
  exact { hi with
    registry := hi.registry.updateBridge hi.snapshots hu
    disjoint := updateBridge_disjoint hu hi.disjoint
    ros2Phase := trivial
    ros2Ignored := trivial }

/-- Every step keeps the invariant. -/
theorem Invariant.step {e : PollEvent H12 H21 S12 S21} (hi : Invariant cfg s)
    (h : step cfg s e = some s') : Invariant cfg s' := by
  cases e with
  | ros1SystemState => exact hi.ros1SystemState h
  | ros1Topics => exact hi.ros1Topics h
  | ros1Update => exact hi.ros1Update h
  | ros2Graph => exact hi.ros2Graph h
  | ros2PublishTopics => exact hi.ros2PublishTopics h
  | ros2Update => exact hi.ros2Update h

/-- Every reachable state satisfies the invariant. -/
theorem Reachable.invariant (hr : Reachable cfg s) : Invariant cfg s := by
  induction hr with
  | init => exact invariant_init
  | next _ _ h ih => exact ih.step h

end Invariant

/-! ### A populated run

The witnesses below are taken in states that a run from the start fills. On ROS 2, one node
subscribes to `/chatter` and `/rosout` and another offers the service `/r`. On ROS 1, `/talker`
publishes `/chatter` and `/listener` subscribes to it, a node serves `/s`, and the bridge itself
publishes `/rosout` and, once it bridges `/r`, serves `/r`. A ROS 2 cycle and then a ROS 1 cycle
leave `/chatter` bridged 1-to-2, `/s` bridged 2-to-1 and `/r` bridged 1-to-2. -/

/-- The ROS 2 type of `/chatter`. -/
def stringType : AdvertisedTypes := ⟨["std_msgs/msg/String"], List.cons_ne_nil _ _⟩

/-- The ROS 2 type of `/rosout`. -/
def logType : AdvertisedTypes := ⟨["rcl_interfaces/msg/Log"], List.cons_ne_nil _ _⟩

/-- The service type `pkg/Srv` as the ROS 2 graph lists it. -/
def srvType : AdvertisedTypes := ⟨["pkg/Srv"], List.cons_ne_nil _ _⟩

/-- A ROS 1 server of type `pkg/Srv` answering the probe. -/
def srvServerProbe : String → ServiceProbe :=
  fun _ ↦ ⟨true, true, 4, 12, 12, some ((∅ : StrMap String).insert "type" "pkg/Srv")⟩

/-- The ROS 2 graph: one subscriber on `/chatter` and on `/rosout`, no publisher, and `/r`. -/
def populatedGraph : Ros2Graph :=
  ⟨((∅ : StrMap AdvertisedTypes).insert "/chatter" stringType).insert "/rosout" logType,
    fun _ ↦ 0, fun _ ↦ 1, (∅ : StrMap AdvertisedTypes).insert "/r" srvType⟩

/-- The ROS 1 master: `/talker` publishes `/chatter`, `/listener` subscribes to it, the bridge
publishes `/rosout`, and `/s` and the bridge's own `/r` are served. -/
def populatedPayload : SystemState :=
  ⟨[("/chatter", ["/talker"]), ("/rosout", ["/ros12_bridge_default"])],
    [("/chatter", ["/listener"])], [some "/s", some "/r"]⟩

/-- What `getTopics` lists on that master. -/
def populatedTopics : StrMap String :=
  ((∅ : StrMap String).insert "/chatter" "std_msgs/String").insert "/rosout" "rosgraph_msgs/Log"

/-- A ROS 2 cycle on `populatedGraph`. -/
def populatedRos2Events : List (PollEvent Unit Unit Unit Unit) :=
  [.ros2Graph populatedGraph, .ros2PublishTopics, .ros2Update topicFactories]

/-- A ROS 1 cycle on `populatedPayload`. -/
def populatedRos1Events : List (PollEvent Unit Unit Unit Unit) :=
  [.ros1SystemState (some populatedPayload) srvServerProbe, .ros1Topics (some populatedTopics),
    .ros1Update topicFactories]

/-- The state the ROS 2 cycle leaves: the ROS 2 snapshots list the two subscriptions and `/r`,
which is bridged 1-to-2. -/
def listenedState : BridgeState Unit Unit Unit Unit :=
  (run openConfig BridgeState.init populatedRos2Events).getD BridgeState.init

/-- The state the ROS 1 cycle leaves after it. -/
def populatedState : BridgeState Unit Unit Unit Unit :=
  (run openConfig listenedState populatedRos1Events).getD listenedState

theorem reachable_listenedState : Reachable openConfig listenedState :=
  Reachable.run openConfig .init
    (rfl : run openConfig BridgeState.init populatedRos2Events = some listenedState)

theorem reachable_populatedState : Reachable openConfig populatedState :=
  Reachable.run openConfig reachable_listenedState
    (rfl : run openConfig listenedState populatedRos1Events = some populatedState)

/-- The configuration of `openConfig` with a whitelist that admits every name but `/rosout`. -/
def quietConfig : BridgeConfig Unit :=
  { openConfig with regexMatch := fun name _ ↦ name != "/rosout" }

/-- The state the two cycles leave under `quietConfig`: `/rosout` is offered on both sides and
held nowhere. -/
def quietState : BridgeState Unit Unit Unit Unit :=
  (run quietConfig BridgeState.init (populatedRos2Events ++ populatedRos1Events)).getD
    BridgeState.init

theorem reachable_quietState : Reachable quietConfig quietState :=
  Reachable.run quietConfig .init (rfl : run quietConfig BridgeState.init
    (populatedRos2Events ++ populatedRos1Events) = some quietState)

/-- **The bridge never holds a name its whitelist does not admit.** In every state that an
interleaving of the two pollers reaches from the start, whatever the master, the ROS 2 graph,
the probes and the factories answer, every snapshot and every registry holds only names that
some pattern of the whitelist of its kind matches. -/
theorem reachable_whitelisted (cfg : BridgeConfig ρ) (s : BridgeState H12 H21 S12 S21)
    (hr : Reachable cfg s) : s.snapshots.Whitelisted cfg ∧ s.registry.Whitelisted cfg :=
  ⟨hr.invariant.snapshots, hr.invariant.registry⟩

theorem reachable_whitelisted_quiet :
    Reachable quietConfig quietState ∧
      (quietState.snapshots.Whitelisted quietConfig ∧ quietState.registry.Whitelisted quietConfig) :=
  ⟨reachable_quietState, reachable_whitelisted quietConfig quietState reachable_quietState⟩

/-- **No service is ever bridged both ways.** In every state that an interleaving of the two
pollers reaches from the start, whatever the snapshots and the factories, no name is a key of
both `service_bridges_1_to_2` and `service_bridges_2_to_1`. -/
theorem reachable_serviceBridgesDisjoint (cfg : BridgeConfig ρ) (s : BridgeState H12 H21 S12 S21)
    (hr : Reachable cfg s) : ServiceBridgesDisjoint s.registry :=
  hr.invariant.disjoint

theorem reachable_serviceBridgesDisjoint_populated :
    Reachable openConfig populatedState ∧ ServiceBridgesDisjoint populatedState.registry :=
  ⟨reachable_populatedState,
    reachable_serviceBridgesDisjoint openConfig populatedState reachable_populatedState⟩

/-- **What the service snapshots hold in every reachable state.** Every entry of
`ros2_services` carries `"package"` and `"name"`, so `update_bridge` reads them without fail;
every entry of `ros1_services` is a type split at its first `/`, or the empty entry that a
failed header parse leaves behind. -/
theorem reachable_serviceSnapshots (cfg : BridgeConfig ρ) (s : BridgeState H12 H21 S12 S21)
    (hr : Reachable cfg s) : ServiceEntriesComplete s.snapshots.ros2Services ∧
      ∀ n d, s.snapshots.ros1Services.lookup n = some d → ProbedEntry d :=
  ⟨hr.invariant.ros2Services, hr.invariant.ros1Services⟩

theorem reachable_serviceSnapshots_populated :
    Reachable openConfig populatedState ∧
      ServiceEntriesComplete populatedState.snapshots.ros2Services ∧
        ∀ n d, populatedState.snapshots.ros1Services.lookup n = some d → ProbedEntry d :=
  ⟨reachable_populatedState,
    reachable_serviceSnapshots openConfig populatedState reachable_populatedState⟩

/-! ### The ROS 1 topic snapshots -/

/-- **A ROS 1 cycle's topic snapshots depend only on the master's answers.** From any reachable
state, whatever names earlier cycles cached as valid or ignored: once a cycle has read
`getSystemState` and published `ros1_services`, a successful `getTopics` publishes
`ros1_publishers` with exactly the admitted topics that a node other than the bridge publishes
and that the topic list gives a type, with that type, and `ros1_subscribers` with exactly the
admitted topics that a node other than the bridge subscribes to, with the listed type or `""`.
-/
theorem ros1Poll_snapshots (cfg : BridgeConfig ρ) (s s₁ : BridgeState H12 H21 S12 S21)
    (payload : SystemState) (probe : String → ServiceProbe) (topics : StrMap String)
    (hr : Reachable cfg s) (h₁ : step cfg s (.ros1SystemState (some payload) probe) = some s₁) :
    ∃ s₂, step cfg s₁ (.ros1Topics (some topics)) = some s₂ ∧ ∀ t,
      s₂.snapshots.ros1Publishers.lookup t =
        (if Admits cfg.regexMatch cfg.topicRegexList t ∧
            HeldByOtherNode cfg.nodeName payload.publishers t then topics.lookup t else none) ∧
      s₂.snapshots.ros1Subscribers.lookup t =
        (if Admits cfg.regexMatch cfg.topicRegexList t ∧
            HeldByOtherNode cfg.nodeName payload.subscribers t
          then some ((topics.lookup t).getD "") else none) := by
  obtain ⟨-, hpub, hsub⟩ := collectActiveTopics_spec hr.invariant.ros1Poller payload
  obtain ⟨-, st₀, pubs, subs, st, services, hc, -, rfl⟩ := step_ros1SystemState_some h₁
  rw [hc] at hpub hsub
  refine ⟨_, rfl, fun t ↦ ?_⟩
  obtain ⟨hl₁, hl₂⟩ := lookup_currentRos1Topics pubs subs topics t
  exact ⟨hl₁.trans (if_congr (hpub t) rfl rfl), hl₂.trans (if_congr (hsub t) rfl rfl)⟩

/-- **A ROS 1 cycle bridges every wanted topic to ROS 2.** From any reachable state, a whole
`ros1_poll` cycle whose queries succeed and whose `update_bridge` returns leaves, for every
topic that the whitelist admits, that a node other than the bridge publishes on ROS 1 with the
type `ros1Type` in the topic list, and that the ROS 2 subscriber snapshot lists with the type
`ros2Type`, a 1-to-2 bridge recording exactly these types, unless the factory throws for them.
-/
theorem ros1Cycle_bridges_wanted_topic (cfg : BridgeConfig ρ) (s s' : BridgeState H12 H21 S12 S21)
    (payload : SystemState) (probe : String → ServiceProbe) (topics : StrMap String)
    (f : Factories H12 H21 S12 S21) (hr : Reachable cfg s)
    (h : run cfg s [.ros1SystemState (some payload) probe, .ros1Topics (some topics),
      .ros1Update f] = some s')
    (t ros1Type ros2Type : String) (hadm : Admits cfg.regexMatch cfg.topicRegexList t)
    (hpub : HeldByOtherNode cfg.nodeName payload.publishers t)
    (htype : topics.lookup t = some ros1Type)
    (hsub : s.snapshots.ros2Subscribers.lookup t = some ros2Type)
    (hf : (f.createBridgeFrom1To2 ros1Type t ros2Type).isSome) :
    ∃ b, s'.registry.bridges1to2.lookup t = some b ∧ b.ros1TypeName = ros1Type ∧
      b.ros2TypeName = ros2Type := by
  obtain ⟨-, hpubs, -⟩ := collectActiveTopics_spec hr.invariant.ros1Poller payload
  simp only [run_cons, run_nil, Option.bind_eq_some, Option.some.injEq, exists_eq_right] at h
  obtain ⟨s₁, h₁, s₂, h₂, h₃⟩ := h
  -- `getSystemState`: the active topics
  obtain ⟨-, st₀, pubs, subs, st, services, hc, -, rfl⟩ := step_ros1SystemState_some h₁
  rw [hc] at hpubs
  -- `getTopics`: the ROS 1 publisher snapshot
  obtain ⟨_, _, hph, rfl⟩ := step_ros1Topics_some h₂
  obtain ⟨rfl, rfl⟩ := Ros1Phase.servicesPublished.inj hph
  have hlook := (lookup_currentRos1Topics pubs subs topics t).1
  rw [if_pos ((hpubs t).2 ⟨hadm, hpub⟩), htype] at hlook
  -- `update_bridge`: the 1-to-2 pass at `t`
  obtain ⟨-, registry, hu, rfl⟩ := step_ros1Update h₃
  rw [(updateBridge_topics hu).1]
  simp only [updateTopicBridges, create1to2Bridges]
  rw [lookup_foldl_of_pointwise createTopicBridge_pointwise]
  simp only [hlook]
  exact topicBridgeOutcome_records (by simp) (by simp [targetTypeName, hsub]) hf _

/-- A master that knows one topic published by a node other than the bridge. -/
def chatterPayload : SystemState :=
  ⟨[("/chatter", ["/talker"]), ("/rosout", ["/ros12_bridge_default"])], [], []⟩

/-- Probes whose service manager finds nothing. -/
def noProbe : String → ServiceProbe := fun _ ↦ ⟨false, false, 0, 0, 0, none⟩

theorem ros1Poll_snapshots_chatter :
    ∃ s₁ : BridgeState Unit Unit Unit Unit,
      (Reachable openConfig (BridgeState.init : BridgeState Unit Unit Unit Unit) ∧
        step openConfig BridgeState.init (.ros1SystemState (some chatterPayload) noProbe) =
          some s₁) ∧
      ∃ s₂, step openConfig s₁ (.ros1Topics (some ((∅ : StrMap String).insert "/chatter"
          "std_msgs/String"))) = some s₂ ∧ ∀ t,
        s₂.snapshots.ros1Publishers.lookup t =
          (if Admits openConfig.regexMatch openConfig.topicRegexList t ∧
              HeldByOtherNode openConfig.nodeName chatterPayload.publishers t
            then ((∅ : StrMap String).insert "/chatter" "std_msgs/String").lookup t else none) ∧
        s₂.snapshots.ros1Subscribers.lookup t =
          (if Admits openConfig.regexMatch openConfig.topicRegexList t ∧
              HeldByOtherNode openConfig.nodeName chatterPayload.subscribers t
            then some ((((∅ : StrMap String).insert "/chatter" "std_msgs/String").lookup t).getD "")
            else none) :=
  ⟨_, ⟨.init, rfl⟩, ros1Poll_snapshots openConfig _ _ chatterPayload noProbe _ .init rfl⟩

/-- What `getTopics` lists in the runs on `chatterPayload`. -/
def chatterTopics : StrMap String :=
  (∅ : StrMap String).insert "/chatter" "std_msgs/String"

/-- A ROS 2 graph in which one node subscribes to `/chatter`. -/
def chatterGraph : Ros2Graph :=
  ⟨(∅ : StrMap AdvertisedTypes).insert "/chatter" stringType, fun _ ↦ 0, fun _ ↦ 1, ∅⟩

/-- The state in which the ROS 2 poller has published its snapshots of `chatterGraph`. -/
def chatterListenedState : BridgeState Unit Unit Unit Unit :=
  (run openConfig BridgeState.init [.ros2Graph chatterGraph, .ros2PublishTopics]).getD
    BridgeState.init

theorem ros1Cycle_bridges_wanted_topic_chatter :
    ∃ s' : BridgeState Unit Unit Unit Unit,
      (Reachable openConfig chatterListenedState ∧
        run openConfig chatterListenedState [.ros1SystemState (some chatterPayload) noProbe,
          .ros1Topics (some chatterTopics), .ros1Update topicFactories] = some s' ∧
        Admits openConfig.regexMatch openConfig.topicRegexList "/chatter" ∧
        HeldByOtherNode openConfig.nodeName chatterPayload.publishers "/chatter" ∧
        chatterTopics.lookup "/chatter" = some "std_msgs/String" ∧
        chatterListenedState.snapshots.ros2Subscribers.lookup "/chatter" =
          some "std_msgs/msg/String" ∧
        (topicFactories.createBridgeFrom1To2 "std_msgs/String" "/chatter"
          "std_msgs/msg/String").isSome) ∧
      ∃ b, s'.registry.bridges1to2.lookup "/chatter" = some b ∧
        b.ros1TypeName = "std_msgs/String" ∧ b.ros2TypeName = "std_msgs/msg/String" :=
  have hr : Reachable openConfig chatterListenedState := Reachable.run openConfig .init
    (rfl : run openConfig BridgeState.init [.ros2Graph chatterGraph, .ros2PublishTopics] =
      some chatterListenedState)
  ⟨_, ⟨hr, rfl, by decide, by decide, rfl, rfl, rfl⟩,
    ros1Cycle_bridges_wanted_topic openConfig chatterListenedState _ chatterPayload noProbe
      chatterTopics topicFactories hr rfl "/chatter" "std_msgs/String" "std_msgs/msg/String"
      (by decide) (by decide) rfl rfl rfl⟩

/-! ### The ROS 2 topic snapshots -/

/-- **What a ROS 2 cycle publishes, topic by topic.** From any reachable state in which the
ROS 2 poller is between cycles, reading the graph and publishing the topic snapshots gives each
topic the entry `ros2TopicEntry` computes from the graph, from the topic registries as the cycle
reads them, and from the ignored set the cycle starts with, which earlier cycles filled. -/
theorem ros2Poll_topicSnapshots (cfg : BridgeConfig ρ) (s : BridgeState H12 H21 S12 S21)
    (graph : Ros2Graph) (hr : Reachable cfg s) (hidle : s.ros2Phase = .idle) :
    ∃ s₁ s₂, step cfg s (.ros2Graph graph) = some s₁ ∧ step cfg s₁ .ros2PublishTopics = some s₂ ∧
      ∀ t, s₂.snapshots.ros2Publishers.lookup t =
          (graph.topicNamesAndTypes.lookup t).bind (fun types ↦ ros2TopicEntry cfg
            s.ros2Poller.alreadyIgnoredTopics (decide (t ∈ s.registry.bridges1to2))
            (graph.countPublishers t) ⟨t, types⟩) ∧
        s₂.snapshots.ros2Subscribers.lookup t =
          (graph.topicNamesAndTypes.lookup t).bind (fun types ↦ ros2TopicEntry cfg
            s.ros2Poller.alreadyIgnoredTopics (decide (t ∈ s.registry.bridges2to1))
            (graph.countSubscribers t) ⟨t, types⟩) := by
  have hs := hr.invariant.ros2Poller
  obtain ⟨snapshots, registry, ros1Poller, ros1Phase, ros2Poller, ros2Phase⟩ := s
  subst hidle
  exact ⟨_, _, rfl, rfl,
    lookup_collectRos2Topics graph registry.bridges1to2 registry.bridges2to1 hs⟩

/-- **What a ROS 2 cycle publishes, service by service.** From any reachable state in which the
ROS 2 poller is between cycles, reading the graph publishes for each service exactly the package
and name split where `ros2ServiceSplit` says, from the ignored set the cycle starts with, which
earlier cycles filled: the topic loop that runs first leaves it alone. -/
theorem ros2Poll_serviceSnapshot (cfg : BridgeConfig ρ) (s : BridgeState H12 H21 S12 S21)
    (graph : Ros2Graph) (hr : Reachable cfg s) (hidle : s.ros2Phase = .idle) :
    ∃ s₁, step cfg s (.ros2Graph graph) = some s₁ ∧
      ∀ n, s₁.snapshots.ros2Services.lookup n =
        (graph.serviceNamesAndTypes.lookup n).bind fun types ↦
          (ros2ServiceSplit cfg s.ros2Poller.alreadyIgnoredServices ⟨n, types⟩).map
            (setPackageAndName ∅ types.first) := by
  have hs := hr.invariant.ros2Poller
  obtain ⟨snapshots, registry, ros1Poller, ros1Phase, ros2Poller, ros2Phase⟩ := s
  subst hidle
  refine ⟨_, rfl, fun n ↦ ?_⟩
  have hs₁ := (collectRos2Topics_spec graph registry.bridges1to2 registry.bridges2to1 hs).1
  rw [← collectRos2Topics_alreadyIgnoredServices graph registry.bridges1to2 registry.bridges2to1]
  exact lookup_collectRos2Services hs₁ graph n

/-! ### Fixtures for the runs below -/

/-- `/t` listed with the types `pkg/A` and `pkg/B`. -/
def twoTypes : AdvertisedTypes := ⟨["pkg/A", "pkg/B"], List.cons_ne_nil _ _⟩

/-- `/t` listed with the type `pkg/A` alone. -/
def oneType : AdvertisedTypes := ⟨["pkg/A"], List.cons_ne_nil _ _⟩

/-- A ROS 2 graph with one publisher on `/t`, listed with the types `types`. -/
def topicGraph (types : AdvertisedTypes) : Ros2Graph :=
  ⟨(∅ : StrMap AdvertisedTypes).insert "/t" types, fun _ ↦ 1, fun _ ↦ 0, ∅⟩

/-- A ROS 2 graph without topics in which a node other than the bridge offers `/s` of type
`pkg/Srv`. -/
def srvGraph : Ros2Graph :=
  ⟨∅, fun _ ↦ 0, fun _ ↦ 0, (∅ : StrMap AdvertisedTypes).insert "/s" srvType⟩

/-- The ROS 1 master after `/talker` republished `/chatter` as `std_msgs/Header` and the server
of `/s` left; the bridge still serves `/r`. -/
def retypedPayload : SystemState :=
  ⟨[("/chatter", ["/talker"]), ("/rosout", ["/ros12_bridge_default"])],
    [("/chatter", ["/listener"])], [some "/r"]⟩

/-- What `getTopics` lists on that master. -/
def retypedTopics : StrMap String :=
  ((∅ : StrMap String).insert "/chatter" "std_msgs/Header").insert "/rosout" "rosgraph_msgs/Log"

/-- The first two steps of a ROS 1 cycle on `retypedPayload`. -/
def retypedEvents : List (PollEvent Unit Unit Unit Unit) :=
  [.ros1SystemState (some retypedPayload) srvServerProbe, .ros1Topics (some retypedTopics)]

/-- The state in which that cycle, from `populatedState`, is about to call `update_bridge`: the
snapshots give `/chatter` a new ROS 1 type and list `/s` no more. -/
def retypedState : BridgeState Unit Unit Unit Unit :=
  (run openConfig populatedState retypedEvents).getD populatedState

theorem reachable_retypedState : Reachable openConfig retypedState :=
  Reachable.run openConfig reachable_populatedState
    (rfl : run openConfig populatedState retypedEvents = some retypedState)

/-! ### What one step changes -/

section Frame

variable {cfg : BridgeConfig ρ} {s s' : BridgeState H12 H21 S12 S21}

/-- **What one step does to the registries and to the ROS 2 poller's sets**: only the two
`update_bridge` steps change the registries, and only reading the ROS 2 graph changes the sets,
through the topic loop and then the service loop. -/
theorem step_frame {e : PollEvent H12 H21 S12 S21} (h : step cfg s e = some s') :
    (s'.registry = s.registry ∨ ∃ f, updateBridge cfg f s.snapshots s.registry = some s'.registry) ∧
    (s'.ros2Poller = s.ros2Poller ∨ ∃ graph, s'.ros2Poller = (collectRos2Services cfg graph
      (collectRos2Topics cfg graph s.registry.bridges1to2 s.registry.bridges2to1
        s.ros2Poller).1).1) := by
  cases e with
  | ros1SystemState payload? =>
    rcases payload? with _ | payload
    · obtain ⟨-, rfl⟩ := step_ros1SystemState_none h
      exact ⟨.inl rfl, .inl rfl⟩
    · obtain ⟨-, _, _, _, _, _, -, -, rfl⟩ := step_ros1SystemState_some h
      exact ⟨.inl rfl, .inl rfl⟩
  | ros1Topics topics? =>
    rcases topics? with _ | topics
    · obtain ⟨-, rfl⟩ := step_ros1Topics_none h
      exact ⟨.inl rfl, .inl rfl⟩
    · obtain ⟨_, _, -, rfl⟩ := step_ros1Topics_some h
      exact ⟨.inl rfl, .inl rfl⟩
  | ros1Update f =>
    obtain ⟨-, _, hu, rfl⟩ := step_ros1Update h
    exact ⟨.inr ⟨f, hu⟩, .inl rfl⟩
  | ros2Graph graph =>
    obtain ⟨-, rfl⟩ := step_ros2Graph h
    exact ⟨.inl rfl, .inr ⟨graph, rfl⟩⟩
  | ros2PublishTopics =>
    obtain ⟨_, _, -, rfl⟩ := step_ros2PublishTopics h
    exact ⟨.inl rfl, .inl rfl⟩
  | ros2Update f =>
    obtain ⟨-, _, hu, rfl⟩ := step_ros2Update h
    exact ⟨.inr ⟨f, hu⟩, .inl rfl⟩

/-- One step only adds to the ROS 2 poller's ignored sets. -/
theorem step_alreadyIgnored_subset (hs : s.ros2Poller.Sound cfg) {e : PollEvent H12 H21 S12 S21}
    (h : step cfg s e = some s') :
    s.ros2Poller.alreadyIgnoredTopics ⊆ s'.ros2Poller.alreadyIgnoredTopics ∧
      s.ros2Poller.alreadyIgnoredServices ⊆ s'.ros2Poller.alreadyIgnoredServices := by
  rcases (step_frame h).2 with h' | ⟨graph, h'⟩ <;> rw [h']
  · exact ⟨List.Subset.refl _, List.Subset.refl _⟩
  have hs₁ := (collectRos2Topics_spec graph s.registry.bridges1to2 s.registry.bridges2to1 hs).1
  refine ⟨fun t ht ↦ ?_, fun n hn ↦ ?_⟩
  · rw [collectRos2Services_alreadyIgnoredTopics]
    exact (mem_collectRos2Topics_alreadyIgnoredTopics graph _ _ hs t).2 (.inl ht)
  · refine (mem_collectRos2Services_alreadyIgnoredServices hs₁ graph n).2 (.inl ?_)
    rwa [collectRos2Topics_alreadyIgnoredServices]

/-- Along any run from a reachable state, the ROS 2 poller's ignored sets only grow. -/
theorem run_alreadyIgnored_subset (hr : Reachable cfg s) {events : List (PollEvent H12 H21 S12 S21)}
    (h : run cfg s events = some s') :
    s.ros2Poller.alreadyIgnoredTopics ⊆ s'.ros2Poller.alreadyIgnoredTopics ∧
      s.ros2Poller.alreadyIgnoredServices ⊆ s'.ros2Poller.alreadyIgnoredServices :=
  (foldlM_invariant (fun s₁ ↦ Reachable cfg s₁ ∧
      s.ros2Poller.alreadyIgnoredTopics ⊆ s₁.ros2Poller.alreadyIgnoredTopics ∧
      s.ros2Poller.alreadyIgnoredServices ⊆ s₁.ros2Poller.alreadyIgnoredServices)
    (fun _ e _ ⟨hr₁, ht, hn⟩ he ↦
      have h' := step_alreadyIgnored_subset hr₁.invariant.ros2Poller he
      ⟨.next e hr₁ he, List.Subset.trans ht h'.1, List.Subset.trans hn h'.2⟩)
    events ⟨hr, List.Subset.refl _, List.Subset.refl _⟩ h).2

/-- A run that ends with a given event is a run followed by one step. -/
theorem run_append_singleton {events : List (PollEvent H12 H21 S12 S21)}
    {e : PollEvent H12 H21 S12 S21} (h : run cfg s (events ++ [e]) = some s') :
    ∃ s₁, run cfg s events = some s₁ ∧ step cfg s₁ e = some s' := by
  rw [run, List.foldlM_append] at h
  obtain ⟨s₁, h₁, h₂⟩ := Option.bind_eq_some.1 h
  simp only [List.foldlM_cons, List.foldlM_nil, bind_pure] at h₂
  exact ⟨s₁, h₁, h₂⟩

end Frame

/-! ### Ignored names stay ignored -/

/-- **A topic the ROS 2 poller has ignored is never published again.** From any reachable state
in which the poller ignores `t`, every later publication of the ROS 2 topic snapshots omits `t`,
whatever the graph lists for it by then. -/
theorem ros2Poll_ignored_topic_unpublished (cfg : BridgeConfig ρ)
    (s s' : BridgeState H12 H21 S12 S21) (events : List (PollEvent H12 H21 S12 S21)) (t : String)
    (hr : Reachable cfg s) (ht : t ∈ s.ros2Poller.alreadyIgnoredTopics)
    (h : run cfg s (events ++ [.ros2PublishTopics]) = some s') :
    t ∉ s'.snapshots.ros2Publishers ∧ t ∉ s'.snapshots.ros2Subscribers := by
  obtain ⟨s₁, h₁, h₂⟩ := run_append_singleton h
  have hi := (Reachable.run cfg hr h₁).invariant.ros2Ignored
  have ht₁ := (run_alreadyIgnored_subset hr h₁).1 ht
  obtain ⟨pubs, subs, hp, rfl⟩ := step_ros2PublishTopics h₂
  rw [hp] at hi
  exact hi t ht₁

/-- The state a ROS 2 cycle that sees `/t` with two types leaves from the start. -/
def twoTypesState : BridgeState Unit Unit Unit Unit :=
  (run openConfig BridgeState.init
    [.ros2Graph (topicGraph twoTypes), .ros2PublishTopics, .ros2Update serviceFactories]).getD
    BridgeState.init

theorem ros2Poll_ignored_topic_unpublished_twoTypes :
    ∃ s' : BridgeState Unit Unit Unit Unit,
      (Reachable openConfig twoTypesState ∧ "/t" ∈ twoTypesState.ros2Poller.alreadyIgnoredTopics ∧
        run openConfig twoTypesState ([.ros2Graph (topicGraph oneType)] ++ [.ros2PublishTopics]) =
          some s') ∧
      "/t" ∉ s'.snapshots.ros2Publishers ∧ "/t" ∉ s'.snapshots.ros2Subscribers :=
  have hr : Reachable openConfig twoTypesState := Reachable.run openConfig .init
    (rfl : run openConfig BridgeState.init
      [.ros2Graph (topicGraph twoTypes), .ros2PublishTopics, .ros2Update serviceFactories] =
        some twoTypesState)
  ⟨_, ⟨hr, by decide, rfl⟩, ros2Poll_ignored_topic_unpublished openConfig twoTypesState _
    [.ros2Graph (topicGraph oneType)] "/t" hr (by decide) rfl⟩

/-- **A service the ROS 2 poller has ignored is never published again.** From any reachable
state in which the poller ignores `n`, every later ROS 2 service snapshot omits `n`. -/
theorem ros2Poll_ignored_service_unpublished (cfg : BridgeConfig ρ)
    (s s' : BridgeState H12 H21 S12 S21) (events : List (PollEvent H12 H21 S12 S21))
    (graph : Ros2Graph) (n : String) (hr : Reachable cfg s)
    (hn : n ∈ s.ros2Poller.alreadyIgnoredServices)
    (h : run cfg s (events ++ [.ros2Graph graph]) = some s') :
    n ∉ s'.snapshots.ros2Services := by
  obtain ⟨s₁, h₁, h₂⟩ := run_append_singleton h
  have hn₁ := (run_alreadyIgnored_subset hr h₁).2 hn
  obtain ⟨s₂, h₂', hlookup⟩ :=
    ros2Poll_serviceSnapshot cfg s₁ graph (Reachable.run cfg hr h₁) (step_ros2Graph h₂).1
  obtain rfl : s₂ = s' := Option.some.inj (h₂'.symm.trans h₂)
  rw [← AList.lookup_eq_none, hlookup]
  rcases graph.serviceNamesAndTypes.lookup n with _ | types
  · rfl
  · have hsplit : ros2ServiceSplit cfg s₁.ros2Poller.alreadyIgnoredServices ⟨n, types⟩ = none :=
      ros2ServiceSplit_eq_none (.inl hn₁)
    simp [hsplit]

/-- A ROS 2 graph without topics in which `/s` is offered with two types. -/
def twoTypesServiceGraph : Ros2Graph :=
  ⟨∅, fun _ ↦ 0, fun _ ↦ 0, (∅ : StrMap AdvertisedTypes).insert "/s" twoTypes⟩

/-- The state a ROS 2 cycle that sees `/s` with two types leaves from the start. -/
def twoTypesServiceState : BridgeState Unit Unit Unit Unit :=
  (run openConfig BridgeState.init
    [.ros2Graph twoTypesServiceGraph, .ros2PublishTopics, .ros2Update serviceFactories]).getD
    BridgeState.init

theorem ros2Poll_ignored_service_unpublished_twoTypes :
    ∃ s' : BridgeState Unit Unit Unit Unit,
      (Reachable openConfig twoTypesServiceState ∧
        "/s" ∈ twoTypesServiceState.ros2Poller.alreadyIgnoredServices ∧
        run openConfig twoTypesServiceState ([] ++ [.ros2Graph srvGraph]) = some s') ∧
      "/s" ∉ s'.snapshots.ros2Services :=
  have hr : Reachable openConfig twoTypesServiceState := Reachable.run openConfig .init
    (rfl : run openConfig BridgeState.init
      [.ros2Graph twoTypesServiceGraph, .ros2PublishTopics, .ros2Update serviceFactories] =
        some twoTypesServiceState)
  ⟨_, ⟨hr, by decide, rfl⟩, ros2Poll_ignored_service_unpublished openConfig twoTypesServiceState
    _ [] srvGraph "/s" hr (by decide) rfl⟩

/-! ### A topic that once listed two types -/

/-- **A topic that once listed two types is never published again.** A fresh ROS 2 cycle that
sees `/t` with the one type `pkg/A` publishes it; the same cycle after one that saw `/t` with two
types does not, because `/t` stays in `already_ignored_topics`. -/
theorem ros2Poll_skips_topic_once_multityped :
    (run openConfig (BridgeState.init : BridgeState Unit Unit Unit Unit)
        [.ros2Graph (topicGraph oneType), .ros2PublishTopics]).map
      (·.snapshots.ros2Publishers.lookup "/t") = some (some "pkg/A") ∧
    (run openConfig BridgeState.init
        [.ros2Graph (topicGraph twoTypes), .ros2PublishTopics, .ros2Update serviceFactories,
          .ros2Graph (topicGraph oneType), .ros2PublishTopics]).map
      (·.snapshots.ros2Publishers.lookup "/t") = some none :=
  ⟨rfl, rfl⟩

/-- What the first two steps of a ROS 2 cycle on `graph` leave in `s₂`, from `s`: each topic has
the entry `ros2TopicEntry` computes from the graph, the topic registries of `s` and the topics
`s` ignores; each service the details `ros2ServiceSplit` computes from the graph and the
services `s` ignores; and the poller ignores what `s` ignored and the listed names the cycle
ignores (`ignoresTopic`, `ignoresService`), nothing else. -/
def Ros2SnapshotsFromIgnored (cfg : BridgeConfig ρ) (graph : Ros2Graph)
    (s s₂ : BridgeState H12 H21 S12 S21) : Prop :=
  (∀ t, s₂.snapshots.ros2Publishers.lookup t =
      (graph.topicNamesAndTypes.lookup t).bind (fun types ↦ ros2TopicEntry cfg
        s.ros2Poller.alreadyIgnoredTopics (decide (t ∈ s.registry.bridges1to2))
        (graph.countPublishers t) ⟨t, types⟩) ∧
    s₂.snapshots.ros2Subscribers.lookup t =
      (graph.topicNamesAndTypes.lookup t).bind (fun types ↦ ros2TopicEntry cfg
        s.ros2Poller.alreadyIgnoredTopics (decide (t ∈ s.registry.bridges2to1))
        (graph.countSubscribers t) ⟨t, types⟩)) ∧
  (∀ n, s₂.snapshots.ros2Services.lookup n =
    (graph.serviceNamesAndTypes.lookup n).bind fun types ↦
      (ros2ServiceSplit cfg s.ros2Poller.alreadyIgnoredServices ⟨n, types⟩).map
        (setPackageAndName ∅ types.first)) ∧
  (∀ k, k ∈ s₂.ros2Poller.alreadyIgnoredTopics ↔ k ∈ s.ros2Poller.alreadyIgnoredTopics ∨
    ∃ types, graph.topicNamesAndTypes.lookup k = some types ∧ ignoresTopic cfg ⟨k, types⟩) ∧
  ∀ k, k ∈ s₂.ros2Poller.alreadyIgnoredServices ↔ k ∈ s.ros2Poller.alreadyIgnoredServices ∨
    ∃ types, graph.serviceNamesAndTypes.lookup k = some types ∧ ignoresService cfg ⟨k, types⟩

/-- **A ROS 2 cycle's snapshots depend on the earlier cycles through the ignored sets.** From any
reachable state between ROS 2 cycles, reading the graph and publishing the topic snapshots
returns, and what it publishes is computed from this cycle's graph, the whitelists, the topic
registries and the ignored sets the cycle starts with (`Ros2SnapshotsFromIgnored`). The cycle
keeps every name it ignored and adds the listed names it ignores now, so a name once ignored
stays out of the snapshots. -/
theorem ros2Poll_snapshots_from_ignored (cfg : BridgeConfig ρ) (s : BridgeState H12 H21 S12 S21)
    (graph : Ros2Graph) (hr : Reachable cfg s) (hidle : s.ros2Phase = .idle) :
    ∃ s₂, run cfg s [.ros2Graph graph, .ros2PublishTopics] = some s₂ ∧
      Ros2SnapshotsFromIgnored cfg graph s s₂ := by
  have hs := hr.invariant.ros2Poller
  obtain ⟨snapshots, registry, ros1Poller, ros1Phase, ros2Poller, ros2Phase⟩ := s
  subst hidle
  have hs₁ := (collectRos2Topics_spec graph registry.bridges1to2 registry.bridges2to1 hs).1
  have hsvc : (collectRos2Topics cfg graph registry.bridges1to2 registry.bridges2to1
      ros2Poller).1.alreadyIgnoredServices = ros2Poller.alreadyIgnoredServices :=
    collectRos2Topics_alreadyIgnoredServices graph _ _ _
  refine ⟨_, rfl, lookup_collectRos2Topics graph _ _ hs, fun n ↦ ?_, fun k ↦ ?_, fun k ↦ ?_⟩
  · rw [← hsvc]
    exact lookup_collectRos2Services hs₁ graph n
  · exact (Iff.of_eq (congrArg (k ∈ ·) (collectRos2Services_alreadyIgnoredTopics graph
      (collectRos2Topics cfg graph registry.bridges1to2 registry.bridges2to1 ros2Poller).1))).trans
      (mem_collectRos2Topics_alreadyIgnoredTopics graph _ _ hs k)
  · rw [← hsvc]
    exact mem_collectRos2Services_alreadyIgnoredServices hs₁ graph k

theorem ros2Poll_snapshots_from_ignored_twoTypes :
    (Reachable openConfig twoTypesState ∧ twoTypesState.ros2Phase = .idle) ∧
      ∃ s₂, run openConfig twoTypesState [.ros2Graph (topicGraph oneType), .ros2PublishTopics] =
        some s₂ ∧ Ros2SnapshotsFromIgnored openConfig (topicGraph oneType) twoTypesState s₂ :=
  have hr : Reachable openConfig twoTypesState := Reachable.run openConfig .init
    (rfl : run openConfig BridgeState.init
      [.ros2Graph (topicGraph twoTypes), .ros2PublishTopics, .ros2Update serviceFactories] =
        some twoTypesState)
  ⟨⟨hr, rfl⟩, ros2Poll_snapshots_from_ignored openConfig twoTypesState (topicGraph oneType) hr rfl⟩

/-! ### Discovery that sees the bridge's own service endpoints

A service bridge holds a server in its far domain and a client in its near one: a 1-to-2 bridge
a ROS 1 server and a ROS 2 client, a 2-to-1 bridge a ROS 2 server and a ROS 1 client. The ROS 1
master lists the servers among the services; `get_service_names_and_types` lists every service
that has a server or a client. Neither poller leaves the bridge's own out, unlike the ROS 1 topic
rows and the ROS 2 topic counts. -/

/-- The `getSystemState` payload of a ROS 1 graph without topics, in which the nodes other than
the bridge serve `others` and the bridge serves each service it bridges 1-to-2. -/
def ros1ServiceState (others : List String) (registry : Registry H12 H21 S12 S21) : SystemState :=
  ⟨[], [], (others ++ registry.serviceBridges1To2.keys).map some⟩

/-- The ROS 2 graph without topics, in which the nodes other than the bridge offer the services
`others`, and the bridge holds a server of each service it bridges 2-to-1 and a client of each
it bridges 1-to-2, of the type `bridgeType`. -/
def ros2ServiceGraph (others : StrMap AdvertisedTypes) (bridgeType : AdvertisedTypes)
    (registry : Registry H12 H21 S12 S21) : Ros2Graph :=
  ⟨∅, fun _ ↦ 0, fun _ ↦ 0,
    (registry.serviceBridges2To1.keys ++ registry.serviceBridges1To2.keys).foldl
      (fun m k ↦ m.insert k bridgeType) others⟩

/-- A whole `ros1_poll` cycle in such a ROS 1 graph. -/
def ros1ServiceCycle (cfg : BridgeConfig ρ) (others : List String)
    (probe : String → ServiceProbe) (f : Factories H12 H21 S12 S21)
    (s : BridgeState H12 H21 S12 S21) : Option (BridgeState H12 H21 S12 S21) :=
  run cfg s [.ros1SystemState (some (ros1ServiceState others s.registry)) probe,
    .ros1Topics (some ∅), .ros1Update f]

/-- A whole `ros2_poll` cycle in such a ROS 2 graph. -/
def ros2ServiceCycle (cfg : BridgeConfig ρ) (others : StrMap AdvertisedTypes)
    (bridgeType : AdvertisedTypes) (f : Factories H12 H21 S12 S21)
    (s : BridgeState H12 H21 S12 S21) : Option (BridgeState H12 H21 S12 S21) :=
  run cfg s [.ros2Graph (ros2ServiceGraph others bridgeType s.registry), .ros2PublishTopics,
    .ros2Update f]

/-- **The bridge bridges back a server of its own.** A ROS 1 node serves `/s`, and a ROS 1 cycle
bridges it 2-to-1. The next ROS 2 cycle lists the bridge's own ROS 2 server of `/s` like any
other, so `ros2_services` lists `/s`. The ROS 1 node goes away: the next ROS 1 cycle removes the
2-to-1 bridge, but `ros2_services` still lists `/s`, and the ROS 1 cycle after it bridges `/s`
1-to-2, although no ROS 2 node other than the bridge ever offered it. The new bridge's own
ROS 2 client and ROS 1 server keep it listed on both sides: a ROS 2 cycle and a ROS 1 cycle
later it is still there. -/
theorem ros2Poll_lists_own_service_server :
    ∃ s : BridgeState Unit Unit Unit Unit,
      ((((some BridgeState.init).bind
        (ros1ServiceCycle openConfig ["/s"] srvServerProbe serviceFactories)).bind
        (ros2ServiceCycle openConfig ∅ srvType serviceFactories)).bind
        (ros1ServiceCycle openConfig [] srvServerProbe serviceFactories)).bind
        (ros1ServiceCycle openConfig [] srvServerProbe serviceFactories) = some s ∧
      s.registry.serviceBridges1To2.lookup "/s" = some () ∧
      (((some s).bind (ros2ServiceCycle openConfig ∅ srvType serviceFactories)).bind
        (ros1ServiceCycle openConfig [] srvServerProbe serviceFactories)).map
        (·.registry.serviceBridges1To2.lookup "/s") = some (some ()) :=
  ⟨_, rfl, rfl, rfl⟩

end WhitelistBridge
