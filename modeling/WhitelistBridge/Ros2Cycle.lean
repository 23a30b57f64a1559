import WhitelistBridge.Ros1Cycle

/-!
# A whole `ros2_poll` cycle

Unlike `ros1_poll`, `ros2_poll` asks nothing that can fail: a cycle reads the graph, publishes
`ros2_services`, then `ros2_publishers` and `ros2_subscribers`, and calls `update_bridge`. What
it publishes depends on the graph, on the ignored sets earlier cycles left, and on the topic
registries as the cycle reads them at its start: on a topic it bridges from ROS 1 the bridge
holds one ROS 2 publisher of its own, on a topic it bridges to ROS 1 one ROS 2 subscriber, and
the topic loop takes one off the count for each.

## Main results

* `ros2Cycle_spec`: what a whole cycle from a reachable state leaves.
* `ros2Poll_discounts_own_endpoints`: when the graph counts the bridge's own endpoints besides
  those of the other nodes (`CountsOwnEndpoints`, as `Ros2Graph.withOwnEndpoints` builds such a
  graph), the topic snapshots the cycle publishes are those of a graph that held only the other
  nodes' endpoints.
* `ros2Cycle_ignores_own_endpoints`: so a topic on which only the bridge publishes (subscribes)
  on ROS 2 keeps its 2-to-1 (1-to-2) entry through the cycle: the bridge does not bridge its own
  endpoints back.
* `ros2Cycle_bridges_wanted_topic`: what the cycle is for: an admitted topic that another ROS 2
  node publishes with one type and that ROS 1 subscribes to is bridged to ROS 1.
* `ros2Cycle_bridges_offered_service` and `ros2Cycle_serviceBridges_offered`: a service the
  graph offers with one splittable type is bridged to ROS 1 unless ROS 1 lists it or the factory
  fails, and every 1-to-2 service bridge left is one of a service the graph offers now.
-/

namespace WhitelistBridge

variable {ρ H12 H21 S12 S21 : Type}

/-- The steps of one `ros2_poll` cycle, given the graph and the factories. -/
def ros2PollEvents (graph : Ros2Graph) (f : Factories H12 H21 S12 S21) :
    List (PollEvent H12 H21 S12 S21) :=
  [.ros2Graph graph, .ros2PublishTopics, .ros2Update f]

/-- The ROS 2 graph counts on every topic the endpoints of the nodes other than the bridge
(`otherPublishers`, `otherSubscribers`) and the bridge's own: one publisher on a topic the
registry bridges from ROS 1, one subscriber on a topic it bridges to ROS 1. -/
structure CountsOwnEndpoints (graph : Ros2Graph) (registry : Registry H12 H21 S12 S21)
    (otherPublishers otherSubscribers : String → Nat) : Prop where
  countPublishers : ∀ t, graph.countPublishers t =
    otherPublishers t + if t ∈ registry.bridges1to2 then 1 else 0
  countSubscribers : ∀ t, graph.countSubscribers t =
    otherSubscribers t + if t ∈ registry.bridges2to1 then 1 else 0

/-- The graph that discovery shows when the nodes other than the bridge hold the endpoints
`graph` counts, and the bridge holds those of the topic bridges of `registry`. -/
def Ros2Graph.withOwnEndpoints (graph : Ros2Graph) (registry : Registry H12 H21 S12 S21) :
    Ros2Graph :=
  { graph with
    countPublishers := fun t ↦
      graph.countPublishers t + if t ∈ registry.bridges1to2 then 1 else 0
    countSubscribers := fun t ↦
      graph.countSubscribers t + if t ∈ registry.bridges2to1 then 1 else 0 }

theorem countsOwnEndpoints_withOwnEndpoints (graph : Ros2Graph)
    (registry : Registry H12 H21 S12 S21) :
    CountsOwnEndpoints (graph.withOwnEndpoints registry) registry graph.countPublishers
      graph.countSubscribers :=
  ⟨fun _ ↦ rfl, fun _ ↦ rfl⟩

/-- Taking the bridge's own endpoint off the count leaves the other nodes' count. -/
theorem ros2TopicEntry_discount {cfg : BridgeConfig ρ} {ignored : List String} (p : Prop)
    [Decidable p] (others : Nat) (topic : Σ _ : String, AdvertisedTypes) :
    ros2TopicEntry cfg ignored (decide p) (others + if p then 1 else 0) topic =
      ros2TopicEntry cfg ignored false others topic := by
  by_cases hp : p <;> simp [ros2TopicEntry, hp]

section Cycle

variable {cfg : BridgeConfig ρ} {s s' : BridgeState H12 H21 S12 S21} {graph : Ros2Graph}
  {f : Factories H12 H21 S12 S21}

/-- A whole ROS 2 cycle at once: the two loops run from the poller's sets and the topic
registries the cycle starts with, the three snapshots are published, and `update_bridge`
reconciles the registries with them. -/
theorem run_ros2PollEvents (h : run cfg s (ros2PollEvents graph f) = some s') :
    s.ros2Phase = .idle ∧
      let topics :=
        collectRos2Topics cfg graph s.registry.bridges1to2 s.registry.bridges2to1 s.ros2Poller
      let services := collectRos2Services cfg graph topics.1
      let snapshots := { s.snapshots with
        ros2Services := services.2, ros2Publishers := topics.2.1, ros2Subscribers := topics.2.2 }
      ∃ registry, updateBridge cfg f snapshots s.registry = some registry ∧
        s' = { s with ros2Poller := services.1, snapshots, registry, ros2Phase := .idle } := by
  simp only [ros2PollEvents, run_cons, run_nil, Option.bind_eq_some, Option.some.injEq,
    exists_eq_right] at h
  obtain ⟨s₁, h₁, s₂, h₂, h₃⟩ := h
  obtain ⟨hidle, rfl⟩ := step_ros2Graph h₁
  obtain ⟨pubs, subs, hph, rfl⟩ := step_ros2PublishTopics h₂
  obtain ⟨rfl, rfl⟩ := Ros2Phase.servicesPublished.inj hph
  obtain ⟨-, registry, hu, rfl⟩ := step_ros2Update h₃
  exact ⟨hidle, registry, hu, rfl⟩

/-- What a whole ROS 2 cycle from a reachable state leaves: the poller ends between cycles; the
three ROS 2 snapshots are replaced, topic by topic and service by service, from the graph, the
ignored sets the cycle starts with and the topic registries as it reads them; the ROS 1
snapshots stay; and `update_bridge` reconciles the registries with the new snapshots. -/
theorem ros2Cycle_spec (hr : Reachable cfg s) (h : run cfg s (ros2PollEvents graph f) = some s') :
    s'.ros2Phase = .idle ∧
    s'.snapshots = { s.snapshots with
      ros2Services := s'.snapshots.ros2Services
      ros2Publishers := s'.snapshots.ros2Publishers
      ros2Subscribers := s'.snapshots.ros2Subscribers } ∧
    (∀ t, s'.snapshots.ros2Publishers.lookup t =
        (graph.topicNamesAndTypes.lookup t).bind (fun types ↦ ros2TopicEntry cfg
          s.ros2Poller.alreadyIgnoredTopics (decide (t ∈ s.registry.bridges1to2))
          (graph.countPublishers t) ⟨t, types⟩) ∧
      s'.snapshots.ros2Subscribers.lookup t =
        (graph.topicNamesAndTypes.lookup t).bind (fun types ↦ ros2TopicEntry cfg
          s.ros2Poller.alreadyIgnoredTopics (decide (t ∈ s.registry.bridges2to1))
          (graph.countSubscribers t) ⟨t, types⟩)) ∧
    (∀ n, s'.snapshots.ros2Services.lookup n =
      (graph.serviceNamesAndTypes.lookup n).bind fun types ↦
        (ros2ServiceSplit cfg s.ros2Poller.alreadyIgnoredServices ⟨n, types⟩).map
          (setPackageAndName ∅ types.first)) ∧
    updateBridge cfg f s'.snapshots s.registry = some s'.registry := by
  have hs := hr.invariant.ros2Poller
  obtain ⟨-, registry, hu, rfl⟩ := run_ros2PollEvents h
  have hs₁ := (collectRos2Topics_spec graph s.registry.bridges1to2 s.registry.bridges2to1 hs).1
  refine ⟨rfl, rfl, lookup_collectRos2Topics graph _ _ hs, fun n ↦ ?_, hu⟩
  rw [← collectRos2Topics_alreadyIgnoredServices graph s.registry.bridges1to2
    s.registry.bridges2to1]
  exact lookup_collectRos2Services hs₁ graph n

end Cycle

/-- **The bridge's own ROS 2 endpoints are not counted.** From a reachable state between ROS 2
cycles, when the graph counts the bridge's own publisher and subscriber besides the other
nodes' endpoints, reading the graph and publishing the topic snapshots returns, and publishes
the snapshots it would publish if the bridge held no endpoint and the graph counted only the
other nodes'. -/
theorem ros2Poll_discounts_own_endpoints (cfg : BridgeConfig ρ)
    (s : BridgeState H12 H21 S12 S21) (graph : Ros2Graph)
    (otherPublishers otherSubscribers : String → Nat) (hr : Reachable cfg s)
    (hidle : s.ros2Phase = .idle)
    (hc : CountsOwnEndpoints graph s.registry otherPublishers otherSubscribers) :
    ∃ s₂, run cfg s [.ros2Graph graph, .ros2PublishTopics] = some s₂ ∧ ∀ t,
      s₂.snapshots.ros2Publishers.lookup t =
          (graph.topicNamesAndTypes.lookup t).bind (fun types ↦ ros2TopicEntry cfg
            s.ros2Poller.alreadyIgnoredTopics false (otherPublishers t) ⟨t, types⟩) ∧
        s₂.snapshots.ros2Subscribers.lookup t =
          (graph.topicNamesAndTypes.lookup t).bind (fun types ↦ ros2TopicEntry cfg
            s.ros2Poller.alreadyIgnoredTopics false (otherSubscribers t) ⟨t, types⟩) := by
  obtain ⟨s₁, s₂, h₁, h₂, hl⟩ := ros2Poll_topicSnapshots cfg s graph hr hidle
  refine ⟨s₂, by simp only [run_cons, run_nil, h₁, h₂, Option.some_bind], fun t ↦ ?_⟩
  obtain ⟨hp, hs⟩ := hl t
  simp only [hp, hs, hc.countPublishers, hc.countSubscribers, ros2TopicEntry_discount, and_self]

/-- The graph `populatedGraph` as discovery shows it in `populatedState`, where the bridge
publishes `/chatter` on ROS 2 for its 1-to-2 bridge. -/
def echoGraph : Ros2Graph :=
  populatedGraph.withOwnEndpoints populatedState.registry

theorem ros2Poll_discounts_own_endpoints_echo :
    (Reachable openConfig populatedState ∧ populatedState.ros2Phase = .idle ∧
      CountsOwnEndpoints echoGraph populatedState.registry populatedGraph.countPublishers
        populatedGraph.countSubscribers) ∧
    ∃ s₂, run openConfig populatedState [.ros2Graph echoGraph, .ros2PublishTopics] = some s₂ ∧
      ∀ t, s₂.snapshots.ros2Publishers.lookup t =
          (echoGraph.topicNamesAndTypes.lookup t).bind (fun types ↦ ros2TopicEntry openConfig
            populatedState.ros2Poller.alreadyIgnoredTopics false
            (populatedGraph.countPublishers t) ⟨t, types⟩) ∧
        s₂.snapshots.ros2Subscribers.lookup t =
          (echoGraph.topicNamesAndTypes.lookup t).bind (fun types ↦ ros2TopicEntry openConfig
            populatedState.ros2Poller.alreadyIgnoredTopics false
            (populatedGraph.countSubscribers t) ⟨t, types⟩) :=
  ⟨⟨reachable_populatedState, rfl, countsOwnEndpoints_withOwnEndpoints _ _⟩,
    ros2Poll_discounts_own_endpoints openConfig populatedState echoGraph _ _
      reachable_populatedState rfl (countsOwnEndpoints_withOwnEndpoints _ _)⟩

/-- **The bridge does not bridge its own ROS 2 endpoints back.** From a reachable state, when the
graph counts the bridge's own endpoints besides the other nodes', a whole cycle leaves as it was
the 2-to-1 entry of a topic that no other ROS 2 node publishes, and, outside bridge-all mode,
the 1-to-2 entry of a topic that no other ROS 2 node subscribes to. -/
theorem ros2Cycle_ignores_own_endpoints (cfg : BridgeConfig ρ)
    (s s' : BridgeState H12 H21 S12 S21) (graph : Ros2Graph) (f : Factories H12 H21 S12 S21)
    (otherPublishers otherSubscribers : String → Nat) (hr : Reachable cfg s)
    (hc : CountsOwnEndpoints graph s.registry otherPublishers otherSubscribers)
    (h : run cfg s (ros2PollEvents graph f) = some s') (t : String) :
    (otherPublishers t = 0 → s'.registry.bridges2to1.lookup t = s.registry.bridges2to1.lookup t) ∧
    (otherSubscribers t = 0 → cfg.bridgeAll1to2Topics = false →
      s'.registry.bridges1to2.lookup t = s.registry.bridges1to2.lookup t) := by
  obtain ⟨-, -, hl, -, hu⟩ := ros2Cycle_spec hr h
  obtain ⟨hp, hs⟩ := hl t
  obtain ⟨hb12, hb21⟩ := updateBridge_topics hu
  refine ⟨fun h0 ↦ ?_, fun h0 hall ↦ ?_⟩
  · have hnone : s'.snapshots.ros2Publishers.lookup t = none := by
      simp only [hp, hc.countPublishers, ros2TopicEntry_discount, h0]
      cases graph.topicNamesAndTypes.lookup t <;> simp [ros2TopicEntry]
    rw [hb21]
    simp only [updateTopicBridges, create2to1Bridges]
    rw [lookup_foldl_of_pointwise createTopicBridge_pointwise, hnone]
  · have hnone : s'.snapshots.ros2Subscribers.lookup t = none := by
      simp only [hs, hc.countSubscribers, ros2TopicEntry_discount, h0]
      cases graph.topicNamesAndTypes.lookup t <;> simp [ros2TopicEntry]
    rw [hb12]
    simp only [updateTopicBridges, create1to2Bridges]
    rw [lookup_foldl_of_pointwise createTopicBridge_pointwise]
    rcases s'.snapshots.ros1Publishers.lookup t with _ | ty
    · rfl
    · exact topicBridgeOutcome_of_target_eq_none (by simp [targetTypeName, hnone, hall]) _

theorem ros2Cycle_ignores_own_endpoints_echo :
    ∃ s' : BridgeState Unit Unit Unit Unit,
      (Reachable openConfig populatedState ∧
        CountsOwnEndpoints echoGraph populatedState.registry populatedGraph.countPublishers
          populatedGraph.countSubscribers ∧
        run openConfig populatedState (ros2PollEvents echoGraph topicFactories) = some s') ∧
      (populatedGraph.countPublishers "/chatter" = 0 →
        s'.registry.bridges2to1.lookup "/chatter" =
          populatedState.registry.bridges2to1.lookup "/chatter") ∧
      (populatedGraph.countSubscribers "/chatter" = 0 → openConfig.bridgeAll1to2Topics = false →
        s'.registry.bridges1to2.lookup "/chatter" =
          populatedState.registry.bridges1to2.lookup "/chatter") :=
  ⟨_, ⟨reachable_populatedState, countsOwnEndpoints_withOwnEndpoints _ _, rfl⟩,
    ros2Cycle_ignores_own_endpoints openConfig populatedState _ echoGraph topicFactories _ _
      reachable_populatedState (countsOwnEndpoints_withOwnEndpoints _ _) rfl "/chatter"⟩

/-- **A ROS 2 cycle bridges every wanted topic to ROS 1.** From a reachable state, when the graph
counts the bridge's own endpoints besides the other nodes', a whole cycle whose `update_bridge`
returns leaves, for every admitted topic other than `parameter_events` that the poller does not
ignore, that the graph lists with the one type `ros2Type`, that another ROS 2 node publishes,
and that the ROS 1 subscriber snapshot lists with the type `ros1Type`, a 2-to-1 bridge with the
ROS 2 type `ros2Type` and the ROS 1 type `ros1Type` or the placeholder `""`, unless the factory
throws. -/
theorem ros2Cycle_bridges_wanted_topic (cfg : BridgeConfig ρ)
    (s s' : BridgeState H12 H21 S12 S21) (graph : Ros2Graph) (f : Factories H12 H21 S12 S21)
    (otherPublishers otherSubscribers : String → Nat) (hr : Reachable cfg s)
    (hc : CountsOwnEndpoints graph s.registry otherPublishers otherSubscribers)
    (h : run cfg s (ros2PollEvents graph f) = some s') (t : String) (types : AdvertisedTypes)
    (ros2Type ros1Type : String) (hadm : Admits cfg.regexMatch cfg.topicRegexList t)
    (hnot : t ∉ ignoredTopics) (hign : t ∉ s.ros2Poller.alreadyIgnoredTopics)
    (htypes : graph.topicNamesAndTypes.lookup t = some types) (hone : types.types = [ros2Type])
    (hpub : 0 < otherPublishers t) (hsub : s.snapshots.ros1Subscribers.lookup t = some ros1Type)
    (hf : (f.createBridgeFrom2To1 ros2Type t ros1Type).isSome) :
    ∃ b, s'.registry.bridges2to1.lookup t = some b ∧ b.ros2TypeName = ros2Type ∧
      (b.ros1TypeName = ros1Type ∨ b.ros1TypeName = "") := by
  obtain ⟨-, hsnap, hl, -, hu⟩ := ros2Cycle_spec hr h
  -- the publisher snapshot lists `t` with its one type
  have hp : s'.snapshots.ros2Publishers.lookup t = some ros2Type := by
    have hfirst : types.first = ros2Type := by simp [AdvertisedTypes.first, hone]
    simp only [(hl t).1, hc.countPublishers, ros2TopicEntry_discount, htypes, Option.some_bind]
    simp [ros2TopicEntry, hnot, hone, hign, hadm, hfirst, Nat.pos_iff_ne_zero.1 hpub]
  have hsub' : s'.snapshots.ros1Subscribers.lookup t = some ros1Type := by
    rwa [hsnap]
  -- `update_bridge`: the 2-to-1 pass at `t`
  rw [(updateBridge_topics hu).2]
  simp only [updateTopicBridges, create2to1Bridges]
  rw [lookup_foldl_of_pointwise createTopicBridge_pointwise, hp]
  exact topicBridgeOutcome_upToDate (by simp) (by simp [targetTypeName, hsub']) hf
    (fun b hup ↦ by
      simpa only [Bool.and_eq_true, Bool.or_eq_true, beq_iff_eq, and_comm] using hup) _

/-- A master on which a node other than the bridge subscribes to `/t`, and lists no type for it. -/
def listenerPayload : SystemState :=
  ⟨[], [("/t", ["/listener"])], []⟩

/-- A ROS 1 cycle on `listenerPayload`, up to its `update_bridge`. -/
def listenerEvents : List (PollEvent Unit Unit Unit Unit) :=
  [.ros1SystemState (some listenerPayload) noProbe, .ros1Topics (some ∅)]

/-- The state that a ROS 1 cycle on `listenerPayload` leaves before its `update_bridge`. -/
def listenerState : BridgeState Unit Unit Unit Unit :=
  (run openConfig BridgeState.init listenerEvents).getD BridgeState.init

theorem ros2Cycle_bridges_wanted_topic_listener :
    ∃ s' : BridgeState Unit Unit Unit Unit,
      (Reachable openConfig listenerState ∧
        CountsOwnEndpoints (topicGraph oneType) listenerState.registry (fun _ ↦ 1) (fun _ ↦ 0) ∧
        run openConfig listenerState (ros2PollEvents (topicGraph oneType) topicFactories) =
          some s' ∧
        Admits openConfig.regexMatch openConfig.topicRegexList "/t" ∧ "/t" ∉ ignoredTopics ∧
        "/t" ∉ listenerState.ros2Poller.alreadyIgnoredTopics ∧
        (topicGraph oneType).topicNamesAndTypes.lookup "/t" = some oneType ∧
        oneType.types = ["pkg/A"] ∧ 0 < (fun _ : String ↦ 1) "/t" ∧
        listenerState.snapshots.ros1Subscribers.lookup "/t" = some "" ∧
        (topicFactories.createBridgeFrom2To1 "pkg/A" "/t" "").isSome) ∧
      ∃ b, s'.registry.bridges2to1.lookup "/t" = some b ∧ b.ros2TypeName = "pkg/A" ∧
        (b.ros1TypeName = "" ∨ b.ros1TypeName = "") :=
  have hr : Reachable openConfig listenerState := Reachable.run openConfig .init
    (rfl : run openConfig BridgeState.init listenerEvents = some listenerState)
  ⟨_, ⟨hr, ⟨fun _ ↦ rfl, fun _ ↦ rfl⟩, rfl, by decide, by decide, by decide, rfl, rfl,
      by decide, rfl, rfl⟩,
    ros2Cycle_bridges_wanted_topic openConfig listenerState _ (topicGraph oneType) topicFactories
      (fun _ ↦ 1) (fun _ ↦ 0) hr ⟨fun _ ↦ rfl, fun _ ↦ rfl⟩ rfl "/t" oneType "pkg/A" ""
      (by decide) (by decide) (by decide) rfl rfl (by decide) rfl rfl⟩

/-- **A ROS 2 cycle bridges every offered service to ROS 1.** From a reachable state, a whole
cycle whose `update_bridge` returns leaves a 1-to-2 service bridge for every service that the
graph lists with one type, that the whitelist admits, that the poller does not ignore, whose type
has a `/`, that is not bridged the other way and that the ROS 1 service snapshot does not list,
unless the service factory for the package and name before and after that `/` is missing or
throws. -/
theorem ros2Cycle_bridges_offered_service (cfg : BridgeConfig ρ)
    (s s' : BridgeState H12 H21 S12 S21) (graph : Ros2Graph) (f : Factories H12 H21 S12 S21)
    (hr : Reachable cfg s) (h : run cfg s (ros2PollEvents graph f) = some s') (n : String)
    (types : AdvertisedTypes) (t : String) (pos : Nat)
    (hlisted : graph.serviceNamesAndTypes.lookup n = some types) (hone : types.types = [t])
    (hadm : Admits cfg.regexMatch cfg.serviceRegexList n)
    (hign : n ∉ s.ros2Poller.alreadyIgnoredServices) (hslash : findSlash t = some pos)
    (hfree : n ∉ s.registry.serviceBridges2To1) (hros1 : n ∉ s.snapshots.ros1Services)
    (hf : ((f.getServiceFactory "ros2" ⟨t.data.take pos⟩ ⟨t.data.drop (pos + 1)⟩).bind
      (·.serviceBridge1To2 n)).isSome) :
    n ∈ s'.registry.serviceBridges1To2 := by
  obtain ⟨-, hsnap, -, hsvc, hu⟩ := ros2Cycle_spec hr h
  have hfirst : types.first = t := by simp [AdvertisedTypes.first, hone]
  have hentry : s'.snapshots.ros2Services.lookup n = some (setPackageAndName ∅ t pos) := by
    rw [hsvc n, hlisted, Option.some_bind, hfirst]
    simp [ros2ServiceSplit, hone, hign, hadm, hfirst, hslash]
  have hros1' : s'.snapshots.ros1Services.lookup n = none := by
    rw [hsnap]
    exact AList.lookup_eq_none.2 hros1
  rw [← AList.lookup_isSome, (lookup_updateServiceBridges hu n).2]
  simp only [hentry, hros1', updateTopicBridges_serviceBridges2To1,
    updateTopicBridges_serviceBridges1To2]
  rcases s.registry.serviceBridges1To2.lookup n with _ | b
  · rw [if_neg (by simpa using hfree)]
    simpa [buildServiceBridge, setPackageAndName, AList.lookup_insert, AList.lookup_insert_ne]
      using hf
  · rfl

theorem ros2Cycle_bridges_offered_service_srv :
    ∃ s' : BridgeState Unit Unit Unit Unit,
      (Reachable openConfig initState ∧
        run openConfig initState (ros2PollEvents srvGraph serviceFactories) = some s' ∧
        srvGraph.serviceNamesAndTypes.lookup "/s" = some srvType ∧ srvType.types = ["pkg/Srv"] ∧
        Admits openConfig.regexMatch openConfig.serviceRegexList "/s" ∧
        "/s" ∉ initState.ros2Poller.alreadyIgnoredServices ∧ findSlash "pkg/Srv" = some 3 ∧
        "/s" ∉ initState.registry.serviceBridges2To1 ∧
        "/s" ∉ initState.snapshots.ros1Services ∧
        ((serviceFactories.getServiceFactory "ros2" ⟨"pkg/Srv".data.take 3⟩
          ⟨"pkg/Srv".data.drop (3 + 1)⟩).bind (·.serviceBridge1To2 "/s")).isSome) ∧
      "/s" ∈ s'.registry.serviceBridges1To2 :=
  ⟨_, ⟨.init, rfl, rfl, rfl, by decide, by decide, rfl, by decide, by decide, rfl⟩,
    ros2Cycle_bridges_offered_service openConfig initState _ srvGraph serviceFactories .init rfl
      "/s" srvType "pkg/Srv" 3 rfl rfl (by decide) (by decide) rfl (by decide) (by decide) rfl⟩

/-- **A ROS 2 cycle keeps only the 1-to-2 bridges of offered services.** After a whole cycle
from a reachable state, every 1-to-2 service bridge is one of a service that the graph lists
now with at most one type, that the poller did not ignore, that the whitelist admits, and whose
type has a `/`: a service gone from the graph loses its bridge in the cycle that no longer sees
it. -/
theorem ros2Cycle_serviceBridges_offered (cfg : BridgeConfig ρ)
    (s s' : BridgeState H12 H21 S12 S21) (graph : Ros2Graph) (f : Factories H12 H21 S12 S21)
    (hr : Reachable cfg s) (h : run cfg s (ros2PollEvents graph f) = some s') (n : String)
    (hn : n ∈ s'.registry.serviceBridges1To2) :
    ∃ types pos, graph.serviceNamesAndTypes.lookup n = some types ∧
      types.types.length ≤ 1 ∧ n ∉ s.ros2Poller.alreadyIgnoredServices ∧
      Admits cfg.regexMatch cfg.serviceRegexList n ∧ findSlash types.first = some pos := by
  obtain ⟨-, -, -, hsvc, hu⟩ := ros2Cycle_spec hr h
  have hmem := (mem_updateBridge hu).2.2.1 hn
  rw [← AList.lookup_isSome, hsvc n] at hmem
  rcases hl : graph.serviceNamesAndTypes.lookup n with _ | types
  · rw [hl] at hmem
    exact absurd hmem Bool.false_ne_true
  rw [hl, Option.some_bind, Option.isSome_map'] at hmem
  unfold ros2ServiceSplit at hmem
  split_ifs at hmem with hsplit
  · obtain ⟨pos, hpos⟩ := Option.isSome_iff_exists.1 hmem
    exact ⟨types, pos, rfl, hsplit.1, hsplit.2.1, hsplit.2.2, hpos⟩
  · exact absurd hmem Bool.false_ne_true

/-- The state a ROS 2 cycle on `srvGraph` leaves from the start. -/
def srvGraphState : BridgeState Unit Unit Unit Unit :=
  (run openConfig initState (ros2PollEvents srvGraph serviceFactories)).getD initState

theorem ros2Cycle_serviceBridges_offered_srv :
    (Reachable openConfig initState ∧
      run openConfig initState (ros2PollEvents srvGraph serviceFactories) = some srvGraphState ∧
      "/s" ∈ srvGraphState.registry.serviceBridges1To2) ∧
    ∃ types pos, srvGraph.serviceNamesAndTypes.lookup "/s" = some types ∧
      types.types.length ≤ 1 ∧ "/s" ∉ initState.ros2Poller.alreadyIgnoredServices ∧
      Admits openConfig.regexMatch openConfig.serviceRegexList "/s" ∧
      findSlash types.first = some pos :=
  ⟨⟨.init, rfl, by decide⟩, ros2Cycle_serviceBridges_offered openConfig initState srvGraphState
    srvGraph serviceFactories .init rfl "/s" (by decide)⟩

end WhitelistBridge
